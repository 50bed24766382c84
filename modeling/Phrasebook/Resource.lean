import Phrasebook.NameMap
import Phrasebook.Pattern

/-!
# Resources

A resource is an ordered list of entries.  An entry whose id begins with `-` is a term, which only
other entries can refer to; every other entry is a message.
-/

namespace Phrasebook

structure Entry where
  id : String
  value : Option Pattern
  attributes : NameMap Pattern

structure Resource where
  body : List Entry

def isTermId (id : String) : Bool := id.toList.head? = some '-'

namespace Entry

def isTerm (e : Entry) : Bool := isTermId e.id

/-- The entry with one more attribute, or with another pattern for the attribute of that name. -/
def withAttribute (e : Entry) (name : String) (value : Pattern) : Entry :=
  { e with attributes := e.attributes.insert name value }

end Entry

namespace Resource

/-- The ids of the messages, in the order of their entries. -/
def messageIds (r : Resource) : List String := (r.body.filter fun e => !e.isTerm).map Entry.id

end Resource

end Phrasebook
