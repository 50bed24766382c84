import Phrasebook.Numeric.Shortest

/-!
# Patterns

The text of a message is a pattern: plain text, or text with placeables that are resolved when the
text is formatted.  A placeable holds an expression; a select expression holds patterns again.
-/

namespace Phrasebook

/-- A literal value: text, or a number with the count of fraction digits it was written with. -/
inductive Literal where
  | text (value : String)
  | number (value : Binary64) (precision : UInt64)
deriving DecidableEq

mutual

/-- What stands in a placeable.  Term names are written without the leading `-` of their ids. -/
inductive Expression where
  | literal (value : Literal)
  | variable (name : String)
  | message (id : String) (attr : Option String)
  | term (name : String) (attr : Option String) (arguments : Option (List Argument))
  | call (name : String) (arguments : List Argument)
  | select (selector : Expression) (variants : List Variant) (star : UInt64)

inductive Argument where
  | positional (value : Expression)
  | named (name : String) (value : Literal)

/-- A pattern with the key under which a select expression chooses it. -/
inductive Variant where
  | mk (key : Literal) (value : Pattern)

inductive Pattern where
  | text (value : String)
  | complex (elements : List Element)

inductive Element where
  | text (value : String)
  | placeable (expression : Expression)

end

namespace Literal

def ofInt (n : Int) : Literal := .number (Binary64.ofInt n) 0

end Literal

namespace Expression

/-- The id under which the term with a name is registered. -/
def termId (name : String) : String := "-" ++ name

end Expression

namespace Variant

def key : Variant → Literal
  | .mk key _ => key

def value : Variant → Pattern
  | .mk _ value => value

end Variant

namespace Element

def text? : Element → Option String
  | .text s => some s
  | .placeable _ => none

end Element

namespace Pattern

/-- Build a pattern from elements.  Elements that are all text become one text. -/
def ofElements (elements : List Element) : Pattern :=
  if elements.all fun e => e.text?.isSome then
    .text (String.join (elements.filterMap Element.text?))
  else .complex elements

def text? : Pattern → Option String
  | .text s => some s
  | .complex _ => none

def isPlain : Pattern → Bool
  | .text _ => true
  | .complex elements => elements.all fun e => e.text?.isSome

end Pattern

end Phrasebook
