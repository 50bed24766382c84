import Phrasebook.Pattern.Reading
import Phrasebook.Resource.Decoding

/-!
# Reading resources

A resource and its entries are read field by field, so a fault outside of a pattern is reported
where it lies.
-/

namespace Phrasebook

open Json (NumberSource Reader)
open Json.Reader

variable [NumberSource]

/-- Attributes by name; of two with one name the later stays. -/
def readAttributes : Nat → Reader (NameMap Pattern) :=
  map
    (fun level attributes name => do
      colon
      return attributes.insert name (← Pattern.read level))
    .empty

def readId : Reader String := text "a string"

def EntryFields.readMember (level : Nat) (f : EntryFields) (key : String) : Reader EntryFields := do
  if key = "id" then return { f with id := ← readOnce key f.id readId }
  else if key = "value" then
    return { f with value := ← readOnce key f.value (optional (Pattern.read level)) }
  else if key = "attributes" then
    return { f with attributes := ← readOnce key f.attributes (readAttributes level) }
  else
    readUnknown
    return f

def Entry.read : Nat → Reader Entry :=
  record entryTitle
    (fun level => do
      let id ← needItem 0 (entryTitle ++ " with 3 elements") (← item? true readId)
      let value ← item? false (optional (Pattern.read level))
      let attributes ← item? false (readAttributes level)
      return EntryFields.build ⟨some id, value, attributes⟩ id)
    (fun level => do
      let f ← foldMembers (EntryFields.readMember level) {}
      return f.build (← needField "id" f.id))

def Resource.readMember (level : Nat) (body : Option (List Entry)) (key : String) :
    Reader (Option (List Entry)) := do
  if key = "body" then readOnce key body (list Entry.read level)
  else
    readUnknown
    return body

def Resource.read : Nat → Reader Resource :=
  record resourceTitle
    (fun level => do
      let expected := resourceTitle ++ " with 1 element"
      return ⟨← needItem 0 expected (← item? true (list Entry.read level))⟩)
    (fun level => do
      return ⟨← needField "body" (← foldMembers (Resource.readMember level) none)⟩)

def Resource.ofText (text : List Char) : Except Json.Error Resource := run Resource.read text

end Phrasebook
