import Phrasebook.Pattern.Decoding
import Phrasebook.Resource

/-!
# Resources from JSON documents

A resource may also be decoded from a document that was read as a whole.  A record is an object of
named fields, or a list of the fields in their order.
-/

namespace Phrasebook

open Json (Cause)

/-- Decode a record: `put` takes in one field, and `build` makes the record of all of them, given
the error for a field that is not there. -/
def Json.asRecord {σ α : Type} (title : String) (names : List String)
    (put : σ → String → Json → Except Cause σ) (build : (String → Cause) → σ → Except Cause α)
    (start : σ) : Json → Except Cause α
  | .object members => do
    build .missingField (← members.foldlM (fun f m => put f m.1 m.2) start)
  | .array items => do
    let f ← (names.zip items).foldlM (fun f m => put f m.1 m.2) start
    let expected := title ++ " with " ++ elementsText names.length
    let record ← build (fun _ => .wrongLength items.length expected) f
    if names.length < items.length then
      .error (.wrongLength items.length "fewer elements in array")
    else return record
  | v => .error (.wrongType v.found title)

structure EntryFields where
  id : Option String := none
  value : Option (Option Pattern) := none
  attributes : Option (NameMap Pattern) := none

def entryTitle : String := "struct Entry"

def entryFieldNames : List String := ["id", "value", "attributes"]

def Pattern.optionalOfJson : Json → Except Cause (Option Pattern)
  | .null => .ok none
  | v => some <$> Pattern.ofJson v

/-- Attributes by name; of two with one name the later stays. -/
def Pattern.attributesOfJson : Json → Except Cause (NameMap Pattern)
  | .object members => NameMap.ofList <$> members.mapM fun m => (m.1, ·) <$> Pattern.ofJson m.2
  | v => .error (.wrongType v.found "a map")

namespace EntryFields

/-- Take in a field.  One that an entry does not have is passed over. -/
def put (f : EntryFields) (field : String) (v : Json) : Except Cause EntryFields := do
  match field with
  | "id" => return { f with id := some (← once field f.id v.asText) }
  | "value" => return { f with value := some (← once field f.value (Pattern.optionalOfJson v)) }
  | "attributes" =>
    let attributes ← once field f.attributes (Pattern.attributesOfJson v)
    return { f with attributes := some attributes }
  | _ => return f

/-- The entry with these fields: only the id has to be there. -/
def build (f : EntryFields) (id : String) : Entry :=
  ⟨id, f.value.getD none, f.attributes.getD .empty⟩

end EntryFields

def Entry.ofJson : Json → Except Cause Entry :=
  Json.asRecord entryTitle entryFieldNames EntryFields.put
    (fun missing f => f.build <$> Fields.need missing "id" f.id) {}

def resourceTitle : String := "struct Resource"

def resourceFieldNames : List String := ["body"]

def Entry.itemsOfJson : Json → Except Cause (List Entry)
  | .array vs => vs.mapM Entry.ofJson
  | v => .error (.wrongType v.found "a sequence")

/-- The resource that a document writes: all of it is the list of its entries. -/
def Resource.ofJson : Json → Except Cause Resource :=
  Json.asRecord resourceTitle resourceFieldNames
    (fun body field v => do
      if field = "body" then return some (← once field body (Entry.itemsOfJson v))
      else return body)
    (fun missing body => Resource.mk <$> Fields.need missing "body" body) none

end Phrasebook
