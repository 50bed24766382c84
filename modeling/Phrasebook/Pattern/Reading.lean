import Phrasebook.Json.Skip
import Phrasebook.Pattern.Decoding

/-!
# Reading nodes from text

A node that is not inside a pattern has its tag read in place, so a fault in the tag is reported
where it lies; the other fields are read as documents and decoded when the node is complete.
-/

namespace Phrasebook

open Json (Cause NumberSource Reader)
open Json.Reader

variable [NumberSource]

inductive NodeBody where
  | members (fields : List (String × Json))
  | items (fields : List Json)

/-- A tag by its name; a wrong name is reported behind it. -/
def Tag.read : Reader Tag := do
  match Tag.ofName (← text "variant identifier") with
  | .ok tag => pure tag
  | .error cause => failHere cause

/-- A member of a node: its tag or, read as a document, a field. -/
def NodeBody.readMember (level : Nat) (acc : Option Tag × List (String × Json)) (key : String) :
    Reader (Option Tag × List (String × Json)) := do
  if key = "type" then
    match acc.1 with
    | some _ => fail (.duplicateField key)
    | none =>
      colon
      return (some (← Tag.read), acc.2)
  else return (acc.1, ← pushMember (valueAt level) acc.2 key)

def NodeBody.read : Nat → Reader (Tag × NodeBody) :=
  record nodeTitle
    (fun level => do
      match ← item? true Tag.read with
      | none => fail (.missingField "type")
      | some tag => return (tag, .items (← itemsUpTo (valueAt level) (← steps) false)))
    (fun level => do
      match ← foldMembers (NodeBody.readMember level) (none, []) with
      | (none, _) => fail (.missingField "type")
      | (some tag, fields) => return (tag, .members fields.reverse))

def NodeBody.decode (tag : Tag) : NodeBody → Except Cause Node
  | .members fields => do (← Fields.ofMembers tag {} fields).build tag .missingField
  | .items fields => do
    (← Fields.ofItems tag tag.fields {} fields).build tag fun _ => tag.tooShort fields.length

def Node.read (level : Nat) : Reader Node := do
  let (tag, body) ← NodeBody.read level
  ofExcept (body.decode tag)

def Literal.read (level : Nat) : Reader Literal := do ofExcept (Literal.ofNode (← Node.read level))

def Expression.read (level : Nat) : Reader Expression := do
  ofExcept (Expression.ofNode (← Node.read level))

def Argument.read (level : Nat) : Reader Argument := do
  ofExcept (Argument.ofNode (← Node.read level))

def Pattern.read (level : Nat) : Reader Pattern := do ofExcept (Pattern.ofJson (← valueAt level))

def Element.read (level : Nat) : Reader Element := do ofExcept (Element.ofJson (← valueAt level))

/-- A field that must not have been met yet. -/
def readOnce {α : Type} (field : String) (old : Option α) (value : Reader α) :
    Reader (Option α) := do
  match old with
  | some _ => fail (.duplicateField field)
  | none =>
    colon
    some <$> value

/-- The value of a field that nobody asked for. -/
def readUnknown : Reader Unit := do
  colon
  skipValue

def needField {α : Type} (field : String) (value : Option α) : Reader α :=
  ofExcept (Fields.need .missingField field value)

def needItem {α : Type} (found : Nat) (expected : String) (value : Option α) : Reader α :=
  ofExcept (Fields.need (fun _ => .wrongLength found expected) "" value)

def VariantFields.readMember (level : Nat) (f : VariantFields) (key : String) :
    Reader VariantFields := do
  if key = "key" then return { f with key := ← readOnce key f.key (Literal.read level) }
  else if key = "value" then return { f with value := ← readOnce key f.value (Pattern.read level) }
  else
    readUnknown
    return f

def Variant.read : Nat → Reader Variant :=
  record variantTitle
    (fun level => do
      let expected := variantTitle ++ " with 2 elements"
      let key ← needItem 0 expected (← item? true (Literal.read level))
      return .mk key (← needItem 1 expected (← item? false (Pattern.read level))))
    (fun level => do
      let f ← foldMembers (VariantFields.readMember level) {}
      let key ← needField "key" f.key
      return .mk key (← needField "value" f.value))

end Phrasebook
