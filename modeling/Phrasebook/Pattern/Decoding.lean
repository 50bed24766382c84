import Phrasebook.Pattern.Node

/-!
# Patterns from JSON documents

Patterns are decoded from a document that was read as a whole.  What stands between the elements of
a pattern is decided by its shape alone: text is a string, and anything else has to be a node.  A
failure anywhere below is reported as a failure of the pattern.
-/

namespace Phrasebook

open Json (Cause)

/-- The tag of an object, which must have one and only one. -/
def Tag.ofMembers : Option Tag → List (String × Json) → Except Cause Tag
  | none, [] => .error (.missingField "type")
  | some tag, [] => .ok tag
  | tag?, (k, v) :: rest => do
    if k = "type" then
      let tag ← once k tag? (Tag.ofJson v)
      Tag.ofMembers (some tag) rest
    else Tag.ofMembers tag? rest

def nodeTitle : String := "internally tagged enum NodeRepr"

structure VariantFields where
  key : Option Literal := none
  value : Option Pattern := none

def variantTitle : String := "struct Variant"

def VariantFields.build (f : VariantFields) : Except Cause Variant := do
  let key ← Fields.need .missingField "key" f.key
  return .mk key (← Fields.need .missingField "value" f.value)

def Element.ofExpression (e : Except Cause Expression) : Except Cause Element :=
  match e with
  | .ok e => .ok (.placeable e)
  | .error _ => .error (.noAlternative "PatternElement")

mutual

def Node.ofJson : Json → Except Cause Node
  | .object members => do
    let tag ← Tag.ofMembers none members
    let f ← Fields.ofMembers tag {} members
    f.build tag .missingField
  | .array [] => .error (.missingField "type")
  | .array (t :: items) => do
    let tag ← Tag.ofJson t
    let f ← Fields.ofItems tag tag.fields {} items
    f.build tag fun _ => tag.tooShort items.length
  | v => .error (.wrongType v.found nodeTitle)

def Argument.listOfJson : List Json → Except Cause (List Argument)
  | [] => .ok []
  | v :: vs => do
    let a ← Node.ofJson v >>= Argument.ofNode
    return a :: (← Argument.listOfJson vs)

def Fields.ofMembers (tag : Tag) (f : Fields) : List (String × Json) → Except Cause Fields
  | [] => .ok f
  | (k, v) :: rest => do
    let f ← f.put tag k
      ⟨v, fun _ => Node.ofJson v >>= Literal.ofNode, fun _ => Node.ofJson v >>= Expression.ofNode,
        fun _ => Argument.itemsOfJson v, fun _ => Variant.itemsOfJson v⟩
    Fields.ofMembers tag f rest

def Fields.ofItems (tag : Tag) (names : List String) (f : Fields) :
    List Json → Except Cause Fields
  | [] => .ok f
  | v :: rest => do
    match names with
    | [] => .error (tooLong (tag.fields.length + rest.length + 1) tag.fields.length)
    | k :: names =>
      let f ← f.put tag k
        ⟨v, fun _ => Node.ofJson v >>= Literal.ofNode, fun _ => Node.ofJson v >>= Expression.ofNode,
          fun _ => Argument.itemsOfJson v, fun _ => Variant.itemsOfJson v⟩
      Fields.ofItems tag names f rest

def Argument.itemsOfJson : Json → Except Cause (List Argument)
  | .array vs => Argument.listOfJson vs
  | v => .error (.wrongType v.found "a sequence")

def Variant.itemsOfJson : Json → Except Cause (List Variant)
  | .array vs => Variant.listOfJson vs
  | v => .error (.wrongType v.found "a sequence")

def Variant.listOfJson : List Json → Except Cause (List Variant)
  | [] => .ok []
  | v :: vs => do
    let a ← Variant.ofJson v
    return a :: (← Variant.listOfJson vs)

def Variant.ofJson : Json → Except Cause Variant
  | .object members => do
    let f ← VariantFields.ofMembers {} members
    f.build
  | .array [] => .error (.wrongLength 0 (variantTitle ++ " with 2 elements"))
  | .array [k] => do
    let _ ← Node.ofJson k >>= Literal.ofNode
    .error (.wrongLength 1 (variantTitle ++ " with 2 elements"))
  | .array (k :: v :: rest) => do
    let key ← Node.ofJson k >>= Literal.ofNode
    let value ← Pattern.ofJson v
    match rest with
    | [] => .ok (.mk key value)
    | _ => .error (tooLong (rest.length + 2) 2)
  | v => .error (.wrongType v.found variantTitle)

def VariantFields.ofMembers (f : VariantFields) :
    List (String × Json) → Except Cause VariantFields
  | [] => .ok f
  | (k, v) :: rest => do
    if k = "key" then
      let key ← once k f.key (Node.ofJson v >>= Literal.ofNode)
      VariantFields.ofMembers { f with key := some key } rest
    else if k = "value" then
      let value ← once k f.value (Pattern.ofJson v)
      VariantFields.ofMembers { f with value := some value } rest
    else VariantFields.ofMembers f rest

/-- The pattern that a document writes: a text or a list of elements. -/
def Pattern.ofJson : Json → Except Cause Pattern
  | .string s => .ok (.text s)
  | .array vs =>
    match Element.listOfJson vs with
    | .ok elements => .ok (.complex elements)
    | .error _ => .error (.noAlternative "Pattern")
  | _ => .error (.noAlternative "Pattern")

def Element.listOfJson : List Json → Except Cause (List Element)
  | [] => .ok []
  | .string s :: vs => do return .text s :: (← Element.listOfJson vs)
  | v :: vs => do
    let e ← Element.ofExpression (Node.ofJson v >>= Expression.ofNode)
    return e :: (← Element.listOfJson vs)

end

def Literal.ofJson (v : Json) : Except Cause Literal := Node.ofJson v >>= Literal.ofNode

def Expression.ofJson (v : Json) : Except Cause Expression := Node.ofJson v >>= Expression.ofNode

def Argument.ofJson (v : Json) : Except Cause Argument := Node.ofJson v >>= Argument.ofNode

def Element.ofJson : Json → Except Cause Element
  | .string s => .ok (.text s)
  | v => Element.ofExpression (Expression.ofJson v)

def Tag.checkNamed : Json → Except Cause Unit
  | .string _ => .ok ()
  | v => .error (.wrongType v.found "variant identifier")

/-- The node that a whole document writes.  Its tag has to be a name: only inside of another node
may the place of a tag stand for it. -/
def Node.ofDocument (v : Json) : Except Cause Node := do
  match v with
  | .object members => (Json.member? "type" members).forM Tag.checkNamed
  | .array items => items.head?.forM Tag.checkNamed
  | _ => pure ()
  Node.ofJson v

def Literal.ofDocument (v : Json) : Except Cause Literal := Node.ofDocument v >>= Literal.ofNode

def Expression.ofDocument (v : Json) : Except Cause Expression :=
  Node.ofDocument v >>= Expression.ofNode

def Argument.ofDocument (v : Json) : Except Cause Argument := Node.ofDocument v >>= Argument.ofNode

end Phrasebook
