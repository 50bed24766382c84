import Phrasebook.Pattern
import Phrasebook.Json.Writer

/-!
# Patterns as JSON

Text is a JSON string and a pattern with placeables a list.  Everything that may stand in a
placeable is an object whose `type` member names its kind; an attribute and the arguments of a term
are left out when absent, while an empty list of arguments is kept.
-/

namespace Phrasebook

def Json.tagged (tag : String) (members : List (String × Json)) : Json :=
  .object (("type", .string tag) :: members)

def Literal.toJson : Literal → Json
  | .text s => .tagged "str" [("value", .string s)]
  | .number x precision =>
    .tagged "num" [("value", .real x), ("precision", .integer precision.toNat)]

/-- The member that names an attribute, if there is one. -/
def attrMember : Option String → List (String × Json)
  | none => []
  | some a => [("attr", .string a)]

mutual

def Expression.toJson : Expression → Json
  | .literal l => l.toJson
  | .variable name => .tagged "var" [("name", .string name)]
  | .message id attr => .tagged "mesg" (("name", .string id) :: attrMember attr)
  | .term name attr none => .tagged "term" (("name", .string name) :: attrMember attr)
  | .term name attr (some arguments) =>
    .tagged "term" (("name", .string name) :: attrMember attr ++
      [("args", .array (Argument.listToJson arguments))])
  | .call name arguments =>
    .tagged "func" [("name", .string name), ("args", .array (Argument.listToJson arguments))]
  | .select selector variants star =>
    .tagged "select"
      [("selector", selector.toJson), ("variants", .array (Variant.listToJson variants)),
        ("star", .integer star.toNat)]

def Argument.toJson : Argument → Json
  | .positional e => e.toJson
  | .named name value => .tagged "narg" [("name", .string name), ("value", value.toJson)]

def Argument.listToJson : List Argument → List Json
  | [] => []
  | a :: rest => a.toJson :: Argument.listToJson rest

def Variant.toJson : Variant → Json
  | .mk key value => .object [("key", key.toJson), ("value", value.toJson)]

def Variant.listToJson : List Variant → List Json
  | [] => []
  | v :: rest => v.toJson :: Variant.listToJson rest

def Pattern.toJson : Pattern → Json
  | .text s => .string s
  | .complex elements => .array (Element.listToJson elements)

def Element.toJson : Element → Json
  | .text s => .string s
  | .placeable e => e.toJson

def Element.listToJson : List Element → List Json
  | [] => []
  | e :: rest => e.toJson :: Element.listToJson rest

end

end Phrasebook
