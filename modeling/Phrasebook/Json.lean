import Phrasebook.Numeric.Shortest

/-!
# JSON documents

A document as it was written: the members of an object in their order and with their repeats, and
numbers either as 64-bit integers or as binary64 values.
-/

namespace Phrasebook

inductive Json where
  | null
  | bool (value : Bool)
  | integer (value : Int)
  | real (value : Binary64)
  | string (value : String)
  | array (items : List Json)
  | object (members : List (String × Json))

namespace Json

instance : Inhabited Json := ⟨.null⟩

def member? (name : String) : List (String × Json) → Option Json
  | [] => none
  | (k, v) :: rest => if k = name then some v else member? name rest

/-- The member of an object; a member of anything else is missing. -/
def get? (name : String) : Json → Option Json
  | .object members => member? name members
  | _ => none

end Json

end Phrasebook
