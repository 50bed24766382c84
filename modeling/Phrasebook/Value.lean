import Phrasebook.NameMap
import Phrasebook.Value.Instant
import Phrasebook.Value.Number

/-!
# Values

What an expression resolves to, and what a caller passes as an argument.  The type `γ` holds the
values of the host; they show themselves and choose variants through `CustomValue`.
-/

namespace Phrasebook

inductive Value (γ : Type) where
  | text (value : String)
  | number (value : Number)
  | instant (value : Instant)
  | absent (fallback : Option String)
  | custom (value : γ)

/-- Values by name, as arguments of a call or of a whole message. -/
abbrev Arguments (γ : Type) := NameMap (Value γ)

namespace Value

variable {γ : Type}

instance : Inhabited (Value γ) := ⟨.absent none⟩

/-- A number when the text writes one, otherwise the text as it is. -/
def ofText (text : String) : Value γ :=
  match Number.parse? text with
  | some n => .number n
  | none => .text text

def kind : Value γ → String
  | .text _ => "string"
  | .number _ => "number"
  | .instant _ => "datetime"
  | .absent _ => "none"
  | .custom _ => "custom"

def isAbsent : Value γ → Bool
  | .absent _ => true
  | _ => false

/-- What stands for a missing value: its fallback between braces. -/
def absentText (fallback : Option String) : String :=
  "\x7b" ++ fallback.getD "???" ++ "\x7d"

/-- Equality as the host sees it: numbers compare as numbers and custom values as the host says. -/
def equal [BEq γ] : Value γ → Value γ → Bool
  | .text a, .text b => a == b
  | .number a, .number b => a.equal b
  | .instant a, .instant b => a == b
  | .absent a, .absent b => a == b
  | .custom a, .custom b => a == b
  | _, _ => false

end Value

end Phrasebook
