import Phrasebook.Value.Merging

/-!
# Functions

What a pattern may call: a pure function of resolved values and named options.  `NUMBER` and
`DATETIME` are always there unless a host puts functions of its own in their place.
-/

namespace Phrasebook

inductive FunctionError where
  | missingArgument
  | invalidArgument (expected found : String)
  | other (message : String)
deriving DecidableEq

def FunctionError.message : FunctionError → String
  | .missingArgument => "missing positional argument"
  | .invalidArgument expected found => "expected " ++ expected ++ " argument, got " ++ found
  | .other message => message

abbrev Function (γ : Type) := List (Value γ) → Arguments γ → Except FunctionError (Value γ)

variable {γ : Type}

/-- Numbers take the named options over their own, and an instant becomes its milliseconds. -/
def numberFunction : Function γ := fun positional named =>
  match positional.head? with
  | some (.number n) => .ok (.number { n with options := n.options.merge named })
  | some (.instant t) =>
    .ok (.number ⟨Binary64.ofInt t.epochMillis.toInt, ({} : NumberOptions).merge named⟩)
  | some (.absent _) => .ok (.absent (some "NUMBER()"))
  | some v => .error (.invalidArgument "number" v.kind)
  | none => .error .missingArgument

/-- Instants take the named options over their own, and a finite number is read as milliseconds. -/
def instantFunction : Function γ := fun positional named =>
  match positional.head? with
  | some (.instant t) => .ok (.instant { t with options := t.options.merge named })
  | some (.number n) =>
    if n.value.isFinite then .ok (.instant ⟨n.value.toInt64, ({} : InstantOptions).merge named⟩)
    else .error (.invalidArgument "datetime" (Value.kind (.number n : Value γ)))
  | some (.absent _) => .ok (.absent (some "DATETIME()"))
  | some v => .error (.invalidArgument "datetime" v.kind)
  | none => .error .missingArgument

/-- Functions by their names, in which case matters. -/
abbrev Functions (γ : Type) := NameMap (Function γ)

namespace Functions

def builtins : Functions γ :=
  NameMap.ofList [("NUMBER", numberFunction), ("DATETIME", instantFunction)]

/-- Register a function under a name that is free; a taken name gives the function back. -/
def register (fs : Functions γ) (name : String) (f : Function γ) :
    Except (Function γ) (Functions γ) :=
  if fs.contains name then .error f else .ok (fs.insert name f)

end Functions

end Phrasebook
