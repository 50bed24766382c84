import Phrasebook.Pattern
import Phrasebook.Json.Error

/-!
# Nodes

Literals, expressions and arguments of calls share one JSON form, the node: a tag and the fields
that go with it.  The fields are collected one after the other, by name or by place, and a node is
built from them at the end.  What a node stands for is decided by a conversion of its own for each
of the three; the parts of a node were converted when it was built.
-/

namespace Phrasebook

open Json (Cause)

namespace Json

def asText : Json → Except Cause String
  | .string s => .ok s
  | v => .error (.wrongType v.found "a string")

def asReal : Json → Except Cause Binary64
  | .real x => .ok x
  | .integer n => .ok (Binary64.ofInt n)
  | v => .error (.wrongType v.found "f64")

def asCount : Json → Except Cause UInt64
  | .integer n =>
    if n < 0 then .error (.wrongValue (.integer n) "usize") else .ok (UInt64.ofNat n.toNat)
  | v => .error (.wrongType v.found "usize")

def asOptionalText : Json → Except Cause (Option String)
  | .null => .ok none
  | v => some <$> v.asText

end Json

/-- What literals, expressions and arguments are written as. -/
inductive Node where
  | str (value : String)
  | num (value : Binary64) (precision : UInt64)
  | var (name : String)
  | mesg (name : String) (attr : Option String)
  | term (name : String) (attr : Option String) (args : Option (List Argument))
  | func (name : String) (args : List Argument)
  | select (selector : Expression) (variants : List Variant) (star : UInt64)
  | narg (name : String) (value : Literal)

def Literal.ofNode : Node → Except Cause Literal
  | .str value => .ok (.text value)
  | .num value precision => .ok (.number value precision)
  | _ => .error .notLiteral

def Expression.ofNode : Node → Except Cause Expression
  | .str value => .ok (.literal (.text value))
  | .num value precision => .ok (.literal (.number value precision))
  | .var name => .ok (.variable name)
  | .mesg name attr => .ok (.message name attr)
  | .term name attr args => .ok (.term name attr args)
  | .func name args => .ok (.call name args)
  | .select selector variants star => .ok (.select selector variants star)
  | .narg .. => .error .namedOutsideCall

def Argument.ofNode : Node → Except Cause Argument
  | .narg name value => .ok (.named name value)
  | node => .positional <$> Expression.ofNode node

def Literal.toNode : Literal → Node
  | .text value => .str value
  | .number value precision => .num value precision

def Expression.toNode : Expression → Node
  | .literal l => l.toNode
  | .variable name => .var name
  | .message id attr => .mesg id attr
  | .term name attr arguments => .term name attr arguments
  | .call name arguments => .func name arguments
  | .select selector variants star => .select selector variants star

def Argument.toNode : Argument → Node
  | .positional e => e.toNode
  | .named name value => .narg name value

@[simp]
theorem Literal.ofNode_toNode (l : Literal) : Literal.ofNode l.toNode = .ok l := by
  cases l <;> rfl

@[simp]
theorem Expression.ofNode_toNode (e : Expression) : Expression.ofNode e.toNode = .ok e := by
  cases e with
  | literal l => cases l <;> rfl
  | «variable» | message | term | call | select => rfl

@[simp]
theorem Argument.ofNode_toNode (a : Argument) : Argument.ofNode a.toNode = .ok a := by
  cases a with
  | named => rfl
  | positional e =>
      cases e with
      | literal l => cases l <;> rfl
      | «variable» | message | term | call | select => rfl

inductive Tag where
  | str
  | num
  | var
  | mesg
  | term
  | func
  | select
  | narg
deriving DecidableEq

namespace Tag

def all : List Tag := [str, num, var, mesg, term, func, select, narg]

def name : Tag → String
  | str => "str"
  | num => "num"
  | var => "var"
  | mesg => "mesg"
  | term => "term"
  | func => "func"
  | select => "select"
  | narg => "narg"

def fields : Tag → List String
  | str => ["value"]
  | num => ["value", "precision"]
  | var => ["name"]
  | mesg => ["name", "attr"]
  | term => ["name", "attr", "args"]
  | func => ["name", "args"]
  | select => ["selector", "variants", "star"]
  | narg => ["name", "value"]

def title : Tag → String
  | str => "Str"
  | num => "Num"
  | var => "Var"
  | mesg => "Mesg"
  | term => "Term"
  | func => "Func"
  | select => "Select"
  | narg => "Narg"

def ofName (s : String) : Except Cause Tag :=
  match all.find? fun t => t.name == s with
  | some t => .ok t
  | none => .error (.unknownTag s (all.map name))

/-- A tag inside a document that was read before: its name, or its place among the tags. -/
def ofJson : Json → Except Cause Tag
  | .string s => ofName s
  | .integer n =>
    if n < 0 then .error (.wrongType (.integer n) "variant identifier")
    else
      match all[n.toNat]? with
      | some t => .ok t
      | none => .error (.wrongValue (.integer n) "variant index 0 <= i < 8")
  | v => .error (.wrongType v.found "variant identifier")

end Tag

def Node.tag : Node → Tag
  | .str _ => .str
  | .num .. => .num
  | .var _ => .var
  | .mesg .. => .mesg
  | .term .. => .term
  | .func .. => .func
  | .select .. => .select
  | .narg .. => .narg

def elementsText (count : Nat) : String :=
  if count = 1 then "1 element" else digitsText count ++ " elements"

def Tag.tooShort (tag : Tag) (found : Nat) : Cause :=
  .wrongLength found
    ("struct variant NodeRepr::" ++ tag.title ++ " with " ++ elementsText tag.fields.length)

def tooLong (found fields : Nat) : Cause :=
  .wrongLength found (elementsText fields ++ " in sequence")

structure Fields where
  text : Option String := none
  number : Option Binary64 := none
  precision : Option UInt64 := none
  name : Option String := none
  attr : Option (Option String) := none
  arguments : Option (Option (List Argument)) := none
  selector : Option Expression := none
  variants : Option (List Variant) := none
  star : Option UInt64 := none
  literal : Option Literal := none

/-- Store a field that must not be there yet.  The repeat is found before the value is looked at. -/
def once {α : Type} (field : String) (old : Option α) (new : Except Cause α) : Except Cause α :=
  match old with
  | some _ => .error (.duplicateField field)
  | none => new

/-- How the value of a field is read, for each type that a field can have. -/
structure FieldReading where
  value : Json
  literal : Unit → Except Cause Literal
  expression : Unit → Except Cause Expression
  arguments : Unit → Except Cause (List Argument)
  variants : Unit → Except Cause (List Variant)

namespace Fields

/-- Take in the field of a node.  A field that its kind does not have is passed over. -/
def put (tag : Tag) (field : String) (r : FieldReading) (f : Fields) : Except Cause Fields := do
  match tag, field with
  | .str, "value" => return { f with text := some (← once field f.text r.value.asText) }
  | .num, "value" => return { f with number := some (← once field f.number r.value.asReal) }
  | .num, "precision" =>
    return { f with precision := some (← once field f.precision r.value.asCount) }
  | .select, "selector" =>
    return { f with selector := some (← once field f.selector (r.expression ())) }
  | .select, "variants" =>
    return { f with variants := some (← once field f.variants (r.variants ())) }
  | .select, "star" => return { f with star := some (← once field f.star r.value.asCount) }
  | .narg, "value" =>
    return { f with literal := some (← once field f.literal (r.literal ())) }
  | .mesg, "attr" | .term, "attr" =>
    return { f with attr := some (← once field f.attr r.value.asOptionalText) }
  | .term, "args" =>
    return { f with arguments := some (← once field f.arguments (match r.value with
      | .null => .ok none
      | _ => some <$> r.arguments ())) }
  | .func, "args" =>
    return { f with arguments := some (← once field f.arguments (some <$> r.arguments ())) }
  | .var, "name" | .mesg, "name" | .term, "name" | .func, "name" | .narg, "name" =>
    return { f with name := some (← once field f.name r.value.asText) }
  | _, _ => return f

def need {α : Type} (missing : String → Cause) (field : String) : Option α → Except Cause α
  | some a => .ok a
  | none => .error (missing field)

/-- The node of a kind with these fields.  `missing` is the error for a field that is not there. -/
def build (tag : Tag) (missing : String → Cause) (f : Fields) : Except Cause Node := do
  match tag with
  | .str => return .str (← need missing "value" f.text)
  | .num =>
    let x ← need missing "value" f.number
    return .num x (f.precision.getD 0)
  | .var => return .var (← need missing "name" f.name)
  | .mesg => return .mesg (← need missing "name" f.name) (f.attr.getD none)
  | .term =>
    let name ← need missing "name" f.name
    return .term name (f.attr.getD none) (f.arguments.getD none)
  | .func =>
    let name ← need missing "name" f.name
    return .func name ((f.arguments.getD none).getD [])
  | .select =>
    let selector ← need missing "selector" f.selector
    let variants ← need missing "variants" f.variants
    return .select selector variants (← need missing "star" f.star)
  | .narg =>
    let name ← need missing "name" f.name
    return .narg name (← need missing "value" f.literal)

end Fields

end Phrasebook
