import Phrasebook.Json.Figures
import Phrasebook.Text.Hex

/-!
# Writing JSON

Compact text, and text laid out on lines with two blanks for each level.  A real number is written
with the fewest digits that read back, positionally from `1e-5` up to `1e16`, and never without a
point or an exponent, so that it reads back as a real number.
-/

namespace Phrasebook.Json

/-- A character as it stands in a written string.  Only quotes, backslashes and controls are
escaped. -/
def escapeChar (c : Char) : List Char :=
  if c = '"' then ['\\', '"']
  else if c = '\\' then ['\\', '\\']
  else if c = '\x08' then ['\\', 'b']
  else if c = '\x0c' then ['\\', 'f']
  else if c = '\n' then ['\\', 'n']
  else if c = '\r' then ['\\', 'r']
  else if c = '\t' then ['\\', 't']
  else if c.toNat < 0x20 then
    ['\\', 'u', '0', '0', Text.hexDigit (c.toNat / 16), Text.hexDigit (c.toNat % 16)]
  else [c]

def stringChars (s : String) : List Char := '"' :: s.toList.flatMap escapeChar ++ ['"']

def integerChars (n : Int) : List Char :=
  (if n < 0 then ['-'] else []) ++ (Digit.ofNat n.natAbs).map Digit.toChar

/-- An exponent of ten behind a number, always with its sign. -/
def exponentChars (n : Int) : List Char :=
  'e' :: (if n < 0 then '-' else '+') :: (Digit.ofNat n.natAbs).map Digit.toChar

def Figures.chars (f : Figures) : List Char :=
  (Numeral.mk false f.integer f.fraction).chars ++
    if f.power = 0 then [] else exponentChars f.power

def figures (d : Decimal) : Figures :=
  let ds := Digit.ofNat d.significand
  let order : Int := d.exponent + ds.length - 1
  if -5 ≤ order ∧ order < 16 then
    let numeral := d.toNumeral false
    { integer := numeral.integer
      fraction := if numeral.fraction.isEmpty then [.zero] else numeral.fraction }
  else ⟨ds.take 1, ds.drop 1, order⟩

/-- A finite magnitude, with the fewest digits that are read as it. -/
def magnitudeFigures (x : Magnitude) : Figures := figures (x.shortest .even)

/-- A real number; what is not finite has no notation and becomes `null`. -/
def realChars : Binary64 → List Char
  | .finite s x => (if s then ['-'] else []) ++ (magnitudeFigures x).chars
  | _ => ['n', 'u', 'l', 'l']

mutual

def chars : Json → List Char
  | .null => ['n', 'u', 'l', 'l']
  | .bool true => ['t', 'r', 'u', 'e']
  | .bool false => ['f', 'a', 'l', 's', 'e']
  | .integer n => integerChars n
  | .real x => realChars x
  | .string s => stringChars s
  | .array [] => ['[', ']']
  | .array (v :: vs) => '[' :: v.chars ++ itemChars vs
  | .object [] => ['\x7b', '\x7d']
  | .object ((k, v) :: ms) => '\x7b' :: stringChars k ++ ':' :: v.chars ++ memberChars ms

/-- The items after the first, and the closing bracket. -/
def itemChars : List Json → List Char
  | [] => [']']
  | v :: vs => ',' :: v.chars ++ itemChars vs

/-- The members after the first, and the closing brace. -/
def memberChars : List (String × Json) → List Char
  | [] => ['\x7d']
  | (k, v) :: ms => ',' :: stringChars k ++ ':' :: v.chars ++ memberChars ms

end

def compact (v : Json) : String := String.ofList v.chars

def indent (level : Nat) : List Char := '\n' :: List.replicate (2 * level) ' '

mutual

/-- The text of a document on lines, under `level` brackets. -/
def lineChars (level : Nat) : Json → List Char
  | .null => ['n', 'u', 'l', 'l']
  | .bool true => ['t', 'r', 'u', 'e']
  | .bool false => ['f', 'a', 'l', 's', 'e']
  | .integer n => integerChars n
  | .real x => realChars x
  | .string s => stringChars s
  | .array [] => ['[', ']']
  | .array (v :: vs) =>
    '[' :: indent (level + 1) ++ v.lineChars (level + 1) ++ itemLineChars level vs
  | .object [] => ['\x7b', '\x7d']
  | .object ((k, v) :: ms) =>
    '\x7b' :: indent (level + 1) ++ stringChars k ++ ':' :: ' ' :: v.lineChars (level + 1) ++
      memberLineChars level ms

def itemLineChars (level : Nat) : List Json → List Char
  | [] => indent level ++ [']']
  | v :: vs => ',' :: indent (level + 1) ++ v.lineChars (level + 1) ++ itemLineChars level vs

def memberLineChars (level : Nat) : List (String × Json) → List Char
  | [] => indent level ++ ['\x7d']
  | (k, v) :: ms =>
    ',' :: indent (level + 1) ++ stringChars k ++ ':' :: ' ' :: v.lineChars (level + 1) ++
      memberLineChars level ms

end

/-- The text of a document with each item and member on a line of its own. -/
def pretty (v : Json) : String := String.ofList (v.lineChars 0)

end Phrasebook.Json
