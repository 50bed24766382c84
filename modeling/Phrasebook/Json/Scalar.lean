import Phrasebook.Json.Cursor
import Phrasebook.Json.Figures

/-!
# Reading words, numbers and strings

The parts of a document that hold no other part.
-/

namespace Phrasebook.Json.Reader

def word : List Char → Reader Unit
  | [] => pure ()
  | c :: cs => do
    match ← peek? with
    | none => failHere .endInValue
    | some d =>
      if d = c then
        skip
        word cs
      else failAhead .expectedWord

def digitsUpTo : Nat → Reader (List Digit)
  | 0 => pure []
  | fuel + 1 => do
    match (← peek?).bind Digit.ofChar? with
    | none => pure []
    | some d =>
      skip
      return d :: (← digitsUpTo fuel)

def digits : Reader (List Digit) := do digitsUpTo (← steps)

def maxExponent : Nat := twoPow 31 - 1

/-- The digits of an exponent.  Once the exponent is larger than any that is counted, a number that
is not zero is out of range at once. -/
def exponentUpTo (outOfRange : Bool) : Nat → Nat → Reader Nat
  | 0, n => pure n
  | fuel + 1, n => do
    match (← peek?).bind Digit.ofChar? with
    | none => pure n
    | some d =>
      skip
      let n := 10 * n + d.val
      if outOfRange && decide (maxExponent < n) then failHere .numberOutOfRange
      else exponentUpTo outOfRange fuel n

/-- The sign of an exponent if there is one: whether it is a minus. -/
def exponentSign : Reader Bool := do
  match ← peek? with
  | some '+' =>
    skip
    pure false
  | some '-' =>
    skip
    pure true
  | _ => pure false

/-- The digits of an exponent, of which there has to be one. -/
def exponentDigits (outOfRange : Bool) : Reader Nat := do
  match ← peek? with
  | none => failHere .endInValue
  | some c =>
    if c.isDigit then exponentUpTo outOfRange (← steps) 0 else failAhead .invalidNumber

def exponent (significand : Nat) : Reader Int := do
  skip
  let negative ← exponentSign
  let n ← exponentDigits (!negative && significand != 0)
  return if negative then -(n : Int) else n

def opensExponent (c : Option Char) : Bool := c = some 'e' || c = some 'E'

/-- The digits of a whole number after the first.  A zero stands alone. -/
def wholeDigits (first : Digit) : Reader (List Digit) := do
  if first = .zero then
    match (← peek?).bind Digit.ofChar? with
    | some _ => failAhead .invalidNumber
    | none => return [first]
  else return first :: (← digits)

/-- The digits behind a point, of which there has to be one. -/
def fractionDigits : Reader (List Digit) := do
  let ds ← digits
  if ds.isEmpty then
    match ← peek? with
    | none => failAhead .endInValue
    | some _ => failAhead .invalidNumber
  else return ds

section

variable [NumberSource]

/-- The value that a number with a fraction or an exponent stands for. -/
def real (negative : Bool) (f : Figures) : Reader Json :=
  match NumberSource.magnitude? f with
  | some x => pure (.real (.finite negative x))
  | none => failHere .numberOutOfRange

/-- An integer of 64 bits stays one; a larger one, and a negated zero, is a real number. -/
def whole (negative : Bool) (ds : List Digit) : Reader Json :=
  let n := Digit.value ds
  if negative then
    if 0 < n ∧ n ≤ twoPow 63 then pure (.integer (-(n : Int))) else real true { integer := ds }
  else if n < twoPow 64 then pure (.integer n) else real false { integer := ds }

def behindWhole (negative : Bool) (ds : List Digit) : Reader Json := do
  match ← peek? with
  | some '.' =>
    skip
    let fraction ← fractionDigits
    let e ← if opensExponent (← peek?) then exponent (Digit.value (ds ++ fraction)) else pure 0
    real negative ⟨ds, fraction, e⟩
  | c =>
    if opensExponent c then real negative ⟨ds, [], ← exponent (Digit.value ds)⟩
    else whole negative ds

def number (negative : Bool) : Reader Json := do
  match ← peek? with
  | none => failHere .endInValue
  | some c =>
    match Digit.ofChar? c with
    | none => failAhead .invalidNumber
    | some first =>
      skip
      behindWhole negative (← wholeDigits first)

end

def hexValue? (c : Char) : Option Nat :=
  if c.isDigit then some (c.toNat - 48)
  else if 'a' ≤ c ∧ c ≤ 'f' then some (c.toNat - 87)
  else if 'A' ≤ c ∧ c ≤ 'F' then some (c.toNat - 55)
  else none

def hexFour? (a b c d : Char) : Option Nat := do
  return ((← hexValue? a) * 16 + (← hexValue? b)) * 256 + (← hexValue? c) * 16 + (← hexValue? d)

def hexCode : Reader Nat := fun s =>
  let refuse : EStateM.Result Error Cursor Nat :=
    if s.bytesAhead < 4 then
      .error ⟨.endInString, some (Cursor.placeAfter s.bytesAhead s.rest s.here)⟩ s
    else .error ⟨.invalidEscape, some (Cursor.placeAfter 4 s.rest s.here)⟩ s
  match s.rest with
  | a :: b :: c :: d :: rest =>
    match hexFour? a b c d with
    | some n => .ok n ⟨rest, s.line, s.column + 4⟩
    | none => refuse
  | _ => refuse

/-- A character that has to follow in the second half of a pair of escapes. -/
def pairMark (c : Char) : Reader Unit := do
  match ← peek? with
  | none => failHere .endInString
  | some d => if d = c then skip else failAhead .unfinishedEscape

/-- The character of an escape by code; one outside the basic plane is a pair of escapes. -/
def escapedCode : Reader Char := do
  let high ← hexCode
  if 0xdc00 ≤ high ∧ high ≤ 0xdfff then failHere .loneSurrogate
  else if high < 0xd800 ∨ 0xdbff < high then pure (Char.ofNat high)
  else
    pairMark '\\'
    pairMark 'u'
    let low ← hexCode
    if low < 0xdc00 ∨ 0xdfff < low then failHere .loneSurrogate
    else pure (Char.ofNat (0x10000 + (high - 0xd800) * 1024 + (low - 0xdc00)))

def plainEscape? (c : Char) : Option Char :=
  if c = '"' ∨ c = '\\' ∨ c = '/' then some c
  else if c = 'b' then some '\x08'
  else if c = 'f' then some '\x0c'
  else if c = 'n' then some '\n'
  else if c = 'r' then some '\r'
  else if c = 't' then some '\t'
  else none

def escaped : Reader Char := do
  match ← peek? with
  | none => failHere .endInString
  | some c =>
    match plainEscape? c with
    | some d =>
      skip
      pure d
    | none =>
      if c = 'u' then
        skip
        escapedCode
      else failAhead .invalidEscape

/-- The characters up to the closing quote, which is passed. -/
def stringUpTo : Nat → Reader (List Char)
  | 0 => failHere .endInString
  | fuel + 1 => do
    match ← peek? with
    | none => failHere .endInString
    | some c =>
      if c = '"' then
        skip
        pure []
      else if c = '\\' then
        skip
        let d ← escaped
        return d :: (← stringUpTo fuel)
      else if c.toNat < 0x20 then failAhead .controlCharacter
      else
        skip
        return c :: (← stringUpTo fuel)

def string : Reader String := do
  return String.ofList (← stringUpTo (← steps))

end Phrasebook.Json.Reader
