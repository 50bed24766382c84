import Phrasebook.Numeric.Shortest
import Phrasebook.Text.Blank

/-!
# Numbers with options

A number carries the options under which it will be shown and classified.  A number read from text
keeps the fraction digits that were written.
-/

namespace Phrasebook

/-- How a number is shown.  A percentage is scaled by one hundred and followed by `%`. -/
inductive NumberStyle where
  | decimal
  | percent
deriving DecidableEq

inductive PluralType where
  | cardinal
  | ordinal
deriving DecidableEq

structure NumberOptions where
  style : NumberStyle := .decimal
  pluralType : PluralType := .cardinal
  useGrouping : Bool := true
  minimumIntegerDigits : Option UInt64 := none
  minimumFractionDigits : Option UInt64 := none
  maximumFractionDigits : Option UInt64 := none
  minimumSignificantDigits : Option UInt64 := none
  maximumSignificantDigits : Option UInt64 := none
deriving DecidableEq

structure Number where
  value : Binary64
  options : NumberOptions := {}
deriving DecidableEq

namespace Number

/-- A number shown with at least `precision` fraction digits. -/
def withPrecision (value : Binary64) (precision : UInt64) : Number :=
  ⟨value, { minimumFractionDigits := if 0 < precision then some precision else none }⟩

def equal (a b : Number) : Bool := a.value.equal b.value && a.options == b.options

def digits? (cs : List Char) : Option (List Digit) := cs.mapM Digit.ofChar?

/-- Whether a minus sign stands in front, and what stands behind a sign. -/
def splitSign : List Char → Bool × List Char
  | '-' :: rest => (true, rest)
  | '+' :: rest => (false, rest)
  | cs => (false, cs)

def placesOf (cs : List Char) : Nat := ((cs.dropWhile (· != '.')).drop 1).length

/-- The digits before and behind the first point, at least one in all. -/
def significand? (cs : List Char) : Option (List Digit) := do
  let integer ← digits? (cs.takeWhile (· != '.'))
  let fraction ← digits? ((cs.dropWhile (· != '.')).drop 1)
  guard !(integer.isEmpty && fraction.isEmpty)
  return integer ++ fraction

def isPowerMark (c : Char) : Bool := c == 'e' || c == 'E'

/-- The power of ten that a mark and a number stand for, or zero where there is no mark. -/
def power? : List Char → Option Int
  | [] => some 0
  | _ :: cs => do
    let (negative, body) := splitSign cs
    let ds ← digits? body
    guard !ds.isEmpty
    return if negative then -Digit.value ds else Digit.value ds

/-- The value that a text writes in the general format of floating point: a word for an infinity or
for what is no number, in letters of either case, or digits with perhaps a point among them and a
power of ten behind them. -/
def float? (cs : List Char) : Option Binary64 :=
  let (negative, body) := splitSign cs
  let word := String.ofList (body.map Char.toLower)
  if word = "inf" ∨ word = "infinity" then some (.infinite negative)
  else if word = "nan" then some .nan
  else do
    let mantissa := body.takeWhile (!isPowerMark ·)
    let ds ← significand? mantissa
    let power ← power? (body.dropWhile (!isPowerMark ·))
    return .ofDecimal negative ⟨Digit.value ds, power - placesOf mantissa⟩

def isNumeric (c : Char) : Bool := c.isDigit || c == '-' || c == '+' || c == '.'

/-- The number that a text writes; blanks around it do not matter.  The general format is narrowed
to digits, signs and points, and the digits behind the point are counted on their own. -/
def parse? (text : String) : Option Number := do
  let trimmed := Text.trim text.toList
  guard (!trimmed.isEmpty && trimmed.all isNumeric)
  let value ← float? trimmed
  return withPrecision value (UInt64.ofNat (placesOf trimmed))

end Number

end Phrasebook
