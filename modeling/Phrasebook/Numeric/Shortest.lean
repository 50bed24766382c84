import Phrasebook.Numeric.Binary64
import Phrasebook.Numeric.Decimal

/-!
# Between binary and decimal

Reading rounds a decimal to the nearest binary64 value.  Writing goes three ways: with a fixed
number of fraction digits, with a fixed number of significant digits, and with the fewest digits
that read back to the same value.  The last is a search by the reader itself: on each decimal grid,
coarsest first, the two neighbours of the value are read, and the first that comes back wins.
-/

namespace Phrasebook

/-- The binary64 value nearest to `± x`.  An exponent far out of the range of the format decides the
answer before a power of ten is computed. -/
def Binary64.ofDecimal (negative : Bool) (x : Decimal) : Binary64 :=
  if x.significand = 0 then .finite negative .zero
  else
    let top : Int := x.exponent + (x.significand.log2 : Int) * 30103 / 100000
    if 310 < top then .infinite negative
    else if top < -330 then .finite negative .zero
    else if 0 ≤ x.exponent then
      Binary64.ofRatio negative (x.significand * tenPow x.exponent.toNat) 1
    else Binary64.ofRatio negative x.significand (tenPow (-x.exponent).toNat)

namespace Magnitude

/-- The magnitude with exactly `places` fraction digits; half a last place goes to the even
neighbour. -/
def fixed (negative : Bool) (x : Magnitude) (places : Nat) : Numeral :=
  Numeral.ofScaled negative (roundHalfEven (x.units * tenPow places) unitsPerOne) places

/-- The exponent of ten of the leading digit: at least `10 ^ x.order` and less than ten times
that.  `10 ^ -324` is below the least positive magnitude. -/
def order (x : Magnitude) : Int :=
  (Digit.ofNat (x.units * tenPow 324 / unitsPerOne)).length - 325

/-- The magnitude as a quotient of naturals, in steps of `10 ^ exponent`. -/
def inSteps (x : Magnitude) (exponent : Int) : Nat × Nat :=
  if 0 ≤ exponent then (x.units, unitsPerOne * tenPow exponent.toNat)
  else (x.units * tenPow (-exponent).toNat, unitsPerOne)

/-- The magnitude rounded to `count` significant digits, ties to even. -/
def toSignificant (x : Magnitude) (count : Nat) : Decimal :=
  let exponent := x.order + 1 - count
  let (num, den) := x.inSteps exponent
  ⟨roundHalfEven num den, exponent⟩

/-- Which way an exact tie between two shortest candidates goes. -/
inductive Tie where
  | up
  | even
deriving DecidableEq

def readsBack (x : Magnitude) (d : Decimal) : Bool := Binary64.ofDecimal false d == .finite false x

/-- The nearest of the two neighbours on the grid of `count` digits that reads back, if one does. -/
def neighbour? (tie : Tie) (x : Magnitude) (count : Nat) : Option Decimal :=
  let exponent := x.order + 1 - count
  let steps := x.inSteps exponent
  let quotient := steps.1 / steps.2
  let below : Decimal := ⟨quotient, exponent⟩
  let above : Decimal := ⟨quotient + 1, exponent⟩
  let rest := 2 * (steps.1 % steps.2)
  let roundsUp := steps.2 < rest || (rest == steps.2 && (tie == .up || quotient % 2 == 1))
  if x.readsBack below then some (if roundsUp && x.readsBack above then above else below)
  else if x.readsBack above then some above
  else none

def exactly (x : Magnitude) : Decimal := ⟨x.units * fivePow 1074, -1074⟩

/-- The first of the grids of `count`, `count + 1`, … digits with a neighbour that reads back; the
exact value when `fuel` grids have none. -/
def shortestFrom (tie : Tie) (x : Magnitude) : Nat → Nat → Decimal
  | 0, _ => x.exactly
  | fuel + 1, count =>
    (x.neighbour? tie count).getD (shortestFrom tie x fuel (count + 1))

/-- The fewest digits that read back to the magnitude, and of those the nearest. -/
def shortest (tie : Tie) (x : Magnitude) : Decimal := (shortestFrom tie x 25 1).normalized

end Magnitude

namespace Binary64

/-- The shortest digits of a finite value, written without an exponent. -/
def plainNumeral (negative : Bool) (x : Magnitude) : Numeral :=
  (x.shortest .up).toNumeral negative

/-- The text of a value when no locale is asked: shortest digits, never an exponent. -/
def plainText : Binary64 → String
  | .nan => "NaN"
  | .infinite s => if s then "-inf" else "inf"
  | .finite s x => (plainNumeral s x).text

/-- The value nearest to the value rounded to `count` significant digits; it may be beyond the
range. -/
def roundSignificant (count : Nat) : Binary64 → Binary64
  | .finite s x => if x = .zero then .finite s x else ofDecimal s (x.toSignificant count)
  | x => x

end Binary64

end Phrasebook
