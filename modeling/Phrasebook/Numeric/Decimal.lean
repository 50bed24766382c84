import Phrasebook.Numeric.Power

/-!
# Decimal digits and numerals

A numeral is what a number looks like before any locale has a say: a sign, integer digits and
fraction digits.  A decimal is a natural significand times a power of ten.
-/

namespace Phrasebook

abbrev Digit := Fin 10

namespace Digit

def zero : Digit := ⟨0, by decide⟩

def toChar (d : Digit) : Char := Char.ofNat (48 + d.val)

def ofChar? (c : Char) : Option Digit :=
  if c.isDigit then some (Fin.ofNat 10 (c.toNat - 48)) else none

/-- The number that a list of digits writes, most significant first. -/
def value (ds : List Digit) : Nat := ds.foldl (fun n d => 10 * n + d.val) 0

/-- Digits of `n` in front of `tail`, at most `fuel` of them. -/
def prepend : Nat → Nat → List Digit → List Digit
  | 0, _, tail => tail
  | fuel + 1, n, tail =>
    let tail := Fin.ofNat 10 n :: tail
    if n < 10 then tail else prepend fuel (n / 10) tail

/-- The decimal digits of a number, most significant first, without leading zeros; zero is one
digit.  A number has at most as many decimal digits as binary ones. -/
def ofNat (n : Nat) : List Digit := prepend (n.log2 + 1) n []

end Digit

def digitsText (n : Nat) : String := String.ofList ((Digit.ofNat n).map Digit.toChar)

/-- A written number: sign, integer digits, fraction digits. -/
structure Numeral where
  negative : Bool
  integer : List Digit
  fraction : List Digit
deriving DecidableEq

namespace Numeral

/-- `n / 10 ^ places`, written with exactly `places` fraction digits and at least one integer
digit. -/
def ofScaled (negative : Bool) (n places : Nat) : Numeral :=
  let ds := Digit.ofNat n
  let ds := List.replicate (places + 1 - ds.length) Digit.zero ++ ds
  ⟨negative, ds.take (ds.length - places), ds.drop (ds.length - places)⟩

/-- The characters of a numeral: `-` when negative, and a point only before fraction digits. -/
def chars (x : Numeral) : List Char :=
  (if x.negative then ['-'] else []) ++ x.integer.map Digit.toChar ++
    (if x.fraction.isEmpty then [] else '.' :: x.fraction.map Digit.toChar)

def text (x : Numeral) : String := String.ofList x.chars

/-- Leave out zeros at the end of the fraction as long as more than `minimum` digits stay. -/
def trimFraction (x : Numeral) (minimum : Nat) : Numeral :=
  let kept := (x.fraction.reverse.dropWhile (· == Digit.zero)).length
  { x with fraction := x.fraction.take (max kept minimum) }

/-- Put zeros before the integer digits until there are at least `minimum`. -/
def padInteger (x : Numeral) (minimum : Nat) : Numeral :=
  { x with integer := List.replicate (minimum - x.integer.length) Digit.zero ++ x.integer }

def appendZeros (x : Numeral) (count : Nat) : Numeral :=
  { x with fraction := x.fraction ++ List.replicate count Digit.zero }

/-- How many digits are significant: all from the first nonzero one on; of a zero, all. -/
def significantCount (x : Numeral) : Nat :=
  let ds := x.integer ++ x.fraction
  match ds.dropWhile (· == Digit.zero) with
  | [] => ds.length
  | kept => kept.length

end Numeral

/-- The number `significand * 10 ^ exponent`. -/
structure Decimal where
  significand : Nat
  exponent : Int
deriving DecidableEq

namespace Decimal

/-- Move zeros at the end of the significand into the exponent, at most `fuel` of them. -/
def strip : Nat → Decimal → Decimal
  | 0, x => x
  | fuel + 1, x =>
    if x.significand % 10 = 0 then strip fuel ⟨x.significand / 10, x.exponent + 1⟩ else x

/-- The same number with no zero at the end of its significand; zero is `0 * 10 ^ 0`. -/
def normalized (x : Decimal) : Decimal :=
  if x.significand = 0 then ⟨0, 0⟩ else strip (x.significand.log2 + 1) x

/-- The number without an exponent, with no more digits than it needs. -/
def toNumeral (negative : Bool) (x : Decimal) : Numeral :=
  if 0 ≤ x.exponent then ⟨negative, Digit.ofNat (x.significand * tenPow x.exponent.toNat), []⟩
  else Numeral.ofScaled negative x.significand (-x.exponent).toNat

end Decimal

end Phrasebook
