import Phrasebook.Value.Number

/-!
# The digits of a number

The numeral that a finite number is shown with before a locale adds separators: rounded either to
significant digits or to fraction digits, and padded to a count of integer digits.  Requests beyond
what is shown are cut down to the largest counts there are.
-/

namespace Phrasebook

def maxFractionDigits : Nat := 20

def maxSignificantDigits : Nat := 21

def maxIntegerDigits : Nat := 21

def countOr (default : Nat) (count : Option UInt64) : Nat := (count.map UInt64.toNat).getD default

/-- Rounded to at most `maximum` fraction digits, of which the zeros at the end beyond `minimum` are
left out. -/
def fractionDigits (negative : Bool) (x : Magnitude) (minimum maximum : Nat) : Numeral :=
  let maximum := min maximum maxFractionDigits
  (x.fixed negative maximum).trimFraction (min minimum maximum)

/-- Rounded to at most `maximum` significant digits and filled up with zeros to `minimum`.  There is
no numeral when the rounded value is not finite any more. -/
def significantDigits (negative : Bool) (x : Magnitude) (minimum maximum : Nat) : Option Numeral :=
  let maximum := max 1 (min maximum maxSignificantDigits)
  let minimum := max 1 (min minimum maximum)
  match Binary64.roundSignificant maximum (.finite negative x) with
  | .finite s y =>
    let numeral := Binary64.plainNumeral s y
    some (numeral.appendZeros (minimum - numeral.significantCount))
  | _ => none

namespace NumberOptions

/-- Whether the options limit significant digits, and so say nothing about fraction digits. -/
def limitsSignificant (o : NumberOptions) : Bool :=
  o.minimumSignificantDigits.isSome || o.maximumSignificantDigits.isSome

/-- The most fraction digits that a style shows when nothing else is asked for. -/
def defaultMaximum : NumberStyle → Nat
  | .decimal => 3
  | .percent => 0

def digits (o : NumberOptions) (negative : Bool) (x : Magnitude) : Option Numeral := do
  let numeral ←
    if o.limitsSignificant then
      significantDigits negative x (countOr 1 o.minimumSignificantDigits)
        (countOr maxSignificantDigits o.maximumSignificantDigits)
    else
      let minimum := countOr 0 o.minimumFractionDigits
      let maximum := countOr (defaultMaximum o.style) o.maximumFractionDigits
      some (fractionDigits negative x minimum (max maximum minimum))
  return numeral.padInteger (min (countOr 1 o.minimumIntegerDigits) maxIntegerDigits)

end NumberOptions

end Phrasebook
