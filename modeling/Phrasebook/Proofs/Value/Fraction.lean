import Phrasebook.Proofs.Numeric.Numerals
import Phrasebook.Value.Digits

/-!
# Fraction digits as they are asked for

Where significant digits are not limited, a number is printed with the most fraction digits that are
allowed. Then zeros at the end are left out as far as they were not asked for, and zeros are put in
front as far as integer digits are missing. The number and its sign stay as they were printed.
-/

namespace Phrasebook

open Digit

namespace Numeral

/-- The same number with the same sign as was printed, with `low` to `high` fraction digits and at
least `width` integer digits, and without any zero at either end that these do not ask for. -/
structure FitsTo (printed : Numeral) (low high width : Nat) (y : Numeral) : Prop where
  negative : y.negative = printed.negative
  magnitude : y.magnitude = printed.magnitude
  low_le : low ≤ y.fraction.length
  le_high : y.fraction.length ≤ high
  last_zero : y.fraction.getLast? = some zero → y.fraction.length = low
  last_char : y.chars.getLast? ≠ some '.'
  width_le : width ≤ y.integer.length
  whole : width < y.integer.length → Whole y.integer

/-- Trimming the fraction and padding the integer digits is all that it takes. -/
theorem fitsTo_trimFraction_padInteger {x : Numeral} {low high : Nat}
    (hlength : x.fraction.length = high) (hwhole : Whole x.integer) (hlow : low ≤ high)
    (width : Nat) : x.FitsTo low high width ((x.trimFraction low).padInteger width) := by
  let trimmed := x.trimFraction low
  have hle : low ≤ x.fraction.length := hlength ▸ hlow
  have htrimmed : trimmed.fraction.length = max x.kept.length low :=
    length_fraction_trimFraction hle
  have hkept : x.kept.length ≤ x.fraction.length := (List.rdropWhile_prefix _ _).length_le
  have hinteger : (trimmed.padInteger width).integer =
      List.replicate (width - x.integer.length) zero ++ x.integer := rfl
  refine ⟨rfl, ?_, ?_, ?_, ?_, ?_, ?_, ?_⟩
  · rw [magnitude_padInteger, magnitude_trimFraction]
  · change low ≤ trimmed.fraction.length
    omega
  · change trimmed.fraction.length ≤ high
    omega
  · exact length_eq_of_getLast?_trimFraction hle
  · exact (plain_padInteger (x := trimmed) hwhole.ne_nil width).getLast?_ne_point
  · rw [hinteger, List.length_append, List.length_replicate]
    omega
  · -- More digits than were asked for have not been padded.
    intro hlonger
    rw [hinteger, List.length_append, List.length_replicate] at hlonger
    have hnone : width - x.integer.length = 0 := by omega
    rw [hinteger, hnone]
    exact hwhole

end Numeral

/-- A magnitude is printed with the fraction digits that are asked for, behind a whole number. -/
theorem Magnitude.fixed_spec (negative : Bool) (x : Magnitude) (places : Nat) :
    (x.fixed negative places).negative = negative ∧
      (x.fixed negative places).fraction.length = places ∧
      Whole (x.fixed negative places).integer :=
  ⟨rfl, (Numeral.ofScaled_spec negative _ places).2⟩

namespace NumberOptions

theorem digits_of_fraction {o : NumberOptions} (h : o.limitsSignificant = false)
    (negative : Bool) (x : Magnitude) :
    o.digits negative x =
      some ((fractionDigits negative x (countOr 0 o.minimumFractionDigits)
        (max (countOr (defaultMaximum o.style) o.maximumFractionDigits)
          (countOr 0 o.minimumFractionDigits))).padInteger
        (min (countOr 1 o.minimumIntegerDigits) maxIntegerDigits)) := by
  unfold digits
  rw [h]
  rfl

/-- Where significant digits are not limited, every value has a numeral. It is the value as printed
with the most fraction digits that the options allow, up to zeros that are left out at the end and
put in front, and these go exactly as far as the options say. A minimum of fraction digits counts
before a maximum, and neither counts beyond the most that are shown. -/
theorem fraction_digits_as_asked {o : NumberOptions} (h : o.limitsSignificant = false)
    (negative : Bool) (x : Magnitude) :
    let minimum := countOr 0 o.minimumFractionDigits
    let maximum := countOr (defaultMaximum o.style) o.maximumFractionDigits
    let high := min (max maximum minimum) 20
    let low := min minimum high
    let width := min (countOr 1 o.minimumIntegerDigits) 21
    let printed := x.fixed negative high
    (printed.negative = negative ∧ printed.fraction.length = high ∧ Whole printed.integer) ∧
      ∃ y, o.digits negative x = some y ∧ printed.FitsTo low high width y := by
  intro minimum maximum high low width printed
  obtain ⟨hnegative, hlength, hwhole⟩ := x.fixed_spec negative high
  refine ⟨⟨hnegative, hlength, hwhole⟩, (printed.trimFraction low).padInteger width, ?_, ?_⟩
  · exact digits_of_fraction h negative x
  · exact Numeral.fitsTo_trimFraction_padInteger hlength hwhole (Nat.min_le_right ..) width

/-- One and a half, with two to five fraction digits and three integer digits. -/
theorem one_and_a_half_as_asked :
    let o : NumberOptions :=
      { minimumIntegerDigits := some 3, minimumFractionDigits := some 2,
        maximumFractionDigits := some 5 }
    let x : Magnitude := ⟨3 * 2 ^ 51, 1022, by decide, by decide, .inr (by decide)⟩
    o.limitsSignificant = false ∧ (x.fixed true 5).text = "-1.50000" ∧
      ∃ y, o.digits true x = some y ∧ y.text = "-001.50" ∧ (x.fixed true 5).FitsTo 2 5 3 y := by
  intro o x
  have h : o.limitsSignificant = false := rfl
  obtain ⟨-, y, hy, hfits⟩ := fraction_digits_as_asked h true x
  have hdigits : o.digits true x = some ⟨true, [0, 0, 1], [5, 0]⟩ := by decide +kernel
  obtain rfl : y = ⟨true, [0, 0, 1], [5, 0]⟩ := Option.some.inj (hy.symm.trans hdigits)
  exact ⟨h, by decide +kernel, _, hdigits, by decide +kernel, hfits⟩

end NumberOptions

end Phrasebook
