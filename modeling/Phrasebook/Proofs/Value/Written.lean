import Phrasebook.Formatters
import Phrasebook.Proofs.Numeric.Fewest
import Phrasebook.Proofs.Numeric.Nearness
import Phrasebook.Proofs.Value.Fraction
import Phrasebook.Proofs.Value.Reading

/-!
# Written fraction digits

A number that is read from a text asks for at least as many fraction digits as were written. It does
not ask for at most as many: with fewer than three of them the third place is still shown unless it
is zero, and on a coarse grid the value nearest to what was written has digits there that nobody
wrote.
-/

namespace Phrasebook

/-- So many fraction digits are left of a printed value exactly where it has been rounded to a
multiple of their last place. -/
theorem Magnitude.length_trimFraction_fixed_eq_iff (negative : Bool) (x : Magnitude)
    {low high : Nat} (h : low ≤ high) :
    ((x.fixed negative high).trimFraction low).fraction.length = low ↔
      tenPow (high - low) ∣ roundHalfEven (x.units * tenPow high) unitsPerOne := by
  obtain ⟨hvalue, hlength, -⟩ :=
    Numeral.ofScaled_spec negative (roundHalfEven (x.units * tenPow high) unitsPerOne) high
  rw [fixed, Numeral.length_trimFraction_eq_iff (by rwa [hlength]), hlength, hvalue]

/-- A decimal with few fraction digits that is read as a finite value is within reach of the
estimate. -/
theorem Decimal.readable_of_finite {d : Decimal} {negative s : Bool} {x : Magnitude}
    (hexponent : -1000 ≤ d.exponent) (h : Binary64.ofDecimal negative d = .finite s x) :
    d.Readable := by
  have hlog : d.significand.log2 ≤ 28000 := by
    unfold Binary64.ofDecimal at h
    dsimp only at h
    split_ifs at h with hzero hhigh
    · simp [hzero]
    all_goals omega
  unfold Readable FitsIn
  exact Nat.lt_of_lt_of_le (lt_twoPow_log2 _) (twoPow_le (by omega))

/-- Below `2 ^ 43` a step of the grid is shorter than a thousandth, so to three places a decimal
with up to three fraction digits is printed as it was written. -/
theorem Decimal.round_of_finite {significand places : Nat} {negative s : Bool} {x : Magnitude}
    (hlow : 1 ≤ places) (hhigh : places ≤ 3)
    (h : Binary64.ofDecimal negative ⟨significand, -(places : Int)⟩ = .finite s x)
    (hx : x.units < twoPow 43 * Magnitude.unitsPerOne) :
    roundHalfEven (x.units * tenPow 3) Magnitude.unitsPerOne =
      significand * tenPow (3 - places) := by
  have hexponent : -(places : Int) < 0 := by omega
  have hunits : x.units < twoPow (53 + 1064) := by
    rw [Magnitude.unitsPerOne, ← twoPow_add] at hx
    exact hx
  have hgrid : tenPow 3 * twoPow 1064 < Magnitude.unitsPerOne :=
    calc tenPow 3 * twoPow 1064 < twoPow 10 * twoPow 1064 :=
          Nat.mul_lt_mul_of_pos_right (by decide) (twoPow_pos 1064)
      _ = twoPow (10 + 1064) := (twoPow_add 10 1064).symm
      _ = Magnitude.unitsPerOne := rfl
  have hreadable : Readable ⟨significand, -(places : Int)⟩ :=
    readable_of_finite (show (-1000 : Int) ≤ -places by omega) h
  have hreads := hreadable.reads_of_ofDecimal h
  rw [Reads, ratio_of_neg hexponent, Int.neg_neg, Int.toNat_natCast] at hreads
  exact Magnitude.round_fixed_of_nearest hhigh hgrid hreads hunits

namespace Number

def writtenPlaces (text : String) : Nat := placesOf (Text.trim text.toList)

/-- What is read is the value nearest to a decimal with as many fraction digits as were written. -/
theorem parse?_eq_some {text : String} {n : Number} (h : parse? text = some n) :
    ∃ negative significand,
      n = withPrecision (Binary64.ofDecimal negative ⟨significand, -(writtenPlaces text : Int)⟩)
        (UInt64.ofNat (writtenPlaces text)) := by
  obtain ⟨-, hnumeric, value, hvalue, rfl⟩ := parse?_eq_some_iff.1 h
  rw [float?_of_isNumeric hnumeric] at hvalue
  obtain ⟨ds, -, rfl⟩ := Option.map_eq_some_iff.1 hvalue
  exact ⟨_, Digit.value ds, rfl⟩

/-- The options of a number that was read ask for the written fraction digits at least, and for
three at most where fewer were written. -/
theorem digits_withPrecision {value : Binary64} {places : Nat} (hlow : 1 ≤ places)
    (hhigh : places ≤ maxFractionDigits) (negative : Bool) (x : Magnitude) :
    (withPrecision value (UInt64.ofNat places)).options.digits negative x =
      some (((x.fixed negative (max 3 places)).trimFraction places).padInteger 1) := by
  have hplaces : (UInt64.ofNat places).toNat = places :=
    UInt64.toNat_ofNat_of_lt (Nat.lt_of_le_of_lt hhigh (by decide))
  have hpos : 0 < UInt64.ofNat places := by
    rw [UInt64.lt_iff_toNat_lt, hplaces]
    exact hlow
  have hminimum : (withPrecision value (UInt64.ofNat places)).options.minimumFractionDigits =
      some (UInt64.ofNat places) := if_pos hpos
  have hmost : min (max 3 places) maxFractionDigits = max 3 places :=
    Nat.min_eq_left (Nat.max_le.2 ⟨by decide, hhigh⟩)
  rw [NumberOptions.digits_of_fraction rfl, hminimum]
  simp only [countOr, Option.map_some, Option.getD_some, hplaces]
  change some ((fractionDigits negative x places (max 3 places)).padInteger 1) = _
  unfold fractionDigits
  dsimp only
  rw [hmost, Nat.min_eq_left (Nat.le_max_right ..)]

theorem scaled_withPrecision (value : Binary64) (precision : UInt64) :
    FormatterTables.scaled (withPrecision value precision) = value := rfl

/-- A number that was read is shown with the written fraction digits at least. It has no more than
them exactly where its value, rounded to as many digits as its options allow, ends behind them:
always where three or more were written, and for every value below `2 ^ 43`. A number beyond the
range has no digits. -/
theorem written_fraction_digits_shown {text : String} {n : Number} (h : parse? text = some n)
    (hlow : 1 ≤ writtenPlaces text) (hhigh : writtenPlaces text ≤ 20) :
    let places := writtenPlaces text
    let high := max 3 places
    (∃ negative, n.value = .infinite negative ∧
        FormatterTables.specialText? (FormatterTables.scaled n) =
          some (if negative then "-∞" else "∞")) ∨
      ∃ negative x y, n.value = .finite negative x ∧
        FormatterTables.numeral? n.options (FormatterTables.scaled n) = some y ∧
        places ≤ y.fraction.length ∧ y.fraction.length ≤ high ∧
        (y.fraction.length = places ↔
          tenPow (high - places) ∣
            roundHalfEven (x.units * tenPow high) Magnitude.unitsPerOne) ∧
        (3 ≤ places ∨ x.units < twoPow 43 * Magnitude.unitsPerOne →
          y.fraction.length = places) := by
  obtain ⟨negative, significand, rfl⟩ := parse?_eq_some h
  generalize writtenPlaces text = places at hlow hhigh
  intro places high
  have hle : places ≤ high := Nat.le_max_right ..
  rcases Binary64.ofDecimal_cases negative ⟨significand, -(places : Int)⟩ with hvalue | ⟨x, hvalue⟩
  · refine .inl ⟨negative, hvalue, ?_⟩
    rw [scaled_withPrecision, hvalue]
    rfl
  · let y := ((x.fixed negative high).trimFraction places).padInteger 1
    have hcount : y.fraction.length = places ↔ tenPow (high - places) ∣
        roundHalfEven (x.units * tenPow high) Magnitude.unitsPerOne :=
      x.length_trimFraction_fixed_eq_iff negative hle
    obtain ⟨-, hlength, hwhole⟩ := x.fixed_spec negative high
    have hfits := Numeral.fitsTo_trimFraction_padInteger hlength hwhole hle 1
    refine .inr ⟨negative, x, y, hvalue, ?_, hfits.low_le, hfits.le_high, hcount, ?_⟩
    · rw [scaled_withPrecision, hvalue]
      exact digits_withPrecision hlow hhigh negative x
    · intro hnear
      apply hcount.2
      by_cases hthree : 3 ≤ places
      · rw [show high = places from Nat.max_eq_right hthree, Nat.sub_self]
        exact Nat.one_dvd _
      · have hbelow := hnear.resolve_left hthree
        have hwritten := Decimal.round_of_finite hlow (by omega) hvalue hbelow
        rw [show high = 3 from Nat.max_eq_left (by omega), hwritten]
        exact Nat.dvd_mul_left ..

/-- One and a half keeps the zero that it was written with. -/
theorem one_and_a_half_keeps_zero :
    let n := withPrecision
      (.finite false ⟨3 * 2 ^ 51, 1022, by decide, by decide, .inr (by decide)⟩) 2
    parse? "1.50" = some n ∧ writtenPlaces "1.50" = 2 ∧
      ∃ y, FormatterTables.numeral? n.options (FormatterTables.scaled n) = some y ∧
        y.text = "1.50" ∧ y.fraction.length = 2 := by
  intro n
  have hparse : parse? "1.50" = some n := by decide +kernel
  have hplaces : writtenPlaces "1.50" = 2 := by decide +kernel
  have hnumeral : FormatterTables.numeral? n.options (FormatterTables.scaled n) =
      some ⟨false, [1], [5, 0]⟩ := by decide +kernel
  obtain ⟨negative, hvalue, -⟩ | ⟨negative, x, y, hvalue, hy, -, -, -, hexact⟩ :=
    written_fraction_digits_shown hparse (by rw [hplaces]; decide) (by rw [hplaces]; decide)
  · cases hvalue
  · cases hvalue
    have hcount := hexact (.inr (by decide +kernel))
    obtain rfl : y = ⟨false, [1], [5, 0]⟩ := Option.some.inj (hy.symm.trans hnumeral)
    exact ⟨hparse, hplaces, _, hnumeral, by decide +kernel, hcount.trans hplaces⟩

/-- Three tenths above `2 ^ 43` are written with one fraction digit and shown with three. -/
theorem tenths_shown_as_thousandths :
    ∃ n y, parse? "8796093022208.3" = some n ∧ writtenPlaces "8796093022208.3" = 1 ∧
      FormatterTables.numeral? n.options (FormatterTables.scaled n) = some y ∧
      y.text = "8796093022208.301" ∧ y.fraction.length = 3 := by
  let n := withPrecision
    (.finite false ⟨4503599627370650, 1065, by decide, by decide, .inr (by decide)⟩) 1
  have hnumeral : FormatterTables.numeral? n.options (FormatterTables.scaled n) =
      some ⟨false, [8, 7, 9, 6, 0, 9, 3, 0, 2, 2, 2, 0, 8], [3, 0, 1]⟩ := by decide +kernel
  exact ⟨n, _, by decide +kernel, by decide +kernel, hnumeral, by decide +kernel, rfl⟩

end Number

end Phrasebook
