import Phrasebook.Proofs.Formatters.Finite
import Phrasebook.Proofs.Numeric.Fewest
import Phrasebook.Proofs.Value.Reading

/-!
# Significant digits as they are asked for

A number that is limited to significant digits is rounded to the most that are allowed, and written
with the shortest digits that are read as the rounded value. So it has no more digits than are
allowed, from the first to the last that is not zero; and zeros are put at the end exactly as far as
significant digits are missing.
-/

namespace Phrasebook

open Digit

/-! ## Digits between zeros -/

namespace Digit

/-- The digits from the first to the last one that is not zero. -/
def core (ds : List Digit) : List Digit := (ds.dropWhile (· == zero)).rdropWhile (· == zero)

theorem exists_eq_core (ds : List Digit) :
    ∃ front back, ds = List.replicate front zero ++ (core ds ++ List.replicate back zero) := by
  let kept := ds.dropWhile (· == zero)
  have hfront : ds.takeWhile (· == zero) = List.replicate (ds.takeWhile (· == zero)).length zero :=
    List.eq_replicate_of_mem fun d hd => by simpa using List.mem_takeWhile_imp hd
  have hback : kept.rtakeWhile (· == zero) =
      List.replicate (kept.rtakeWhile (· == zero)).length zero :=
    List.eq_replicate_of_mem fun d hd => by simpa using List.mem_rtakeWhile_imp hd
  refine ⟨(ds.takeWhile (· == zero)).length, (kept.rtakeWhile (· == zero)).length, ?_⟩
  rw [← hfront, ← hback, core, List.rdropWhile_append_rtakeWhile]
  exact (List.takeWhile_append_dropWhile ..).symm

/-- Where not all digits are zero, the digits between the zeros at both ends begin and end with a
digit that is no zero. -/
theorem core_ends {ds : List Digit} (h : core ds ≠ []) :
    (∃ first more, core ds = first :: more ∧ first ≠ zero) ∧
      ∃ before last, core ds = before ++ [last] ∧ last ≠ zero := by
  constructor
  · obtain ⟨first, more, hcore⟩ := List.exists_cons_of_ne_nil h
    refine ⟨first, more, hcore, ?_⟩
    obtain ⟨back, hback⟩ : core ds <+: ds.dropWhile (· == zero) := List.rdropWhile_prefix _ _
    have hkept : ds.dropWhile (· == zero) = first :: (more ++ back) := by
      rw [← hback, hcore, List.cons_append]
    have hhead := List.head_dropWhile_not (· == zero) (l := ds) (by simp [hkept])
    simpa [hkept] using hhead
  · refine ⟨(core ds).dropLast, (core ds).getLast h, (List.dropLast_append_getLast h).symm, ?_⟩
    have hlast : ¬((core ds).getLast h == zero) = true := List.rdropWhile_last_not _ _ h
    simpa using hlast

/-- Of the ways to write a number with zeros at the end, the one with the fewest digits before them
has no zero there. -/
theorem le_of_mul_pow_eq {v n back zeros : Nat} (hv : v % 10 ≠ 0)
    (h : v * 10 ^ back = n * 10 ^ zeros) : v ≤ n := by
  rcases Nat.lt_or_ge back zeros with hlt | hge
  · obtain ⟨k, rfl⟩ := Nat.exists_eq_add_of_lt hlt
    have heq : v = n * 10 ^ k * 10 := by
      refine Nat.eq_of_mul_eq_mul_right (Nat.pow_pos (by decide) : 0 < 10 ^ back) ?_
      rw [h]
      ring
    exact absurd (by rw [heq, Nat.mul_mod_left]) hv
  · obtain ⟨k, rfl⟩ := Nat.exists_eq_add_of_le hge
    have heq : v * 10 ^ k = n := by
      refine Nat.eq_of_mul_eq_mul_right (Nat.pow_pos (by decide) : 0 < 10 ^ zeros) ?_
      rw [← h]
      ring
    rw [← heq]
    exact Nat.le_mul_of_pos_right _ (Nat.pow_pos (by decide))

/-- Digits with the value of a number with few digits, but for zeros at its end, are few. -/
theorem length_core_le {ds : List Digit} {n zeros count : Nat} (hcount : 0 < count)
    (hvalue : value ds = n * 10 ^ zeros) (hn : n ≤ 10 ^ count) : (core ds).length ≤ count := by
  by_cases hcore : core ds = []
  · simp [hcore]
  obtain ⟨⟨first, more, hfirst, hfirstne⟩, before, last, hlast, hlastne⟩ := core_ends hcore
  obtain ⟨front, back, hds⟩ := exists_eq_core ds
  have hsame : value (core ds) * 10 ^ back = n * 10 ^ zeros := by
    rw [← hvalue]
    conv_rhs => rw [hds]
    simp [value_append, value_replicate_zero]
  have hlow : 10 ^ more.length ≤ value (core ds) := by
    rw [hfirst, value_cons]
    have hpos : 0 < first.val := Nat.pos_of_ne_zero fun hzero => hfirstne (Fin.ext hzero)
    exact Nat.le_add_right_of_le (Nat.le_mul_of_pos_left _ hpos)
  have hend : value (core ds) % 10 ≠ 0 := by
    rw [hlast, value_append]
    have hmod : (value before * 10 ^ [last].length + value [last]) % 10 = last.val := by
      simp [value]
    rw [hmod]
    exact fun hzero => hlastne (Fin.ext hzero)
  have hle : value (core ds) ≤ 10 ^ count := Nat.le_trans (le_of_mul_pow_eq hend hsame) hn
  have hmore : more.length ≤ count :=
    (Nat.pow_le_pow_iff_right (by decide)).1 (Nat.le_trans hlow hle)
  rw [hfirst, List.length_cons]
  refine Nat.succ_le_of_lt (Nat.lt_of_le_of_ne hmore fun heq => hend ?_)
  -- One digit more would take a power of ten, and that ends in a zero.
  obtain ⟨k, rfl⟩ := Nat.exists_eq_succ_of_ne_zero (Nat.ne_of_gt hcount)
  rw [Nat.le_antisymm hle (heq ▸ hlow), Nat.pow_succ, Nat.mul_mod_left]

end Digit

/-! ## Zeros at the end -/

namespace Numeral

theorem significantCount_appendZeros (x : Numeral) (count : Nat) :
    (x.appendZeros count).significantCount = x.significantCount + count := by
  have hdigits : (x.appendZeros count).integer ++ (x.appendZeros count).fraction =
      (x.integer ++ x.fraction) ++ List.replicate count zero := (List.append_assoc ..).symm
  unfold significantCount
  dsimp only
  rw [hdigits, List.dropWhile_append]
  cases hkept : (x.integer ++ x.fraction).dropWhile (· == zero) with
  | nil => simp [Nat.add_assoc]
  | cons d ds => simp [Nat.add_right_comm]

theorem negative_appendZeros (x : Numeral) (count : Nat) :
    (x.appendZeros count).negative = x.negative := rfl

theorem toDecimal_appendZeros (x : Numeral) (count : Nat) :
    (x.appendZeros count).toDecimal = x.toDecimal.withZeros count := by
  simp only [toDecimal, value_appendZeros, length_fraction_appendZeros, Decimal.withZeros,
    Decimal.mk.injEq]
  refine ⟨rfl, ?_⟩
  push_cast
  omega

end Numeral

namespace Decimal

theorem withZeros_zero (d : Decimal) : d.withZeros 0 = d := by
  simp [withZeros, tenPow]

theorem withZeros_withZeros (d : Decimal) (m n : Nat) :
    (d.withZeros m).withZeros n = d.withZeros (m + n) := by
  simp only [withZeros, tenPow_add, Nat.mul_assoc, Decimal.mk.injEq, true_and]
  push_cast
  omega

/-- A numeral writes the digits of its decimal, with zeros up to the point. -/
theorem toDecimal_toNumeral (negative : Bool) (d : Decimal) :
    (d.toNumeral negative).toDecimal = d.withZeros d.exponent.toNat := by
  obtain ⟨n, e⟩ := d
  unfold toNumeral
  split
  · next h =>
    have he : e - e.toNat = 0 := Int.sub_eq_zero.2 (Int.toNat_of_nonneg h).symm
    simp only [Numeral.toDecimal, withZeros, List.append_nil, value_ofNat, he]
    rfl
  · next h =>
    obtain ⟨hvalue, hlength, -⟩ := Numeral.ofScaled_spec negative n (-e).toNat
    have hneg : e < 0 := Int.not_le.1 h
    have he : e.toNat = 0 := Int.toNat_of_nonpos (Int.le_of_lt hneg)
    have hexponent : -((-e).toNat : Int) = e := by omega
    simp only [Numeral.toDecimal, withZeros, hvalue, hlength, he, hexponent]
    simp [tenPow]

theorem negative_toNumeral (negative : Bool) (d : Decimal) :
    (d.toNumeral negative).negative = negative := by
  unfold toNumeral
  split <;> rfl

end Decimal

/-! ## Shortest digits with zeros -/

namespace Magnitude

variable {x : Magnitude} {tie : Tie}

theorem shortest_readable (tie : Tie) (x : Magnitude) : (x.shortest tie).Readable :=
  (x.shortest_bounds tie).1.mono (by decide)

theorem reads_shortest (tie : Tie) (x : Magnitude) : (x.shortest tie).Reads x := by
  have hreadable := x.shortest_readable tie
  rw [← Decimal.withZeros_zero (x.shortest tie)] at hreadable ⊢
  exact hreadable.reads_of_ofDecimal (shortest_reads hreadable false)

/-- Zeros up to the point make no more digits than the format has room for. -/
theorem fitsIn_whole_shortest (tie : Tie) (x : Magnitude) :
    FitsIn 6000 ((x.shortest tie).significand * tenPow (x.shortest tie).exponent.toNat) := by
  rcases Int.lt_or_le (x.shortest tie).exponent 0 with h | h
  · have hzero : (x.shortest tie).exponent.toNat = 0 := Int.toNat_of_nonpos (Int.le_of_lt h)
    rw [hzero, show tenPow 0 = 1 from rfl, Nat.mul_one]
    exact (x.shortest_bounds tie).1
  · have hreads := x.reads_shortest tie
    rw [Decimal.Reads, Decimal.ratio_of_nonneg h] at hreads
    have hbelow : FitsIn 1024
        ((x.shortest tie).significand * tenPow (x.shortest tie).exponent.toNat) := by
      unfold FitsIn
      by_contra hlarge
      rw [nearest?_eq_none Nat.one_pos (by rw [Nat.one_mul]; exact Nat.not_lt.1 hlarge)] at hreads
      cases hreads
    exact hbelow.mono (by decide)

theorem readable_withZeros_shortest (tie : Tie) (x : Magnitude) {zeros : Nat} (h : zeros ≤ 21) :
    ((x.shortest tie).withZeros ((x.shortest tie).exponent.toNat + zeros)).Readable := by
  have hfits := ((x.fitsIn_whole_shortest tie).mul (.tenPow zeros)).mono
    (show 6000 + (4 * zeros + 1) ≤ 29000 by omega)
  rwa [Nat.mul_assoc, ← tenPow_add] at hfits

end Magnitude

namespace Binary64

theorem toDecimal_plainNumeral (negative : Bool) (y : Magnitude) (zeros : Nat) :
    ((plainNumeral negative y).appendZeros zeros).toDecimal =
      (y.shortest .up).withZeros ((y.shortest .up).exponent.toNat + zeros) := by
  rw [Numeral.toDecimal_appendZeros, plainNumeral, Decimal.toDecimal_toNumeral,
    Decimal.withZeros_withZeros]

theorem negative_plainNumeral (negative : Bool) (y : Magnitude) :
    (plainNumeral negative y).negative = negative := by
  rw [plainNumeral]
  exact Decimal.negative_toNumeral negative _

theorem integer_withZeros_ne_nil (negative : Bool) (y : Magnitude) (zeros : Nat) :
    ((plainNumeral negative y).appendZeros zeros).integer ≠ [] := by
  rw [Numeral.integer_appendZeros]
  exact integer_plainNumeral_ne_nil negative y

/-- The shortest digits, with some zeros behind them, are read as the value. -/
theorem parse?_plainNumeral (negative : Bool) (y : Magnitude) {zeros : Nat} (h : zeros ≤ 21) :
    (Number.parse? ((plainNumeral negative y).appendZeros zeros).text).map Number.value =
      some (.finite negative y) := by
  rw [Number.parse?_text (integer_withZeros_ne_nil negative y zeros), Numeral.negative_appendZeros,
    negative_plainNumeral, toDecimal_plainNumeral,
    Magnitude.shortest_reads (y.readable_withZeros_shortest .up h), Option.map_some,
    Number.withPrecision]

/-- The digits of a value that some decimal with few digits is read as. -/
theorem length_core_plainNumeral_le {negative : Bool} {y : Magnitude} {d : Decimal} {count : Nat}
    (hcount : 0 < count) (hmost : count ≤ 25) (hd : d.significand ≤ tenPow count)
    (hreads : d.Reads y) (zeros : Nat) :
    (core (((plainNumeral negative y).appendZeros zeros).integer ++
      ((plainNumeral negative y).appendZeros zeros).fraction)).length ≤ count := by
  have hvalue := congrArg Decimal.significand (toDecimal_plainNumeral negative y zeros)
  exact length_core_le hcount hvalue (Magnitude.significand_shortest_le hcount hmost hd hreads)

/-- What a value is rounded to is read from a decimal of so many digits. -/
theorem exists_reads_of_roundSignificant {count : Nat} {negative s : Bool} {x y : Magnitude}
    (hcount : count ≤ 7000)
    (h : roundSignificant count (.finite negative x) = .finite s y) :
    ∃ d : Decimal, d.significand ≤ tenPow count ∧ d.Reads y := by
  rw [roundSignificant] at h
  by_cases hzero : x = .zero
  · rw [if_pos hzero] at h
    cases h
    refine ⟨⟨0, 0⟩, Nat.zero_le _, ?_⟩
    rw [Decimal.Reads, Decimal.ratio_of_nonneg le_rfl, hzero]
    exact Magnitude.nearest?_eq_zero (by simp)
  · rw [if_neg hzero] at h
    have hsignificand := x.significand_toSignificant_le count
    have hreadable : (x.toSignificant count).Readable :=
      ((FitsIn.tenPow count).of_le hsignificand).mono (by omega)
    exact ⟨_, hsignificand, hreadable.reads_of_ofDecimal h⟩

end Binary64

/-! ## The digits that are asked for -/

/-- A plain numeral that is read as the value, with at least `least` significant digits, exactly so
many if zeros were put at its end, and at most `most` digits from the first to the last that is not
zero. -/
structure Numeral.Rounds (v : Binary64) (least most zeros : Nat) (y : Numeral) : Prop where
  plain : Plain y.chars
  reads : (Number.parse? y.text).map Number.value = some v
  least_le : least ≤ y.significantCount
  exactly : zeros ≠ 0 → y.significantCount = least
  core_le : (core (y.integer ++ y.fraction)).length ≤ most

/-- Unless rounding to the most significant digits leaves the range of the format, a value has a
numeral. It is the shortest one of the rounded value, with as many zeros at its end as significant
digits are missing. -/
theorem significant_digits_as_asked {negative s : Bool} {x y : Magnitude} {minimum maximum : Nat}
    (h : Binary64.roundSignificant (max 1 (min maximum 21)) (.finite negative x) = .finite s y) :
    let most := max 1 (min maximum 21)
    let least := max 1 (min minimum most)
    ∃ zeros numeral, significantDigits negative x minimum maximum = some numeral ∧
      numeral = (Binary64.plainNumeral s y).appendZeros zeros ∧
      numeral.Rounds (.finite s y) least most zeros := by
  intro most least
  let zeros := least - (Binary64.plainNumeral s y).significantCount
  have hleast : least ≤ most := Nat.max_le.2 ⟨Nat.le_max_left .., Nat.min_le_right ..⟩
  have hmost : most ≤ 21 := Nat.max_le.2 ⟨by decide, Nat.min_le_right ..⟩
  have hzeros : zeros ≤ 21 := Nat.le_trans (Nat.sub_le _ _) (Nat.le_trans hleast hmost)
  have hcount := (Binary64.plainNumeral s y).significantCount_appendZeros zeros
  obtain ⟨d, hd, hreads⟩ :=
    Binary64.exists_reads_of_roundSignificant (Nat.le_trans hmost (by decide)) h
  refine ⟨zeros, (Binary64.plainNumeral s y).appendZeros zeros,
    significantDigits_of_eq negative x minimum maximum _ h, rfl, ?_, ?_, ?_, ?_, ?_⟩
  · exact Numeral.plain_chars (Binary64.integer_withZeros_ne_nil s y zeros)
  · exact Binary64.parse?_plainNumeral s y hzeros
  · rw [hcount]
    omega
  · rw [hcount]
    omega
  · exact Binary64.length_core_plainNumeral_le (Nat.le_max_left ..)
      (Nat.le_trans hmost (by decide)) hd hreads zeros

/-- One and a half below zero, with four to six significant digits. -/
theorem one_and_a_half_to_four_digits :
    let x : Magnitude := ⟨3 * 2 ^ 51, 1022, by decide, by decide, .inr (by decide)⟩
    Binary64.roundSignificant (max 1 (min 6 21)) (.finite true x) = .finite true x ∧
      ∃ zeros numeral, significantDigits true x 4 6 = some numeral ∧ numeral.text = "-1.500" ∧
        zeros ≠ 0 ∧ numeral.Rounds (.finite true x) 4 6 zeros := by
  intro x
  have h : Binary64.roundSignificant (max 1 (min 6 21)) (.finite true x) = .finite true x := by
    decide +kernel
  obtain ⟨zeros, numeral, hdigits, hnumeral, hrounds⟩ :=
    @significant_digits_as_asked true true x x 4 6 h
  have hplain : Binary64.plainNumeral true x = ⟨true, [1], [5]⟩ := by decide +kernel
  have hvalue : significantDigits true x 4 6 = some ⟨true, [1], [5, 0, 0]⟩ := by decide +kernel
  obtain rfl : numeral = ⟨true, [1], [5, 0, 0]⟩ := Option.some.inj (hdigits.symm.trans hvalue)
  refine ⟨h, zeros, _, hvalue, by decide +kernel, ?_, hrounds⟩
  rintro rfl
  rw [hplain] at hnumeral
  exact absurd hnumeral (by decide)

end Phrasebook
