import Mathlib.Data.List.DropRight
import Mathlib.Data.Rat.Defs
import Mathlib.Tactic.FieldSimp
import Phrasebook.Proofs.Numeric.Digits

/-!
# What numerals denote

A numeral denotes a number, and it is written in plain digits. Zeros in front of its integer digits
and zeros at the end of its fraction change the writing and not the number; trimming leaves out
nothing but such zeros.
-/

namespace Phrasebook

namespace Numeral

open Digit

def magnitude (x : Numeral) : ℚ := value (x.integer ++ x.fraction) / 10 ^ x.fraction.length

theorem value_appendZeros (x : Numeral) (count : Nat) :
    value ((x.appendZeros count).integer ++ (x.appendZeros count).fraction) =
      value (x.integer ++ x.fraction) * 10 ^ count := by
  unfold appendZeros
  dsimp only
  rw [← List.append_assoc, value_append, value_replicate_zero, List.length_replicate, Nat.add_zero]

theorem length_fraction_appendZeros (x : Numeral) (count : Nat) :
    (x.appendZeros count).fraction.length = x.fraction.length + count := by
  simp [appendZeros]

theorem magnitude_appendZeros (x : Numeral) (count : Nat) :
    (x.appendZeros count).magnitude = x.magnitude := by
  simp only [magnitude, value_appendZeros, length_fraction_appendZeros, pow_add]
  push_cast
  field_simp

theorem magnitude_padInteger (x : Numeral) (minimum : Nat) :
    (x.padInteger minimum).magnitude = x.magnitude := by
  simp only [magnitude, padInteger, List.append_assoc, value_append, value_replicate_zero]
  simp

/-- The fraction without all zeros at its end. -/
def kept (x : Numeral) : List Digit := x.fraction.rdropWhile (· == zero)

theorem fraction_trimFraction (x : Numeral) (minimum : Nat) :
    (x.trimFraction minimum).fraction = x.fraction.take (max x.kept.length minimum) := by
  simp only [trimFraction, kept, List.rdropWhile, List.length_reverse]

theorem getLast_kept_ne_zero {x : Numeral} (hne : x.kept ≠ []) : x.kept.getLast hne ≠ zero := by
  have hlast : ¬(x.kept.getLast hne == zero) = true := List.rdropWhile_last_not _ _ hne
  simpa using hlast

/-- No more than `places` fraction digits are kept exactly where all behind them are zeros. -/
theorem length_kept_le_iff {x : Numeral} {places : Nat} :
    x.kept.length ≤ places ↔ ∀ d ∈ x.fraction.drop places, d = zero := by
  have hsplit : x.kept ++ x.fraction.rtakeWhile (· == zero) = x.fraction :=
    List.rdropWhile_append_rtakeWhile ..
  constructor
  · intro hle d hd
    have hbehind : d ∈ x.fraction.drop x.kept.length := List.drop_subset_drop_left _ hle hd
    rw [← hsplit, List.drop_left] at hbehind
    simpa using List.mem_rtakeWhile_imp hbehind
  · intro hzeros
    by_contra hlonger
    have hne : x.kept ≠ [] := by
      intro hnil
      simp [hnil] at hlonger
    refine getLast_kept_ne_zero hne (hzeros _ ?_)
    rw [← hsplit, List.drop_append_of_le_length (by omega)]
    apply List.mem_append_left
    rw [← List.getLast_drop (l := x.kept) (i := places) (by simpa using hlonger)]
    exact List.getLast_mem _

/-- What trimming leaves out can be put back as zeros. -/
theorem exists_appendZeros_trimFraction (x : Numeral) (minimum : Nat) :
    ∃ count, (x.trimFraction minimum).appendZeros count = x := by
  let n := max x.kept.length minimum
  have hzeros : ∀ d ∈ x.fraction.drop n, d = zero := length_kept_le_iff.1 (Nat.le_max_left ..)
  refine ⟨(x.fraction.drop n).length, ?_⟩
  have hfraction : x.fraction.take n ++ List.replicate (x.fraction.drop n).length zero =
      x.fraction := by
    rw [← List.eq_replicate_of_mem hzeros, List.take_append_drop]
  change { x with fraction := (x.trimFraction minimum).fraction ++ List.replicate _ zero } = x
  rw [fraction_trimFraction, hfraction]

theorem magnitude_trimFraction (x : Numeral) (minimum : Nat) :
    (x.trimFraction minimum).magnitude = x.magnitude := by
  obtain ⟨count, hcount⟩ := x.exists_appendZeros_trimFraction minimum
  rw [← magnitude_appendZeros _ count, hcount]

theorem length_fraction_trimFraction {x : Numeral} {minimum : Nat}
    (h : minimum ≤ x.fraction.length) :
    (x.trimFraction minimum).fraction.length = max x.kept.length minimum := by
  have hkept : x.kept.length ≤ x.fraction.length := (List.rdropWhile_prefix _ _).length_le
  rw [fraction_trimFraction, List.length_take]
  omega

/-- Trimming leaves no more than what was asked for exactly where nothing but zeros stands behind
it. -/
theorem length_trimFraction_eq_iff {x : Numeral} {low : Nat} (h : low ≤ x.fraction.length) :
    (x.trimFraction low).fraction.length = low ↔
      tenPow (x.fraction.length - low) ∣ value (x.integer ++ x.fraction) := by
  have hsplit : x.integer ++ x.fraction =
      (x.integer ++ x.fraction.take low) ++ x.fraction.drop low := by
    rw [List.append_assoc, List.take_append_drop]
  rw [hsplit, ← List.length_drop, tenPow_dvd_value_append_iff, ← length_kept_le_iff,
    length_fraction_trimFraction h]
  omega

/-- Behind trimming a zero at the end is one of those that were asked for. -/
theorem length_eq_of_getLast?_trimFraction {x : Numeral} {minimum : Nat}
    (h : minimum ≤ x.fraction.length)
    (hzero : (x.trimFraction minimum).fraction.getLast? = some zero) :
    (x.trimFraction minimum).fraction.length = minimum := by
  rw [length_fraction_trimFraction h]
  by_contra hlonger
  have hmax : max x.kept.length minimum = x.kept.length := by omega
  have hkept : (x.trimFraction minimum).fraction = x.kept := by
    rw [fraction_trimFraction, hmax]
    exact (List.prefix_iff_eq_take.1 (List.rdropWhile_prefix _ _)).symm
  have hne : x.kept ≠ [] := by
    intro hnil
    simp [hkept, hnil] at hzero
  rw [hkept, List.getLast?_eq_some_getLast hne, Option.some.injEq] at hzero
  exact getLast_kept_ne_zero hne hzero

/-- Characters that write a number plainly: perhaps a minus, then digits, then perhaps a point with
digits behind it. -/
def Plain (cs : List Char) : Prop :=
  ∃ sign integer fraction : List Char, cs = sign ++ integer ++ fraction ∧
    (sign = [] ∨ sign = ['-']) ∧
    (integer ≠ [] ∧ ∀ c ∈ integer, c.isDigit = true) ∧
    (fraction = [] ∨
      ∃ places, fraction = '.' :: places ∧ places ≠ [] ∧ ∀ c ∈ places, c.isDigit = true)

/-- A numeral with an integer digit is written plainly. -/
theorem plain_chars {x : Numeral} (h : x.integer ≠ []) : Plain x.chars := by
  have hdigits (ds : List Digit) : ∀ c ∈ ds.map toChar, c.isDigit = true := by
    intro c hc
    obtain ⟨d, -, rfl⟩ := List.mem_map.1 hc
    exact isDigit_toChar d
  refine ⟨_, _, _, rfl, ?_, ⟨by simpa using h, hdigits _⟩, ?_⟩
  · cases x.negative <;> simp
  · cases hfraction : x.fraction with
    | nil => exact .inl rfl
    | cons d ds => exact .inr ⟨_, rfl, by simp, hdigits (d :: ds)⟩

theorem plain_padInteger {x : Numeral} (h : x.integer ≠ []) (minimum : Nat) :
    Plain (x.padInteger minimum).chars := by
  apply plain_chars
  intro hnil
  exact h (List.append_eq_nil_iff.1 hnil).2

/-- A point never comes last. -/
theorem Plain.getLast?_ne_point {cs : List Char} (h : Plain cs) : cs.getLast? ≠ some '.' := by
  have hdigits {ds : List Char} (hne : ds ≠ []) (hds : ∀ c ∈ ds, c.isDigit = true)
      (before : List Char) : (before ++ ds).getLast? ≠ some '.' := by
    intro hpoint
    rw [List.getLast?_append_of_ne_nil _ hne] at hpoint
    have hdigit := hds '.' (List.mem_of_getLast? hpoint)
    exact absurd hdigit (by decide)
  obtain ⟨sign, integer, fraction, rfl, -, ⟨hinteger, hall⟩, rfl | ⟨places, rfl, hplaces⟩⟩ := h
  · rw [List.append_nil]
    exact hdigits hinteger hall sign
  · rw [List.append_cons]
    exact hdigits hplaces.1 hplaces.2 _

end Numeral

end Phrasebook
