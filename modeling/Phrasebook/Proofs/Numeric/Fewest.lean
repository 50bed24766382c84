import Mathlib.Algebra.Order.Field.Power
import Mathlib.Algebra.Order.Field.Rat
import Mathlib.Tactic.FieldSimp
import Mathlib.Tactic.Positivity
import Phrasebook.Proofs.Numeric.Order

/-!
# The shortest digits are the fewest

If some decimal of a few digits is read as a magnitude, the search for the shortest digits of the
magnitude does not go beyond that many: on the grid with so many digits, one of the two neighbours
of the magnitude lies between it and the decimal, and so it is read as the magnitude as well.
-/

namespace Phrasebook

theorem cast_tenPow (n : Nat) : (tenPow n : ℚ) = 10 ^ n := by
  rw [tenPow]
  exact Nat.cast_pow 10 n

namespace Decimal

def number (d : Decimal) : ℚ := d.significand * 10 ^ d.exponent

theorem number_eq_ratio (d : Decimal) : d.number = d.ratio.1 / d.ratio.2 := by
  obtain ⟨n, e⟩ := d
  unfold number
  rcases Int.lt_or_le e 0 with h | h
  · obtain ⟨k, rfl⟩ : ∃ k : Nat, e = -(k : Int) := ⟨(-e).toNat, by omega⟩
    rw [ratio_of_neg h]
    simp only [Int.neg_neg, Int.toNat_natCast, cast_tenPow, zpow_neg, zpow_natCast]
    rfl
  · obtain ⟨k, rfl⟩ : ∃ k : Nat, e = k := ⟨e.toNat, by omega⟩
    rw [ratio_of_nonneg h]
    simp [cast_tenPow]

def Reads (d : Decimal) (x : Magnitude) : Prop := Magnitude.nearest? d.ratio.1 d.ratio.2 = some x

theorem Readable.reads_of_ofDecimal {d : Decimal} (h : d.Readable) {negative s : Bool}
    {x : Magnitude} (hvalue : Binary64.ofDecimal negative d = .finite s x) : d.Reads x := by
  rw [h.ofDecimal_eq] at hvalue
  rw [Reads]
  cases hnearest : Magnitude.nearest? d.ratio.1 d.ratio.2 with
  | none =>
      rw [Binary64.ofRatio_of_none hnearest] at hvalue
      cases hvalue
  | some y =>
      rw [Binary64.ofRatio_of_some hnearest] at hvalue
      cases hvalue
      rfl

theorem Readable.ofDecimal_of_reads {d : Decimal} (h : d.Readable) {x : Magnitude}
    (hreads : d.Reads x) (negative : Bool) :
    Binary64.ofDecimal negative d = .finite negative x := by
  rw [h.ofDecimal_eq]
  exact Binary64.ofRatio_of_some hreads negative

theorem significand_normalized_le (d : Decimal) :
    d.normalized.significand ≤ d.significand := by
  rcases d.normalized_spec with ⟨-, hnormalized⟩ | ⟨zeros, -, hzeros⟩
  · rw [hnormalized]
    exact Nat.zero_le _
  · have hsignificand : d.normalized.significand * tenPow zeros = d.significand :=
      congrArg Decimal.significand hzeros
    rw [← hsignificand]
    exact Nat.le_mul_of_pos_right _ (tenPow_pos zeros)

end Decimal

namespace Magnitude

def number (x : Magnitude) : ℚ := x.units / unitsPerOne

theorem cast_unitsPerOne_pos : (0 : ℚ) < unitsPerOne := Nat.cast_pos.2 unitsPerOne_pos

/-- The steps of a grid are counted in its power of ten. -/
theorem inSteps_number (x : Magnitude) (exponent : Int) :
    ((x.inSteps exponent).1 : ℚ) / (x.inSteps exponent).2 = x.number / 10 ^ exponent := by
  have hone := cast_unitsPerOne_pos
  rw [number]
  rcases Int.lt_or_le exponent 0 with h | h
  · obtain ⟨e, rfl⟩ : ∃ e : Nat, exponent = -((e + 1 : Nat) : Int) :=
      ⟨(-exponent - 1).toNat, by omega⟩
    rw [inSteps_of_neg, zpow_neg, zpow_natCast]
    push_cast
    rw [cast_tenPow]
    field_simp
  · obtain ⟨e, rfl⟩ : ∃ e : Nat, exponent = e := ⟨exponent.toNat, by omega⟩
    rw [inSteps_of_nonneg, zpow_natCast]
    push_cast
    rw [cast_tenPow]
    field_simp

end Magnitude

section Between

variable {x : Magnitude} {d e : Decimal}

theorem mul_le_mul_of_div_le {num den num' den' : Nat} (hden : 0 < den) (hden' : 0 < den')
    (h : (num : ℚ) / den ≤ num' / den') : num * den' ≤ num' * den := by
  rw [div_le_div_iff₀ (Nat.cast_pos.2 hden) (Nat.cast_pos.2 hden')] at h
  exact_mod_cast h

/-- A decimal between one that is read as a magnitude and the magnitude above it. -/
theorem Decimal.Reads.of_below (h : d.Reads x) (hde : d.number ≤ e.number)
    (hex : e.number ≤ x.number) : e.Reads x := by
  rw [number_eq_ratio, number_eq_ratio] at hde
  rw [number_eq_ratio] at hex
  exact Magnitude.nearest?_between d.ratio_pos e.ratio_pos Magnitude.unitsPerOne_pos
    (mul_le_mul_of_div_le d.ratio_pos e.ratio_pos hde)
    (mul_le_mul_of_div_le e.ratio_pos Magnitude.unitsPerOne_pos hex) h x.nearest?_units

/-- A decimal between one that is read as a magnitude and the magnitude below it. -/
theorem Decimal.Reads.of_above (h : d.Reads x) (hxe : x.number ≤ e.number)
    (hed : e.number ≤ d.number) : e.Reads x := by
  rw [number_eq_ratio, number_eq_ratio] at hed
  rw [number_eq_ratio] at hxe
  exact Magnitude.nearest?_between Magnitude.unitsPerOne_pos e.ratio_pos d.ratio_pos
    (mul_le_mul_of_div_le Magnitude.unitsPerOne_pos e.ratio_pos hxe)
    (mul_le_mul_of_div_le e.ratio_pos d.ratio_pos hed) x.nearest?_units h

end Between

namespace Magnitude

variable {x : Magnitude}

theorem units_ne_zero (h : x ≠ .zero) : x.units ≠ 0 := by
  intro hunits
  refine h (units_injective (hunits.trans ?_))
  rw [units]
  exact (Nat.zero_mul _).symm

theorem zpow_le_quotient {units one length offset : Nat} (hone : 0 < one)
    (h : tenPow length * one ≤ units * tenPow offset) :
    (10 : ℚ) ^ ((length : Int) - offset) ≤ units / one := by
  rw [zpow_sub₀ (by norm_num), zpow_natCast, zpow_natCast,
    div_le_div_iff₀ (by positivity) (Nat.cast_pos.2 hone), ← cast_tenPow, ← cast_tenPow]
  exact_mod_cast h

/-- The order is the exponent of the leading digit. -/
theorem zpow_order_le_number (h : x ≠ .zero) : (10 : ℚ) ^ x.order ≤ x.number := by
  obtain ⟨length, horder, hlt, hleast⟩ := x.exists_order_eq
  have hrange : unitsPerOne ≤ tenPow 324 := by decide +kernel
  have hunits : tenPow 0 ≤ x.units := Nat.pos_of_ne_zero (units_ne_zero h)
  have hone : tenPow 0 * unitsPerOne ≤ x.units * tenPow 324 := Nat.mul_le_mul hunits hrange
  obtain _ | k := length
  · exact absurd hlt (Nat.not_lt.2 hone)
  have hle : tenPow k * unitsPerOne ≤ x.units * tenPow 324 := by
    by_contra hgt
    obtain _ | k := k
    · exact hgt hone
    · exact Nat.not_succ_le_self _ (hleast (k + 1) (Nat.succ_pos k) (Nat.not_le.1 hgt))
  have hexponent : x.order = (k : Int) - (324 : Nat) := by
    rw [horder, Nat.cast_succ, add_sub_assoc]
    rfl
  rw [hexponent]
  exact zpow_le_quotient unitsPerOne_pos hle

/-- A multiple of the step of a grid lies between a magnitude and any decimal that has no more
digits than the grid. -/
theorem exists_multiple_between {count : Nat} {d : Decimal} (hx : x ≠ .zero) (hcount : 0 < count)
    (hd : d.significand ≤ tenPow count) :
    ∃ k : Nat, d.number ≤ k * 10 ^ (x.order + 1 - count) ∧
        k * 10 ^ (x.order + 1 - count) ≤ x.number ∨
      x.number < k * 10 ^ (x.order + 1 - count) ∧
        k * 10 ^ (x.order + 1 - count) ≤ d.number := by
  rcases Int.lt_or_le d.exponent (x.order + 1 - count) with hfiner | hwider
  · -- On a finer grid the decimal is below the leading power of ten of the magnitude.
    refine ⟨tenPow (count - 1), .inl ?_⟩
    have hleading : (tenPow (count - 1) : ℚ) * 10 ^ (x.order + 1 - count) = 10 ^ x.order := by
      rw [cast_tenPow, ← zpow_natCast, ← zpow_add₀ (by norm_num)]
      congr 1
      omega
    rw [hleading]
    refine ⟨?_, zpow_order_le_number hx⟩
    calc d.number ≤ (tenPow count : ℚ) * 10 ^ d.exponent :=
          mul_le_mul_of_nonneg_right (Nat.cast_le.2 hd) (by positivity)
      _ = 10 ^ ((count : Int) + d.exponent) := by
          rw [cast_tenPow, ← zpow_natCast, ← zpow_add₀ (by norm_num)]
      _ ≤ 10 ^ x.order := zpow_le_zpow_right₀ (by norm_num) (by omega)
  · -- On the grid itself or on a wider one it is a multiple.
    refine ⟨d.significand * tenPow (d.exponent - (x.order + 1 - count)).toNat, ?_⟩
    have hself : ((d.significand * tenPow (d.exponent - (x.order + 1 - count)).toNat : Nat) : ℚ) *
        10 ^ (x.order + 1 - count) = d.number := by
      push_cast
      rw [cast_tenPow, ← zpow_natCast, Int.toNat_of_nonneg (by omega), mul_assoc,
        ← zpow_add₀ (by norm_num), Int.sub_add_cancel]
      rfl
    rw [hself]
    rcases le_or_gt d.number x.number with hle | hgt
    · exact .inl ⟨le_rfl, hle⟩
    · exact .inr ⟨hgt, le_rfl⟩

/-- The steps of a grid that go into a magnitude. -/
def quotient (x : Magnitude) (exponent : Int) : Nat :=
  (x.inSteps exponent).1 / (x.inSteps exponent).2

theorem le_quotient_iff {exponent : Int} {k : Nat} :
    k ≤ x.quotient exponent ↔ (k : ℚ) * 10 ^ exponent ≤ x.number := by
  have hsteps := x.inSteps_pos exponent
  have hstep : (0 : ℚ) < 10 ^ exponent := by positivity
  rw [quotient, Nat.le_div_iff_mul_le hsteps, ← le_div_iff₀ hstep, ← inSteps_number,
    le_div_iff₀ (Nat.cast_pos.2 hsteps)]
  exact_mod_cast Iff.rfl

theorem quotient_lt (x : Magnitude) (count : Nat) :
    x.quotient (x.order + 1 - count) < tenPow count :=
  (Nat.div_lt_iff_lt_mul (x.inSteps_pos _)).2 (x.inSteps_lt count)

/-- Where a decimal of so many digits is read as the magnitude, a neighbour on the grid of so many
digits is. -/
theorem reads_neighbour {count : Nat} {d : Decimal} (hx : x ≠ .zero) (hcount : 0 < count)
    (hd : d.significand ≤ tenPow count) (hreads : d.Reads x) :
    Decimal.Reads ⟨x.quotient (x.order + 1 - count), x.order + 1 - count⟩ x ∨
      Decimal.Reads ⟨x.quotient (x.order + 1 - count) + 1, x.order + 1 - count⟩ x := by
  have hstep : (0 : ℚ) ≤ 10 ^ (x.order + 1 - count) := by positivity
  obtain ⟨k, ⟨hdk, hkx⟩ | ⟨hxk, hkd⟩⟩ := exists_multiple_between hx hcount hd
  · have hk : k ≤ x.quotient (x.order + 1 - count) := le_quotient_iff.2 hkx
    refine .inl (hreads.of_below (hdk.trans ?_) (le_quotient_iff.1 le_rfl))
    exact mul_le_mul_of_nonneg_right (Nat.cast_le.2 hk) hstep
  · have hk : x.quotient (x.order + 1 - count) + 1 ≤ k :=
      Nat.lt_of_not_le fun hle => absurd (le_quotient_iff.1 hle) (not_le.2 hxk)
    have hnext : ¬x.quotient (x.order + 1 - count) + 1 ≤ x.quotient (x.order + 1 - count) :=
      Nat.not_succ_le_self _
    refine .inr (hreads.of_above (le_of_not_ge fun hle => hnext (le_quotient_iff.2 hle)) ?_)
    exact (mul_le_mul_of_nonneg_right (Nat.cast_le.2 hk) hstep).trans hkd

theorem readsBack_iff {d : Decimal} (h : d.Readable) : x.readsBack d = true ↔ d.Reads x := by
  rw [readsBack, beq_iff_eq]
  exact ⟨h.reads_of_ofDecimal, fun hreads => h.ofDecimal_of_reads hreads false⟩

theorem exists_neighbour? {tie : Tie} {count : Nat} {d : Decimal} (hx : x ≠ .zero)
    (hcount : 0 < count) (hmost : count ≤ 7000) (hd : d.significand ≤ tenPow count)
    (hreads : d.Reads x) : ∃ e, x.neighbour? tie count = some e := by
  have hreadable {n : Nat} {exponent : Int} (hn : n ≤ tenPow count) :
      Decimal.Readable ⟨n, exponent⟩ := ((FitsIn.tenPow count).of_le hn).mono (by omega)
  have hbelow := x.quotient_lt count
  have hneighbour := reads_neighbour hx hcount hd hreads
  rw [← readsBack_iff (hreadable (Nat.le_of_lt hbelow)), ← readsBack_iff (hreadable hbelow)]
    at hneighbour
  unfold neighbour?
  dsimp only
  split
  · exact ⟨_, rfl⟩
  · next hfirst =>
    have hsecond := hneighbour.resolve_left hfirst
    exact ⟨_, if_pos hsecond⟩

/-- The search stops at the latest where a neighbour reads back. -/
theorem significand_shortestFrom_le {tie : Tie} {count : Nat}
    (hfound : ∃ e, x.neighbour? tie count = some e) (fuel start : Nat) (hstart : start ≤ count)
    (hfuel : count < start + fuel) :
    (shortestFrom tie x fuel start).significand ≤ tenPow count := by
  induction fuel generalizing start with
  | zero => omega
  | succ fuel ih =>
      unfold shortestFrom
      cases hneighbour : x.neighbour? tie start with
      | some d =>
          obtain ⟨-, -, hsignificand⟩ := neighbour?_spec hneighbour
          calc d.significand ≤ x.quotient (x.order + 1 - start) + 1 := hsignificand
            _ ≤ tenPow start := x.quotient_lt start
            _ ≤ tenPow count := tenPow_le hstart
      | none =>
          have hne : start ≠ count := by
            rintro rfl
            obtain ⟨e, he⟩ := hfound
            rw [hneighbour] at he
            cases he
          exact ih (start + 1) (by omega) (by omega)

/-- No decimal that is read as a magnitude has fewer digits than the shortest. -/
theorem significand_shortest_le {tie : Tie} {count : Nat} {d : Decimal} (hcount : 0 < count)
    (hmost : count ≤ 25) (hd : d.significand ≤ tenPow count) (hreads : d.Reads x) :
    (x.shortest tie).significand ≤ tenPow count := by
  by_cases hx : x = .zero
  · subst hx
    have hzero : (shortest tie .zero).significand = 0 := by cases tie <;> decide +kernel
    rw [hzero]
    exact Nat.zero_le _
  · have hfound : ∃ e, x.neighbour? tie count = some e :=
      exists_neighbour? hx hcount (by omega) hd hreads
    exact Nat.le_trans (Decimal.significand_normalized_le _)
      (significand_shortestFrom_le hfound 25 1 hcount (by omega))

end Magnitude

end Phrasebook
