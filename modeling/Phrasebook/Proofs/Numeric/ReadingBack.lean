import Phrasebook.Proofs.Numeric.Digits
import Phrasebook.Proofs.Numeric.Rounding

/-!
# The shortest digits read back

Which value a decimal is read as depends on the number that it writes, not on how it is written: the
estimate that decides extreme exponents beforehand agrees with rounding. So every decimal that the
shortest digits are written as reads back to the magnitude they were found for.
-/

namespace Phrasebook

namespace Binary64

theorem ofRatio_congr {num den num' den' : Nat}
    (h : Magnitude.nearest? num den = Magnitude.nearest? num' den') (negative : Bool) :
    ofRatio negative num den = ofRatio negative num' den' := by
  unfold ofRatio
  rw [h]

theorem ofRatio_of_some {num den : Nat} {m : Magnitude} (h : Magnitude.nearest? num den = some m)
    (negative : Bool) : ofRatio negative num den = .finite negative m := by
  rw [ofRatio, h, Option.elim_some]

theorem ofRatio_of_none {num den : Nat} (h : Magnitude.nearest? num den = none)
    (negative : Bool) : ofRatio negative num den = .infinite negative := by
  rw [ofRatio, h, Option.elim_none]

theorem ofRatio_cases (negative : Bool) (num den : Nat) :
    ofRatio negative num den = .infinite negative ∨
      ∃ x, ofRatio negative num den = .finite negative x := by
  cases h : Magnitude.nearest? num den with
  | none => exact .inl (ofRatio_of_none h negative)
  | some x => exact .inr ⟨x, ofRatio_of_some h negative⟩

theorem ofDecimal_cases (negative : Bool) (d : Decimal) :
    ofDecimal negative d = .infinite negative ∨ ∃ x, ofDecimal negative d = .finite negative x := by
  unfold ofDecimal
  split
  · exact .inr ⟨_, rfl⟩
  · dsimp only
    split
    · exact .inl rfl
    · split
      · exact .inr ⟨_, rfl⟩
      · split <;> exact ofRatio_cases ..

end Binary64

namespace Decimal

/-- A significand for which the estimate is close enough. -/
def Readable (x : Decimal) : Prop := FitsIn 29000 x.significand

/-- A readable decimal reads as the value nearest to the number it writes. -/
theorem Readable.ofDecimal_eq {x : Decimal} (h : x.Readable) (negative : Bool) :
    Binary64.ofDecimal negative x = Binary64.ofRatio negative x.ratio.1 x.ratio.2 := by
  have hlog : x.significand.log2 < 30000 := Nat.lt_of_le_of_lt h.log2_le (by decide)
  unfold Binary64.ofDecimal
  split
  · next hzero =>
    have hnum : x.ratio.1 = 0 := by
      unfold ratio
      split <;> simp [hzero]
    have hnearest : Magnitude.nearest? x.ratio.1 x.ratio.2 = some .zero :=
      Magnitude.nearest?_eq_zero (by simpa [hnum] using x.ratio_pos)
    exact (Binary64.ofRatio_of_some hnearest negative).symm
  · next hne =>
    dsimp only
    split
    · next htop =>
      exact (Binary64.ofRatio_of_none (nearest?_of_top_high hlog hne htop) negative).symm
    · split
      · next htop =>
        exact (Binary64.ofRatio_of_some (nearest?_of_top_low hlog htop) negative).symm
      · unfold ratio
        split <;> rfl

/-- Zeros at the end make no difference. -/
theorem Readable.ofDecimal_withZeros {x : Decimal} {count : Nat}
    (h : (x.withZeros count).Readable) (negative : Bool) :
    Binary64.ofDecimal negative (x.withZeros count) = Binary64.ofDecimal negative x := by
  have hx : x.Readable := FitsIn.of_le h (Nat.le_mul_of_pos_right _ (tenPow_pos count))
  rw [h.ofDecimal_eq, hx.ofDecimal_eq]
  exact Binary64.ofRatio_congr
    (Magnitude.nearest?_congr (ratio_pos _) (ratio_pos _) (x.ratio_withZeros count)) negative

/-- Only the sign of the value depends on the sign that is read. -/
theorem ofDecimal_finite {x : Decimal} {m : Magnitude}
    (h : Binary64.ofDecimal false x = .finite false m) (negative : Bool) :
    Binary64.ofDecimal negative x = .finite negative m := by
  have hratio (num den : Nat) (hr : Binary64.ofRatio false num den = .finite false m) :
      Binary64.ofRatio negative num den = .finite negative m := by
    cases hnearest : Magnitude.nearest? num den with
    | none =>
        rw [Binary64.ofRatio_of_none hnearest] at hr
        cases hr
    | some m' =>
        rw [Binary64.ofRatio_of_some hnearest] at hr ⊢
        cases hr
        rfl
  unfold Binary64.ofDecimal at h ⊢
  dsimp only at h ⊢
  split_ifs at h ⊢
  · simpa using h
  · simpa using h
  · exact hratio _ _ h
  · exact hratio _ _ h

theorem strip_spec (fuel : Nat) (x : Decimal) :
    ∃ count ≤ fuel, (strip fuel x).withZeros count = x := by
  induction fuel generalizing x with
  | zero => exact ⟨0, Nat.le_refl 0, by simp [strip, withZeros, tenPow]⟩
  | succ fuel ih =>
      unfold strip
      split
      · next hzero =>
        obtain ⟨n, e⟩ := x
        obtain ⟨count, hcount, hstrip⟩ := ih ⟨n / 10, e + 1⟩
        refine ⟨count + 1, Nat.succ_le_succ hcount, ?_⟩
        simp only [withZeros, Decimal.mk.injEq] at hstrip
        obtain ⟨hsignificand, hexponent⟩ := hstrip
        simp only [withZeros, Decimal.mk.injEq, tenPow_add, ← Nat.mul_assoc, hsignificand]
        refine ⟨Nat.div_mul_cancel (Nat.dvd_of_mod_eq_zero hzero), ?_⟩
        push_cast
        omega
      · exact ⟨0, Nat.zero_le _, by simp [withZeros, tenPow]⟩

theorem normalized_spec (x : Decimal) :
    (x.significand = 0 ∧ x.normalized = ⟨0, 0⟩) ∨
      ∃ count ≤ x.significand.log2 + 1, x.normalized.withZeros count = x := by
  unfold normalized
  split
  · next hzero => exact .inl ⟨hzero, rfl⟩
  · exact .inr (strip_spec _ x)

end Decimal

namespace Magnitude

open Decimal

/-- Within generous bounds, and read as the magnitude. -/
structure WrittenBy (x : Magnitude) (d : Decimal) : Prop where
  reads : Binary64.ofDecimal false d = .finite false x
  fitsIn : FitsIn 6000 d.significand
  exponent_le : d.exponent.natAbs ≤ 6000

theorem order_bounds (x : Magnitude) : -325 ≤ x.order ∧ x.order ≤ 5000 := by
  have hfits : FitsIn (2099 + (4 * 324 + 1)) (x.units * tenPow 324 / unitsPerOne) :=
    (x.fitsIn_units.mul (.tenPow 324)).of_le (Nat.div_le_self _ _)
  have hlog := hfits.log2_le
  have hlength := Digit.length_ofNat_le (x.units * tenPow 324 / unitsPerOne)
  unfold order
  omega

theorem fitsIn_inSteps (x : Magnitude) {exponent : Int} (h : -400 ≤ exponent) :
    FitsIn 4000 (x.inSteps exponent).1 := by
  unfold inSteps
  split
  · exact x.fitsIn_units.mono (by decide)
  · exact (x.fitsIn_units.mul (.tenPow _)).mono (by omega)

theorem neighbour?_spec {tie : Tie} {x : Magnitude} {count : Nat} {d : Decimal}
    (h : x.neighbour? tie count = some d) :
    let exponent := x.order + 1 - count
    x.readsBack d = true ∧ d.exponent = exponent ∧
      d.significand ≤ (x.inSteps exponent).1 / (x.inSteps exponent).2 + 1 := by
  unfold neighbour? at h
  dsimp only at h ⊢
  split at h
  · next hbelow =>
    split at h <;> cases h
    · next habove => exact ⟨(Bool.and_eq_true_iff.1 habove).2, rfl, Nat.le_refl _⟩
    · exact ⟨hbelow, rfl, Nat.le_succ _⟩
  · split at h
    · next habove =>
      cases h
      exact ⟨habove, rfl, Nat.le_refl _⟩
    · cases h

theorem writtenBy_of_neighbour? {tie : Tie} {x : Magnitude} {count : Nat} {d : Decimal}
    (hcount : count ≤ 26) (h : x.neighbour? tie count = some d) : x.WrittenBy d := by
  obtain ⟨hreads, hexponent, hsignificand⟩ := neighbour?_spec h
  have horder := x.order_bounds
  have hnum : FitsIn 4000 (x.inSteps (x.order + 1 - count)).1 := x.fitsIn_inSteps (by omega)
  have hquotient := (hnum.of_le (Nat.div_le_self _ (x.inSteps (x.order + 1 - count)).2)).succ
  refine ⟨?_, (hquotient.of_le hsignificand).mono (by decide), by omega⟩
  simpa [readsBack] using hreads

/-- Without a grid on which a neighbour reads back, the exact value is written. -/
theorem writtenBy_exactly (x : Magnitude) : x.WrittenBy x.exactly := by
  have hfits : FitsIn (2099 + (3 * 1074 + 1)) x.exactly.significand :=
    x.fitsIn_units.mul (.fivePow 1074)
  have hreadable : x.exactly.Readable := hfits.mono (by decide)
  have hratio : x.exactly.ratio = (x.units * fivePow 1074, tenPow 1074) :=
    ratio_of_neg (show (-1074 : Int) < 0 by decide)
  have hnearest : nearest? (x.units * fivePow 1074) (tenPow 1074) = some x := by
    rw [tenPow_eq_mul, Nat.mul_comm x.units, nearest?_mul (fivePow_pos _)]
    exact x.nearest?_units
  refine ⟨?_, hfits.mono (by decide), ?_⟩
  · rw [hreadable.ofDecimal_eq, hratio, Binary64.ofRatio_of_some hnearest]
  · exact show (-1074 : Int).natAbs ≤ 6000 by decide

theorem writtenBy_shortestFrom (tie : Tie) (x : Magnitude) (fuel count : Nat)
    (h : fuel + count ≤ 26) : x.WrittenBy (shortestFrom tie x fuel count) := by
  induction fuel generalizing count with
  | zero => exact x.writtenBy_exactly
  | succ fuel ih =>
      unfold shortestFrom
      cases hneighbour : x.neighbour? tie count with
      | some d => exact writtenBy_of_neighbour? (by omega) hneighbour
      | none => exact ih (count + 1) (by omega)

theorem WrittenBy.reads_normalized {x : Magnitude} {d : Decimal} (hd : x.WrittenBy d) {count : Nat}
    (h : (d.normalized.withZeros count).Readable) (negative : Bool) :
    Binary64.ofDecimal negative (d.normalized.withZeros count) = .finite negative x := by
  refine ofDecimal_finite ?_ negative
  rw [h.ofDecimal_withZeros, ← hd.reads]
  rcases d.normalized_spec with ⟨hzero, hnormalized⟩ | ⟨zeros, -, hzeros⟩
  · rw [hnormalized]
    unfold Binary64.ofDecimal
    rw [if_pos hzero, if_pos rfl]
  · have hreadable : (d.normalized.withZeros zeros).Readable := by
      rw [hzeros]
      exact hd.fitsIn.mono (by decide)
    rw [← hreadable.ofDecimal_withZeros, hzeros]

theorem WrittenBy.normalized_bounds {x : Magnitude} {d : Decimal} (hd : x.WrittenBy d) :
    FitsIn 6000 d.normalized.significand ∧ d.normalized.exponent.natAbs ≤ 13000 := by
  have hlog := hd.fitsIn.log2_le
  have hexponent := hd.exponent_le
  rcases d.normalized_spec with ⟨hzero, hnormalized⟩ | ⟨zeros, hcount, hzeros⟩
  · rw [hnormalized]
    exact ⟨hd.fitsIn.of_le (Nat.zero_le _), Nat.zero_le _⟩
  · have hsignificand : d.normalized.significand * tenPow zeros = d.significand :=
      congrArg Decimal.significand hzeros
    have hshift : d.normalized.exponent - zeros = d.exponent := congrArg Decimal.exponent hzeros
    refine ⟨hd.fitsIn.of_le ?_, by omega⟩
    rw [← hsignificand]
    exact Nat.le_mul_of_pos_right _ (tenPow_pos zeros)

/-- The shortest digits, and the same digits with zeros behind them, are read as the magnitude they
were found for, with any sign. -/
theorem shortest_reads {tie : Tie} {x : Magnitude} {count : Nat}
    (h : ((x.shortest tie).withZeros count).Readable) (negative : Bool) :
    Binary64.ofDecimal negative ((x.shortest tie).withZeros count) = .finite negative x :=
  (x.writtenBy_shortestFrom tie 25 1 (by decide)).reads_normalized h negative

/-- They stand far within the bounds of what is read. -/
theorem shortest_bounds (tie : Tie) (x : Magnitude) :
    FitsIn 6000 (x.shortest tie).significand ∧ (x.shortest tie).exponent.natAbs ≤ 13000 :=
  (x.writtenBy_shortestFrom tie 25 1 (by decide)).normalized_bounds

end Magnitude

end Phrasebook
