import Phrasebook.Proofs.Numeric.ReadingBack

/-!
# Rounding to significant digits

A magnitude lies below the power of ten behind its order, and rounding it to a count of digits goes
at most up to that power. So the rounded value stays in the range of the format, except for
magnitudes that are close to its end.
-/

namespace Phrasebook

/-- Rounding does not pass a whole number. -/
theorem roundHalfEven_le {n d k : Nat} (hd : 0 < d) (h : n ≤ k * d) : roundHalfEven n d ≤ k := by
  rcases Nat.lt_or_eq_of_le h with hlt | rfl
  · have hdiv : n / d < k := (Nat.div_lt_iff_lt_mul hd).2 hlt
    unfold roundHalfEven
    dsimp only
    repeat' split
    all_goals omega
  · have hexact : roundHalfEven (k * d) d = k := by
      unfold roundHalfEven
      simp only [Nat.mul_mod_left, Nat.mul_zero, Nat.mul_div_cancel _ hd, if_pos hd]
    exact Nat.le_of_eq hexact

theorem log2_lt_of_lt_twoPow {n k : Nat} (hk : 0 < k) (h : n < twoPow k) : n.log2 < k := by
  by_cases hn : n = 0
  · simpa [hn] using hk
  · exact (Nat.log2_lt hn).2 h

namespace Digit

theorem lt_tenPow_length_quotient {n d : Nat} (hd : 0 < d) :
    n < tenPow (ofNat (n / d)).length * d :=
  (Nat.div_lt_iff_lt_mul hd).1 (lt_tenPow_length _)

theorem length_quotient_le {n d k : Nat} (hd : 0 < d) (hk : 0 < k) (h : n < tenPow k * d) :
    (ofNat (n / d)).length ≤ k :=
  length_ofNat_le_of_lt hk ((Nat.div_lt_iff_lt_mul hd).2 h)

end Digit

/-! ## Grids

The step of a grid is a power of ten. What lies below `10 ^ length` in steps of `10 ^ -offset` lies
below a count of digits in wider steps. -/

section Grids

variable {units one length offset count e : Nat}

theorem lt_of_wider (h : units * tenPow offset < tenPow length * one)
    (hlength : length = count + e + offset) : units < tenPow count * (one * tenPow e) := by
  have hscaled : units * tenPow offset < tenPow count * (one * tenPow e) * tenPow offset := by
    calc units * tenPow offset < tenPow length * one := h
      _ = tenPow count * (one * tenPow e) * tenPow offset := by
          rw [hlength, tenPow_add, tenPow_add]
          ring
  exact Nat.lt_of_mul_lt_mul_right hscaled

theorem lt_of_finer (h : units * tenPow offset < tenPow length * one)
    (hlength : e + length = offset + count) : units * tenPow e < tenPow count * one := by
  have hsum : tenPow e * tenPow length = tenPow offset * tenPow count := by
    rw [← tenPow_add, ← tenPow_add, hlength]
  have hscaled : units * tenPow e * tenPow length < tenPow count * one * tenPow length := by
    calc units * tenPow e * tenPow length = units * tenPow offset * tenPow count := by
          rw [Nat.mul_assoc, hsum, Nat.mul_assoc]
      _ < tenPow length * one * tenPow count := Nat.mul_lt_mul_of_pos_right h (tenPow_pos _)
      _ = tenPow count * one * tenPow length := by ring
  exact Nat.lt_of_mul_lt_mul_right hscaled

end Grids

namespace Magnitude

open Digit

theorem unitsPerOne_eq : unitsPerOne = twoPow 1074 := by rw [unitsPerOne]

theorem unitsPerOne_pos : 0 < unitsPerOne := by
  rw [unitsPerOne_eq]
  exact twoPow_pos _

/-- The order counts the digits of the magnitude in steps of `10 ^ -324`. -/
theorem exists_order_eq (x : Magnitude) :
    ∃ length : Nat, x.order = length - 325 ∧
      x.units * tenPow 324 < tenPow length * unitsPerOne ∧
      ∀ k, 0 < k → x.units * tenPow 324 < tenPow k * unitsPerOne → length ≤ k := by
  refine ⟨(ofNat (x.units * tenPow 324 / unitsPerOne)).length, ?_, ?_, ?_⟩
  · rw [order]
  · exact lt_tenPow_length_quotient unitsPerOne_pos
  · intro k hk h
    exact length_quotient_le unitsPerOne_pos hk h

theorem order_le {x : Magnitude} {k : Nat} (h : x.units < tenPow k * unitsPerOne) :
    x.order + 1 ≤ k := by
  obtain ⟨length, horder, -, hleast⟩ := x.exists_order_eq
  have hlength : length ≤ k + 324 := by
    apply hleast (k + 324) (Nat.succ_pos _)
    rw [tenPow_add, Nat.mul_right_comm]
    exact Nat.mul_lt_mul_of_pos_right h (tenPow_pos _)
  clear hleast h
  omega

theorem inSteps_of_nonneg (x : Magnitude) (e : Nat) :
    x.inSteps e = (x.units, unitsPerOne * tenPow e) := if_pos (Int.natCast_nonneg e)

theorem inSteps_of_neg (x : Magnitude) (e : Nat) :
    x.inSteps (-((e + 1 : Nat) : Int)) = (x.units * tenPow (e + 1), unitsPerOne) := by
  have hneg : ¬0 ≤ -((e + 1 : Nat) : Int) := by omega
  rw [inSteps, if_neg hneg, Int.neg_neg, Int.toNat_natCast]

/-- The magnitude is below the power of ten behind its order, on every grid. -/
theorem inSteps_lt (x : Magnitude) (count : Nat) :
    (x.inSteps (x.order + 1 - count)).1 < tenPow count * (x.inSteps (x.order + 1 - count)).2 := by
  obtain ⟨length, horder, hlt, -⟩ := x.exists_order_eq
  rw [horder]
  rcases Int.lt_or_le ((length : Int) - 325 + 1 - count) 0 with hneg | hnonneg
  · obtain ⟨e, he⟩ : ∃ e : Nat, (length : Int) - 325 + 1 - count = -((e + 1 : Nat) : Int) :=
      ⟨(324 + count - length - 1 : Nat), by clear hlt; omega⟩
    rw [he, inSteps_of_neg]
    dsimp only
    refine lt_of_finer hlt ?_
    clear hlt
    omega
  · obtain ⟨e, he⟩ : ∃ e : Nat, (length : Int) - 325 + 1 - count = e :=
      Int.eq_ofNat_of_zero_le hnonneg
    rw [he, inSteps_of_nonneg]
    dsimp only
    refine lt_of_wider hlt ?_
    clear hlt
    omega

theorem inSteps_pos (x : Magnitude) (exponent : Int) : 0 < (x.inSteps exponent).2 := by
  rw [inSteps]
  split
  · dsimp only
    exact Nat.mul_pos unitsPerOne_pos (tenPow_pos _)
  · dsimp only
    exact unitsPerOne_pos

theorem toSignificant_eq (x : Magnitude) (count : Nat) :
    x.toSignificant count =
      ⟨roundHalfEven (x.inSteps (x.order + 1 - count)).1 (x.inSteps (x.order + 1 - count)).2,
        x.order + 1 - count⟩ := by
  -- Both functions become variables before the definition opens: the steps of a grid are powers
  -- of ten and two that nothing here may evaluate.
  obtain ⟨rounded, hrounded⟩ : ∃ rounded, toSignificant = rounded := ⟨_, rfl⟩
  obtain ⟨steps, hsteps⟩ : ∃ steps, inSteps = steps := ⟨_, rfl⟩
  rw [hrounded]
  delta toSignificant at hrounded
  rw [hsteps] at hrounded ⊢
  subst hrounded
  rfl

/-- Rounded to `count` digits, a magnitude has at most `count` digits or is the next power of
ten. -/
theorem significand_toSignificant_le (x : Magnitude) (count : Nat) :
    (x.toSignificant count).significand ≤ tenPow count := by
  rw [toSignificant_eq]
  exact roundHalfEven_le (x.inSteps_pos _) (Nat.le_of_lt (x.inSteps_lt count))

theorem exponent_toSignificant (x : Magnitude) (count : Nat) :
    (x.toSignificant count).exponent + count = x.order + 1 := by
  rw [toSignificant_eq]
  exact Int.sub_add_cancel _ _

/-- A quotient that is small enough has a nearest magnitude. -/
theorem exists_nearest?_of_lt {num den bits : Nat} (hden : 0 < den)
    (h : num < twoPow bits * den) (hbits : bits + 1074 ≤ 2096) :
    ∃ x, nearest? num den = some x := by
  have hunits : num * unitsPerOne / den < twoPow (bits + 1074) := by
    rw [Nat.div_lt_iff_lt_mul hden, twoPow_add, Nat.mul_right_comm, ← unitsPerOne_eq]
    exact Nat.mul_lt_mul_of_pos_right h unitsPerOne_pos
  apply exists_nearest?
  exact Nat.lt_of_lt_of_le (log2_lt_of_lt_twoPow (Nat.succ_pos _) hunits) hbits

end Magnitude

namespace Decimal

/-- A decimal with at most `count` digits, or the next power of ten, that ends before the place of
`10 ^ top`. -/
theorem ratio_lt {d : Decimal} {count top bound : Nat} (h : d.significand ≤ tenPow count)
    (hexponent : d.exponent + count ≤ top) (hbound : tenPow top < bound) :
    d.ratio.1 < bound * d.ratio.2 := by
  rcases Int.lt_or_le d.exponent 0 with he | he
  · have hcount : count ≤ top + (-d.exponent).toNat := by omega
    rw [ratio_of_neg he]
    calc d.significand ≤ tenPow count := h
      _ ≤ tenPow (top + (-d.exponent).toNat) := tenPow_le hcount
      _ = tenPow top * tenPow (-d.exponent).toNat := tenPow_add _ _
      _ < bound * tenPow (-d.exponent).toNat := Nat.mul_lt_mul_of_pos_right hbound (tenPow_pos _)
  · have hcount : count + d.exponent.toNat ≤ top := by omega
    rw [ratio_of_nonneg he, Nat.mul_one]
    calc d.significand * tenPow d.exponent.toNat ≤ tenPow count * tenPow d.exponent.toNat :=
          Nat.mul_le_mul_right _ h
      _ = tenPow (count + d.exponent.toNat) := (tenPow_add _ _).symm
      _ ≤ tenPow top := tenPow_le hcount
      _ < bound := hbound

end Decimal

namespace Binary64

/-- Below a power of ten that the format holds, rounding to significant digits stays in the
range. -/
theorem exists_roundSignificant {x : Magnitude} {count top bits : Nat}
    (h : x.units < tenPow top * Magnitude.unitsPerOne) (hcount : count ≤ 7000)
    (htop : tenPow top < twoPow bits) (hbits : bits + 1074 ≤ 2096) (negative : Bool) :
    ∃ y, roundSignificant count (.finite negative x) = .finite negative y := by
  rw [roundSignificant]
  by_cases hzero : x = .zero
  · exact ⟨x, if_pos hzero⟩
  · rw [if_neg hzero]
    have hsignificand := x.significand_toSignificant_le count
    have hexponent : (x.toSignificant count).exponent + count ≤ top := by
      rw [x.exponent_toSignificant count]
      exact Magnitude.order_le h
    have hreadable : (x.toSignificant count).Readable :=
      ((FitsIn.tenPow count).of_le hsignificand).mono (by clear h htop; omega)
    obtain ⟨y, hy⟩ := Magnitude.exists_nearest?_of_lt (Decimal.ratio_pos _)
      (Decimal.ratio_lt hsignificand hexponent htop) hbits
    refine ⟨y, ?_⟩
    rw [hreadable.ofDecimal_eq]
    exact ofRatio_of_some hy negative

end Binary64

end Phrasebook
