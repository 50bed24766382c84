import Mathlib.Tactic.Ring
import Phrasebook.Numeric.Shortest

/-!
# Rounding depends on the quotient

The magnitude nearest to a quotient is the same for every way to write the quotient; far above the
range there is none, far below it is zero, and a magnitude is its own nearest. The number of binary
digits of a decimal tells well enough where it lies.
-/

namespace Phrasebook

def FitsIn (bits n : Nat) : Prop := n < twoPow bits

namespace FitsIn

variable {j k m n : Nat}

theorem mono (h : FitsIn j n) (hjk : j ≤ k) : FitsIn k n := Nat.lt_of_lt_of_le h (twoPow_le hjk)

theorem of_le (h : FitsIn k n) (hmn : m ≤ n) : FitsIn k m := Nat.lt_of_le_of_lt hmn h

theorem mul (hm : FitsIn j m) (hn : FitsIn k n) : FitsIn (j + k) (m * n) := by
  have hle : m * n ≤ m * twoPow k := Nat.mul_le_mul_left m (Nat.le_of_lt hn)
  refine Nat.lt_of_le_of_lt hle ?_
  rw [twoPow_add]
  exact Nat.mul_lt_mul_of_pos_right hm (twoPow_pos k)

theorem succ (h : FitsIn k n) : FitsIn (k + 1) (n + 1) := by
  refine Nat.lt_of_le_of_lt (Nat.succ_le_of_lt h) ?_
  exact Nat.pow_lt_pow_right (by decide) (Nat.lt_succ_self k)

theorem log2_le (h : FitsIn k n) : n.log2 ≤ k := by
  by_cases hn : n = 0
  · simp [hn]
  · exact Nat.le_of_lt ((Nat.log2_lt hn).2 h)

theorem pow {b : Nat} (hb : b ≤ 2 ^ j) (n : Nat) : FitsIn (j * n + 1) (b ^ n) := by
  have hle : b ^ n ≤ 2 ^ (j * n) := by
    rw [Nat.pow_mul]
    exact Nat.pow_le_pow_left hb n
  exact Nat.lt_of_le_of_lt hle (Nat.pow_lt_pow_right (by decide) (Nat.lt_succ_self _))

theorem twoPow (n : Nat) : FitsIn (n + 1) (twoPow n) :=
  Nat.pow_lt_pow_right (by decide) (Nat.lt_succ_self n)

theorem tenPow (n : Nat) : FitsIn (4 * n + 1) (tenPow n) := pow (by decide) n

theorem fivePow (n : Nat) : FitsIn (3 * n + 1) (fivePow n) := pow (by decide) n

end FitsIn

-- Counts of thousands of digits follow; the powers that they stand for are never computed.
attribute [irreducible] FitsIn

theorem roundHalfEven_mul {k : Nat} (hk : 0 < k) (n d : Nat) :
    roundHalfEven (k * n) (k * d) = roundHalfEven n d := by
  have hrest : 2 * (k * n % (k * d)) = k * (2 * (n % d)) := by
    rw [Nat.mul_mod_mul_left, Nat.mul_left_comm]
  unfold roundHalfEven
  dsimp only
  rw [Nat.mul_div_mul_left n d hk, hrest]
  simp only [Nat.mul_lt_mul_left hk]

namespace Magnitude

theorem nearest?_mul {k : Nat} (hk : 0 < k) (num den : Nat) :
    nearest? (k * num) (k * den) = nearest? num den := by
  have hdiv : k * num * unitsPerOne / (k * den) = num * unitsPerOne / den := by
    rw [Nat.mul_assoc, Nat.mul_div_mul_left _ _ hk]
  have hround (s : Nat) : roundHalfEven (k * num * unitsPerOne) (k * den * twoPow s) =
      roundHalfEven (num * unitsPerOne) (den * twoPow s) := by
    rw [Nat.mul_assoc, Nat.mul_assoc, roundHalfEven_mul hk]
  unfold nearest?
  simp only [hdiv, hround]

/-- Equal quotients have the same nearest magnitude. -/
theorem nearest?_congr {num den num' den' : Nat} (hden : 0 < den) (hden' : 0 < den')
    (h : num * den' = num' * den) : nearest? num den = nearest? num' den' := by
  rw [← nearest?_mul hden' num den, ← nearest?_mul hden num' den', Nat.mul_comm den' num, h,
    Nat.mul_comm num' den, Nat.mul_comm den' den]

theorem le_log2_of_twoPow_le {k n : Nat} (h : twoPow k ≤ n) : k ≤ n.log2 :=
  (Nat.le_log2 (Nat.ne_of_gt (Nat.lt_of_lt_of_le (twoPow_pos k) h))).2 h

theorem nearest?_eq_none {num den : Nat} (hden : 0 < den) (h : den * twoPow 1024 ≤ num) :
    nearest? num den = none := by
  have hunits : twoPow (1024 + 1074) ≤ num * unitsPerOne / den := by
    rw [Nat.le_div_iff_mul_le hden, twoPow_add, Nat.mul_comm, ← Nat.mul_assoc]
    exact Nat.mul_le_mul_right _ h
  have hlog : 1024 + 1074 ≤ (num * unitsPerOne / den).log2 := le_log2_of_twoPow_le hunits
  have hshift : ¬shiftFor (num * unitsPerOne / den) < 2046 := by
    unfold shiftFor
    omega
  exact dif_neg hshift

/-- Well within the range there is one. -/
theorem exists_nearest? {num den : Nat} (h : (num * unitsPerOne / den).log2 < 2096) :
    ∃ x, nearest? num den = some x := by
  have hshift : shiftFor (num * unitsPerOne / den) + 1 < 2046 := by
    unfold shiftFor
    omega
  unfold nearest?
  dsimp only
  rw [dif_pos (by omega)]
  split
  · exact ⟨_, rfl⟩
  · exact ⟨_, rfl⟩

theorem nearest?_eq_zero {num den : Nat} (h : 2 * (num * unitsPerOne) < den) :
    nearest? num den = some .zero := by
  have hdiv : num * unitsPerOne / den = 0 := Nat.div_eq_of_lt (by omega)
  have hround : roundHalfEven (num * unitsPerOne) (den * twoPow 0) = 0 := by
    have hmod : num * unitsPerOne % den = num * unitsPerOne := Nat.mod_eq_of_lt (by omega)
    unfold roundHalfEven
    simp only [show twoPow 0 = 1 from rfl, Nat.mul_one, hdiv, hmod, if_pos h]
  have hshift : shiftFor 0 = 0 := rfl
  unfold nearest?
  simp only [hdiv, hshift, hround]
  rfl

theorem fitsIn_units (x : Magnitude) : FitsIn 2099 x.units := by
  have hmantissa : FitsIn 53 x.mantissa := by
    unfold FitsIn
    exact x.mantissa_lt
  have hlt := x.shift_lt
  exact (hmantissa.mul (.twoPow x.shift)).mono (by omega)

theorem shiftFor_units (x : Magnitude) : shiftFor x.units = x.shift := by
  unfold shiftFor units
  rcases x.normal with hzero | hnormal
  · have hlog : x.mantissa.log2 ≤ 52 := by
      by_cases h0 : x.mantissa = 0
      · simp [h0]
      · exact Nat.le_of_lt_succ ((Nat.log2_lt h0).2 x.mantissa_lt)
    simp only [hzero, show twoPow 0 = 1 from rfl, Nat.mul_one]
    omega
  · have hne : x.mantissa * twoPow x.shift ≠ 0 :=
      Nat.ne_of_gt (Nat.mul_pos (Nat.lt_of_lt_of_le (twoPow_pos _) hnormal) (twoPow_pos _))
    have hlow : 52 + x.shift ≤ (x.mantissa * twoPow x.shift).log2 := by
      refine le_log2_of_twoPow_le ?_
      rw [twoPow_add]
      exact Nat.mul_le_mul_right _ hnormal
    have hhigh : (x.mantissa * twoPow x.shift).log2 < 53 + x.shift := by
      refine (Nat.log2_lt hne).2 ?_
      change _ < twoPow (53 + x.shift)
      rw [twoPow_add]
      exact Nat.mul_lt_mul_of_pos_right x.mantissa_lt (twoPow_pos _)
    omega

/-- The magnitude nearest to a magnitude is that magnitude. -/
theorem nearest?_units (x : Magnitude) : nearest? x.units unitsPerOne = some x := by
  have hdiv : x.units * unitsPerOne / unitsPerOne = x.units := Nat.mul_div_cancel _ (twoPow_pos _)
  have hround : roundHalfEven (x.units * unitsPerOne) (unitsPerOne * twoPow x.shift) =
      x.mantissa := by
    have hpos : 0 < unitsPerOne * twoPow x.shift := Nat.mul_pos (twoPow_pos _) (twoPow_pos _)
    have hprod : x.units * unitsPerOne = x.mantissa * (unitsPerOne * twoPow x.shift) := by
      unfold units
      ring
    unfold roundHalfEven
    simp only [hprod, Nat.mul_mod_left, Nat.mul_div_cancel _ hpos, Nat.mul_zero, if_pos hpos]
  unfold nearest?
  simp only [hdiv, shiftFor_units, hround, dif_pos x.shift_lt, dif_pos x.mantissa_lt]

end Magnitude

namespace Decimal

def ratio (x : Decimal) : Nat × Nat :=
  if 0 ≤ x.exponent then (x.significand * tenPow x.exponent.toNat, 1)
  else (x.significand, tenPow (-x.exponent).toNat)

theorem ratio_of_nonneg {x : Decimal} (h : 0 ≤ x.exponent) :
    x.ratio = (x.significand * tenPow x.exponent.toNat, 1) := if_pos h

theorem ratio_of_neg {x : Decimal} (h : x.exponent < 0) :
    x.ratio = (x.significand, tenPow (-x.exponent).toNat) := if_neg (Int.not_le.2 h)

theorem ratio_pos (x : Decimal) : 0 < x.ratio.2 := by
  unfold ratio
  split
  · exact Nat.one_pos
  · exact tenPow_pos _

/-- The number with `count` more zeros at its end, made good by the exponent. -/
def withZeros (x : Decimal) (count : Nat) : Decimal :=
  ⟨x.significand * tenPow count, x.exponent - count⟩

theorem ratio_withZeros (x : Decimal) (count : Nat) :
    (x.withZeros count).ratio.1 * x.ratio.2 = x.ratio.1 * (x.withZeros count).ratio.2 := by
  obtain ⟨n, e⟩ := x
  rcases Int.lt_or_le e 0 with h | h
  · have h' : e - count < 0 := by omega
    have he : (-(e - count)).toNat = count + (-e).toNat := by omega
    rw [ratio_of_neg (x := ⟨n, e⟩) h, ratio_of_neg (x := withZeros ⟨n, e⟩ count) h']
    simp only [withZeros, he, tenPow_add]
    ring
  · rw [ratio_of_nonneg (x := ⟨n, e⟩) h]
    rcases Int.lt_or_le (e - count) 0 with h' | h'
    · have hcount : count = e.toNat + (-(e - count)).toNat := by omega
      rw [ratio_of_neg (x := withZeros ⟨n, e⟩ count) h']
      simp only [withZeros, Nat.mul_one, Nat.mul_assoc]
      rw [← tenPow_add, ← hcount]
    · have he : e.toNat = count + (e - count).toNat := by omega
      rw [ratio_of_nonneg (x := withZeros ⟨n, e⟩ count) h']
      simp only [withZeros, he, tenPow_add]
      ring_nf

/-- The estimate of decimal digits by binary ones is hardly too large. -/
theorem tenPow_estimate_lt {n : Nat} (h : n < 30000) :
    tenPow (n * 30103 / 100000) < twoPow (n + 1) := by
  have hbase : 10 ^ 59 ≤ 2 ^ 196 := by decide
  refine lt_of_pow_lt_pow_left₀ 59 (Nat.zero_le _) ?_
  calc (10 ^ (n * 30103 / 100000)) ^ 59 = (10 ^ 59) ^ (n * 30103 / 100000) := by
        rw [← Nat.pow_mul, Nat.mul_comm, Nat.pow_mul]
    _ ≤ (2 ^ 196) ^ (n * 30103 / 100000) := Nat.pow_le_pow_left hbase _
    _ = 2 ^ (196 * (n * 30103 / 100000)) := (Nat.pow_mul ..).symm
    _ < 2 ^ ((n + 1) * 59) := Nat.pow_lt_pow_right (by decide) (by omega)
    _ = (2 ^ (n + 1)) ^ 59 := Nat.pow_mul ..

/-- Nor is it much too small. -/
theorem twoPow_lt_estimate {n : Nat} (h : n < 30000) :
    twoPow n < tenPow (n * 30103 / 100000 + 3) := by
  have hbase : 2 ^ 93 ≤ 10 ^ 28 := by decide
  refine lt_of_pow_lt_pow_left₀ 93 (Nat.zero_le _) ?_
  calc (2 ^ n) ^ 93 = (2 ^ 93) ^ n := by rw [← Nat.pow_mul, Nat.mul_comm, Nat.pow_mul]
    _ ≤ (10 ^ 28) ^ n := Nat.pow_le_pow_left hbase n
    _ = 10 ^ (28 * n) := (Nat.pow_mul ..).symm
    _ < 10 ^ ((n * 30103 / 100000 + 3) * 93) := Nat.pow_lt_pow_right (by decide) (by omega)
    _ = (10 ^ (n * 30103 / 100000 + 3)) ^ 93 := Nat.pow_mul ..

theorem nearest?_of_top_high {x : Decimal} (hlog : x.significand.log2 < 30000)
    (hne : x.significand ≠ 0)
    (h : 310 < x.exponent + (x.significand.log2 : Int) * 30103 / 100000) :
    Magnitude.nearest? x.ratio.1 x.ratio.2 = none := by
  let t := x.significand.log2 * 30103 / 100000
  have htop : 310 < x.exponent + (t : Int) := by omega
  -- The number is at least half of `10 ^ (t + exponent)`, which is beyond the range.
  have hrange : 2 * twoPow 1024 ≤ tenPow 311 := by
    rw [← twoPow_succ]
    exact Nat.le_of_lt (twoPow_lt_estimate (by decide))
  have hlow : tenPow t ≤ 2 * x.significand := by
    refine Nat.le_of_lt (Nat.lt_of_lt_of_le (tenPow_estimate_lt hlog) ?_)
    rw [Nat.add_comm, twoPow_add]
    exact Nat.mul_le_mul_left _ (twoPow_log2_le hne)
  refine Magnitude.nearest?_eq_none x.ratio_pos ?_
  refine Nat.le_of_mul_le_mul_left ?_ (Nat.two_pos)
  rcases Int.lt_or_le x.exponent 0 with he | he
  · rw [ratio_of_neg he]
    calc 2 * (tenPow (-x.exponent).toNat * twoPow 1024)
        = tenPow (-x.exponent).toNat * (2 * twoPow 1024) := Nat.mul_left_comm ..
      _ ≤ tenPow (-x.exponent).toNat * tenPow 311 := Nat.mul_le_mul_left _ hrange
      _ = tenPow ((-x.exponent).toNat + 311) := (tenPow_add _ _).symm
      _ ≤ tenPow t := tenPow_le (by omega)
      _ ≤ 2 * x.significand := hlow
  · rw [ratio_of_nonneg he]
    calc 2 * (1 * twoPow 1024) = 2 * twoPow 1024 := by rw [Nat.one_mul]
      _ ≤ tenPow 311 := hrange
      _ ≤ tenPow (t + x.exponent.toNat) := tenPow_le (by omega)
      _ = tenPow t * tenPow x.exponent.toNat := tenPow_add _ _
      _ ≤ 2 * x.significand * tenPow x.exponent.toNat := Nat.mul_le_mul_right _ hlow
      _ = 2 * (x.significand * tenPow x.exponent.toNat) := Nat.mul_assoc ..

theorem nearest?_of_top_low {x : Decimal} (hlog : x.significand.log2 < 30000)
    (h : x.exponent + (x.significand.log2 : Int) * 30103 / 100000 < -330) :
    Magnitude.nearest? x.ratio.1 x.ratio.2 = some .zero := by
  let t := x.significand.log2 * 30103 / 100000
  have htop : x.exponent + (t : Int) < -330 := by omega
  have hrange : twoPow (1074 + 1 + 1) ≤ tenPow 328 :=
    Nat.le_of_lt ((twoPow_lt_estimate (by decide)).trans_le (tenPow_le (by decide)))
  have hhigh : x.significand < 2 * tenPow (t + 3) := by
    refine Nat.lt_trans (lt_twoPow_log2 _) ?_
    rw [Nat.add_comm, twoPow_add]
    exact Nat.mul_lt_mul_of_pos_left (twoPow_lt_estimate hlog) Nat.two_pos
  have hunits : twoPow (1074 + 1 + 1) = 2 * (2 * Magnitude.unitsPerOne) := by
    rw [twoPow_succ, twoPow_succ, Magnitude.unitsPerOne]
  rw [ratio_of_neg (by omega)]
  refine Magnitude.nearest?_eq_zero ?_
  calc 2 * (x.significand * Magnitude.unitsPerOne)
      < 2 * (2 * tenPow (t + 3) * Magnitude.unitsPerOne) :=
        Nat.mul_lt_mul_of_pos_left (Nat.mul_lt_mul_of_pos_right hhigh (twoPow_pos _)) Nat.two_pos
    _ = twoPow (1074 + 1 + 1) * tenPow (t + 3) := by
        rw [hunits]
        ring
    _ ≤ tenPow 328 * tenPow (t + 3) := Nat.mul_le_mul_right _ hrange
    _ = tenPow (328 + (t + 3)) := (tenPow_add _ _).symm
    _ ≤ tenPow (-x.exponent).toNat := tenPow_le (by omega)

end Decimal

end Phrasebook
