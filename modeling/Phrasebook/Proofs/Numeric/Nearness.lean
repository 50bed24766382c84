import Phrasebook.Proofs.Numeric.Order

/-!
# How near rounding stays

Rounding moves a quotient by half a step at most, so what lies nearer to a whole number than half a
step is rounded to it. A decimal that is read as a value on a fine enough grid is therefore printed
again with the digits that it was written with.
-/

namespace Phrasebook

section Half

variable {n d k : Nat}

theorem roundHalfEven_near (n : Nat) (hd : 0 < d) :
    2 * (roundHalfEven n d * d) ≤ 2 * n + d ∧ 2 * n ≤ 2 * (roundHalfEven n d * d) + d := by
  have hsplit := Nat.div_add_mod n d
  have hrest := Nat.mod_lt n hd
  have hbelow : 2 * (n / d * d) + 2 * (n % d) = 2 * n := by
    rw [Nat.mul_comm (n / d) d]
    omega
  have habove : (n / d + 1) * d = n / d * d + d := Nat.succ_mul ..
  unfold roundHalfEven
  dsimp only
  split_ifs
  · omega
  · rw [habove]
    omega
  · omega
  · rw [habove]
    omega

theorem roundHalfEven_eq_of_near (hd : 0 < d) (hbelow : 2 * (k * d) < 2 * n + d)
    (habove : 2 * n < 2 * (k * d) + d) : roundHalfEven n d = k := by
  obtain ⟨hle, hge⟩ := roundHalfEven_near n hd
  rcases Nat.lt_trichotomy (roundHalfEven n d) k with hlt | heq | hgt
  · have hstep : roundHalfEven n d * d + d ≤ k * d := by
      rw [← Nat.succ_mul]
      exact Nat.mul_le_mul_right d hlt
    omega
  · exact heq
  · have hstep : k * d + d ≤ roundHalfEven n d * d := by
      rw [← Nat.succ_mul]
      exact Nat.mul_le_mul_right d hgt
    omega

end Half

namespace Magnitude

variable {num den k : Nat} {x : Magnitude}

/-- On the grid of a magnitude below `2 ^ (53 + k)` units a step has at most `2 ^ k` of them. -/
theorem nearestShift_le (hden : 0 < den) (h : nearest? num den = some x)
    (hx : x.units < twoPow (53 + k)) : nearestShift num den ≤ k := by
  by_contra hlarge
  have hne : nearestShift num den ≠ 0 := by omega
  refine absurd hx (Nat.not_lt.2 ?_)
  rw [units_of_nearest? hden h]
  calc twoPow (53 + k) ≤ twoPow (52 + nearestShift num den) := twoPow_le (by omega)
    _ = twoPow 52 * twoPow (nearestShift num den) := twoPow_add _ _
    _ ≤ nearestUnits num den := Nat.mul_le_mul_right _ (le_nearestMantissa hne)

/-- The nearest magnitude is at most half a step away. -/
theorem units_near (hden : 0 < den) (h : nearest? num den = some x)
    (hx : x.units < twoPow (53 + k)) :
    2 * (x.units * den) ≤ 2 * (num * unitsPerOne) + den * twoPow k ∧
      2 * (num * unitsPerOne) ≤ 2 * (x.units * den) + den * twoPow k := by
  have hstep : den * twoPow (nearestShift num den) ≤ den * twoPow k :=
    Nat.mul_le_mul_left den (twoPow_le (nearestShift_le hden h hx))
  have hunits :
      x.units * den = nearestMantissa num den * (den * twoPow (nearestShift num den)) := by
    rw [units_of_nearest? hden h, nearestUnits]
    ring
  obtain ⟨hle, hge⟩ := roundHalfEven_near (num * unitsPerOne)
    (Nat.mul_pos hden (twoPow_pos (nearestShift num den)))
  rw [hunits]
  exact ⟨Nat.le_trans hle (Nat.add_le_add_left hstep _),
    Nat.le_trans hge (Nat.add_le_add_left hstep _)⟩

/-- A decimal with `places` fraction digits is printed as it was written, with zeros behind it, as
long as a step of the grid is shorter than the last place. -/
theorem round_fixed_of_nearest {significand places high : Nat} (hplaces : places ≤ high)
    (hgrid : tenPow high * twoPow k < unitsPerOne)
    (h : nearest? significand (tenPow places) = some x) (hx : x.units < twoPow (53 + k)) :
    roundHalfEven (x.units * tenPow high) unitsPerOne = significand * tenPow (high - places) := by
  obtain ⟨hle, hge⟩ := units_near (tenPow_pos places) h hx
  have hscale : tenPow high = tenPow places * tenPow (high - places) := by
    rw [← tenPow_add, Nat.add_sub_cancel' hplaces]
  have hunits : 2 * (x.units * tenPow high) =
      2 * (x.units * tenPow places) * tenPow (high - places) := by
    rw [hscale]
    ring
  have hwritten : 2 * (significand * tenPow (high - places) * unitsPerOne) =
      2 * (significand * unitsPerOne) * tenPow (high - places) := by ring
  have hstep : tenPow places * twoPow k * tenPow (high - places) = tenPow high * twoPow k := by
    rw [hscale]
    ring
  have hle' := Nat.mul_le_mul_right (tenPow (high - places)) hle
  have hge' := Nat.mul_le_mul_right (tenPow (high - places)) hge
  rw [Nat.add_mul, hstep] at hle' hge'
  apply roundHalfEven_eq_of_near unitsPerOne_pos
  · omega
  · omega

end Magnitude

end Phrasebook
