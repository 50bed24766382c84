import Phrasebook.Proofs.Numeric.Significant

/-!
# Rounding keeps the order

Of two quotients the larger one has no smaller nearest magnitude. So what lies between two numbers
that are read as one value is read as that value too.
-/

namespace Phrasebook

theorem roundHalfEven_mono {n n' d : Nat} (hd : 0 < d) (h : n ≤ n') :
    roundHalfEven n d ≤ roundHalfEven n' d := by
  have hn := Nat.div_add_mod n d
  have hn' := Nat.div_add_mod n' d
  rcases Nat.lt_or_eq_of_le (Nat.div_le_div_right (c := d) h) with hlt | heq
  · have hnext : n ≤ (n / d + 1) * d := Nat.le_of_lt (Nat.lt_mul_of_div_lt (Nat.lt_succ_self _) hd)
    calc roundHalfEven n d ≤ n / d + 1 := roundHalfEven_le hd hnext
      _ ≤ n' / d := hlt
      _ ≤ roundHalfEven n' d := div_le_roundHalfEven n' d
  · have hmod : n % d ≤ n' % d := by
      rw [heq] at hn
      omega
    unfold roundHalfEven
    dsimp only
    rw [heq]
    split_ifs <;> omega

/-- A smaller quotient is not rounded to a larger number. -/
theorem roundHalfEven_le_of_mul_le {n d n' d' : Nat} (hd : 0 < d) (hd' : 0 < d')
    (h : n * d' ≤ n' * d) : roundHalfEven n d ≤ roundHalfEven n' d' := by
  rw [← roundHalfEven_mul hd' n d, ← roundHalfEven_mul hd n' d', Nat.mul_comm d d']
  refine roundHalfEven_mono (Nat.mul_pos hd' hd) ?_
  rwa [Nat.mul_comm d' n, Nat.mul_comm d n']

namespace Magnitude

theorem units_injective {x y : Magnitude} (h : x.units = y.units) : x = y := by
  have hx := x.nearest?_units
  rw [h, y.nearest?_units] at hx
  exact (Option.some.inj hx).symm

theorem shiftFor_mono {q q' : Nat} (h : q ≤ q') : shiftFor q ≤ shiftFor q' := by
  have hlog : q.log2 ≤ q'.log2 := by
    by_cases hq : q = 0
    · simp [hq]
    · exact le_log2_of_twoPow_le (Nat.le_trans (twoPow_log2_le hq) h)
  unfold shiftFor
  omega

section Nearest

variable {num den num' den' : Nat}

/-- How many units a step at the quotient has, as an exponent of two. -/
def nearestShift (num den : Nat) : Nat := shiftFor (num * unitsPerOne / den)

def nearestMantissa (num den : Nat) : Nat :=
  roundHalfEven (num * unitsPerOne) (den * twoPow (nearestShift num den))

/-- The units that the quotient is rounded to, also beyond the range. -/
def nearestUnits (num den : Nat) : Nat :=
  nearestMantissa num den * twoPow (nearestShift num den)

theorem nearestMantissa_le (hden : 0 < den) : nearestMantissa num den ≤ twoPow 53 := by
  refine roundHalfEven_le (Nat.mul_pos hden (twoPow_pos _)) (Nat.le_of_lt ?_)
  have hshift : (num * unitsPerOne / den).log2 + 1 ≤ 53 + nearestShift num den := by
    unfold nearestShift shiftFor
    omega
  have hquotient : num * unitsPerOne / den < twoPow (53 + nearestShift num den) :=
    Nat.lt_of_lt_of_le (lt_twoPow_log2 _) (twoPow_le hshift)
  calc num * unitsPerOne < twoPow (53 + nearestShift num den) * den :=
        (Nat.div_lt_iff_lt_mul hden).1 hquotient
    _ = twoPow 53 * (den * twoPow (nearestShift num den)) := by
        rw [twoPow_add]
        ring

theorem le_nearestMantissa (h : nearestShift num den ≠ 0) :
    twoPow 52 ≤ nearestMantissa num den := by
  refine Nat.le_trans (le_div_twoPow_shiftFor h) ?_
  rw [Nat.div_div_eq_div_mul]
  exact div_le_roundHalfEven _ _

/-- A smaller quotient is not rounded to more units. -/
theorem nearestUnits_mono (hden : 0 < den) (hden' : 0 < den') (h : num * den' ≤ num' * den) :
    nearestUnits num den ≤ nearestUnits num' den' := by
  have hunits : num * unitsPerOne * den' ≤ num' * unitsPerOne * den := by
    rw [Nat.mul_right_comm, Nat.mul_right_comm num']
    exact Nat.mul_le_mul_right _ h
  have hquotient : num * unitsPerOne / den ≤ num' * unitsPerOne / den' := by
    rw [Nat.le_div_iff_mul_le hden']
    refine Nat.le_of_mul_le_mul_right ?_ hden
    calc num * unitsPerOne / den * den' * den = num * unitsPerOne / den * den * den' :=
          Nat.mul_right_comm ..
      _ ≤ num * unitsPerOne * den' := Nat.mul_le_mul_right _ (Nat.div_mul_le_self _ _)
      _ ≤ num' * unitsPerOne * den := hunits
  have hshift : nearestShift num den ≤ nearestShift num' den' := shiftFor_mono hquotient
  rcases Nat.lt_or_eq_of_le hshift with hlt | heq
  · -- The larger quotient is rounded on a wider grid, whose mantissas have all their bits.
    have hne : nearestShift num' den' ≠ 0 := Nat.ne_of_gt (Nat.zero_lt_of_lt hlt)
    have hpowers : twoPow 53 * twoPow (nearestShift num den) ≤
        twoPow 52 * twoPow (nearestShift num' den') := by
      rw [← twoPow_add, ← twoPow_add]
      exact twoPow_le (by omega)
    calc nearestUnits num den ≤ twoPow 53 * twoPow (nearestShift num den) :=
          Nat.mul_le_mul_right _ (nearestMantissa_le hden)
      _ ≤ twoPow 52 * twoPow (nearestShift num' den') := hpowers
      _ ≤ nearestUnits num' den' := Nat.mul_le_mul_right _ (le_nearestMantissa hne)
  · have hmantissa : nearestMantissa num den ≤ nearestMantissa num' den' := by
      unfold nearestMantissa
      rw [heq]
      refine roundHalfEven_le_of_mul_le (Nat.mul_pos hden (twoPow_pos _))
        (Nat.mul_pos hden' (twoPow_pos _)) ?_
      rw [← Nat.mul_assoc, ← Nat.mul_assoc]
      exact Nat.mul_le_mul_right _ hunits
    unfold nearestUnits
    rw [heq]
    exact Nat.mul_le_mul_right _ hmantissa

theorem units_lt (x : Magnitude) : x.units < twoPow (53 + 2045) := by
  rw [units, twoPow_add]
  calc x.mantissa * twoPow x.shift ≤ x.mantissa * twoPow 2045 :=
        Nat.mul_le_mul_left _ (twoPow_le (Nat.le_of_lt_succ x.shift_lt))
    _ < twoPow 53 * twoPow 2045 := Nat.mul_lt_mul_of_pos_right x.mantissa_lt (twoPow_pos _)

theorem units_of_nearest? {x : Magnitude} (hden : 0 < den) (h : nearest? num den = some x) :
    x.units = nearestUnits num den := by
  unfold nearest? at h
  dsimp only at h
  split at h
  · split at h
    · cases h
      rfl
    · next hcarry =>
      split at h
      · cases h
        have hmantissa : nearestMantissa num den = twoPow 53 :=
          Nat.le_antisymm (nearestMantissa_le hden) (Nat.not_lt.1 hcarry)
        rw [nearestUnits, hmantissa]
        change twoPow 52 * twoPow (nearestShift num den + 1) = _
        rw [← twoPow_add, ← twoPow_add]
        congr 1
        omega
      · cases h
  · cases h

theorem exists_nearest?_of_units_lt (h : nearestUnits num den < twoPow (53 + 2045)) :
    ∃ x, nearest? num den = some x := by
  have hshift : nearestShift num den < 2046 := by
    by_contra hlarge
    have hne : nearestShift num den ≠ 0 := by omega
    refine absurd h (Nat.not_lt.2 ?_)
    calc twoPow (53 + 2045) ≤ twoPow (52 + nearestShift num den) := twoPow_le (by omega)
      _ = twoPow 52 * twoPow (nearestShift num den) := twoPow_add _ _
      _ ≤ nearestUnits num den := Nat.mul_le_mul_right _ (le_nearestMantissa hne)
  unfold nearest?
  dsimp only
  split
  swap
  · next hbeyond => exact absurd hshift hbeyond
  split
  · exact ⟨_, rfl⟩
  · next hcarry =>
    have hnext : nearestShift num den + 1 < 2046 := by
      by_contra hlarge
      refine absurd h (Nat.not_lt.2 ?_)
      calc twoPow (53 + 2045) ≤ twoPow (53 + nearestShift num den) := twoPow_le (by omega)
        _ = twoPow 53 * twoPow (nearestShift num den) := twoPow_add _ _
        _ ≤ nearestUnits num den := Nat.mul_le_mul_right _ (Nat.not_lt.1 hcarry)
    exact ⟨_, dif_pos hnext⟩

/-- The nearest magnitude is the one with the units that the quotient is rounded to. -/
theorem nearest?_eq_some_iff {x : Magnitude} (hden : 0 < den) :
    nearest? num den = some x ↔ x.units = nearestUnits num den := by
  refine ⟨units_of_nearest? hden, fun hunits => ?_⟩
  obtain ⟨y, hy⟩ := exists_nearest?_of_units_lt (hunits ▸ x.units_lt)
  rw [hy, units_injective (hunits.trans (units_of_nearest? hden hy).symm)]

/-- What lies between two quotients with one nearest magnitude has it too. -/
theorem nearest?_between {num'' den'' : Nat} {x : Magnitude} (hden : 0 < den) (hden' : 0 < den')
    (hden'' : 0 < den'') (hle : num * den' ≤ num' * den) (hle' : num' * den'' ≤ num'' * den')
    (h : nearest? num den = some x) (h'' : nearest? num'' den'' = some x) :
    nearest? num' den' = some x := by
  rw [nearest?_eq_some_iff hden] at h
  rw [nearest?_eq_some_iff hden''] at h''
  rw [nearest?_eq_some_iff hden']
  refine Nat.le_antisymm ?_ ?_
  · rw [h]
    exact nearestUnits_mono hden hden' hle
  · rw [h'']
    exact nearestUnits_mono hden' hden'' hle'

end Nearest

end Magnitude

end Phrasebook
