import Mathlib.Tactic.Ring
import Phrasebook.Numeric.Decimal

/-!
# What digits write

The digits of a number have that number as their value, and they begin with a zero only where the
number is zero.
-/

namespace Phrasebook

namespace Digit

theorem foldl_value (ds : List Digit) (n : Nat) :
    ds.foldl (fun n d => 10 * n + d.val) n = n * 10 ^ ds.length + value ds := by
  unfold value
  induction ds generalizing n with
  | nil => simp
  | cons d ds ih =>
      simp only [List.foldl_cons, List.length_cons]
      rw [ih, ih (10 * 0 + d.val), Nat.pow_succ]
      ring

@[simp] theorem value_nil : value [] = 0 := rfl

theorem value_append (ds es : List Digit) :
    value (ds ++ es) = value ds * 10 ^ es.length + value es := by
  unfold value
  rw [List.foldl_append]
  exact foldl_value es _

theorem value_cons (d : Digit) (ds : List Digit) :
    value (d :: ds) = d.val * 10 ^ ds.length + value ds := by
  rw [show d :: ds = [d] ++ ds from rfl, value_append]
  simp [value]

theorem value_replicate_zero (count : Nat) : value (List.replicate count zero) = 0 := by
  induction count with
  | zero => rfl
  | succ count ih =>
      rw [List.replicate_succ, value_cons, ih]
      simp [zero]

theorem value_prepend {fuel n : Nat} (h : n < 10 ^ fuel) (tail : List Digit) :
    value (prepend fuel n tail) = n * 10 ^ tail.length + value tail := by
  induction fuel generalizing n tail with
  | zero =>
      obtain rfl : n = 0 := by simpa using h
      simp [prepend]
  | succ fuel ih =>
      have hdigit : value (Fin.ofNat 10 n :: tail) = n % 10 * 10 ^ tail.length + value tail :=
        value_cons _ _
      unfold prepend
      split
      · next hn => rw [hdigit, Nat.mod_eq_of_lt hn]
      · have hn : n / 10 < 10 ^ fuel := by
          rw [Nat.div_lt_iff_lt_mul (by decide)]
          simpa [Nat.pow_succ] using h
        rw [ih hn, hdigit, List.length_cons, Nat.pow_succ, ← Nat.add_assoc]
        congr 1
        rw [Nat.mul_comm _ 10, ← Nat.mul_assoc, ← Nat.add_mul]
        congr 1
        omega

theorem lt_tenPow_log2 (n : Nat) : n < 10 ^ (n.log2 + 1) :=
  Nat.lt_of_lt_of_le Nat.lt_log2_self (Nat.pow_le_pow_left (by decide) _)

@[simp] theorem value_ofNat (n : Nat) : value (ofNat n) = n := by
  unfold ofNat
  rw [value_prepend (lt_tenPow_log2 n)]
  simp

theorem head_prepend {fuel n : Nat} (h : n < 10 ^ fuel) (hn : n ≠ 0) (tail : List Digit) :
    ∃ first more, prepend fuel n tail = first :: more ∧ first ≠ zero := by
  induction fuel generalizing n tail with
  | zero => exact absurd (by simpa using h) hn
  | succ fuel ih =>
      unfold prepend
      split
      · next hlt =>
        refine ⟨_, _, rfl, fun hzero => hn ?_⟩
        have hval : n % 10 = 0 := congrArg Fin.val hzero
        omega
      · next hge =>
        refine ih ?_ (by omega) _
        rw [Nat.div_lt_iff_lt_mul (by decide)]
        simpa [Nat.pow_succ] using h

/-- Digits as they stand before a point or at the end: at least one, and a zero at the front only
alone. -/
def Whole (ds : List Digit) : Prop :=
  ∃ first more, ds = first :: more ∧ (first = zero → more = [])

theorem Whole.ne_nil {ds : List Digit} (h : Whole ds) : ds ≠ [] := by
  obtain ⟨first, more, rfl, -⟩ := h
  exact List.cons_ne_nil _ _

theorem whole_ofNat (n : Nat) : Whole (ofNat n) := by
  by_cases hn : n = 0
  · subst hn
    exact ⟨zero, [], rfl, fun _ => rfl⟩
  · obtain ⟨first, more, hds, hfirst⟩ := head_prepend (lt_tenPow_log2 n) hn []
    exact ⟨first, more, hds, fun h => absurd h hfirst⟩

theorem Whole.take {ds : List Digit} (h : Whole ds) {count : Nat} (hcount : 0 < count) :
    Whole (ds.take count) := by
  obtain ⟨first, more, rfl, hzero⟩ := h
  obtain ⟨count, rfl⟩ := Nat.exists_eq_add_of_lt hcount
  refine ⟨first, more.take count, by simp, fun hfirst => ?_⟩
  rw [hzero hfirst]
  exact List.take_nil

theorem length_prepend_le (fuel n : Nat) (tail : List Digit) :
    (prepend fuel n tail).length ≤ fuel + tail.length := by
  induction fuel generalizing n tail with
  | zero => simp [prepend]
  | succ fuel ih =>
      unfold prepend
      split
      · simp only [List.length_cons]
        omega
      · refine Nat.le_trans (ih _ _) ?_
        simp only [List.length_cons]
        omega

theorem length_ofNat_le (n : Nat) : (ofNat n).length ≤ n.log2 + 1 := length_prepend_le _ n []

theorem value_lt (ds : List Digit) : value ds < 10 ^ ds.length := by
  induction ds with
  | nil => simp
  | cons d ds ih =>
      have hd : d.val * 10 ^ ds.length ≤ 9 * 10 ^ ds.length :=
        Nat.mul_le_mul_right _ (Nat.le_of_lt_succ d.isLt)
      rw [value_cons, List.length_cons, Nat.pow_succ]
      omega

theorem lt_tenPow_length (n : Nat) : n < 10 ^ (ofNat n).length := by
  simpa using value_lt (ofNat n)

/-- A number below a power of ten has no more digits than that. -/
theorem length_ofNat_le_of_lt {n k : Nat} (hk : 0 < k) (h : n < 10 ^ k) :
    (ofNat n).length ≤ k := by
  by_cases hn : n = 0
  · subst hn
    exact hk
  · obtain ⟨first, more, hds, hfirst⟩ := head_prepend (lt_tenPow_log2 n) hn []
    have hpos : 0 < first.val := Nat.pos_of_ne_zero fun hzero => hfirst (Fin.ext hzero)
    have hvalue : first.val * 10 ^ more.length + value more = n := by
      rw [← value_cons, ← hds]
      exact value_ofNat n
    have hle : 10 ^ more.length ≤ first.val * 10 ^ more.length := Nat.le_mul_of_pos_left _ hpos
    have hpow : 10 ^ more.length < 10 ^ k := by omega
    have hlength : more.length < k := (Nat.pow_lt_pow_iff_right (by decide)).1 hpow
    have hofNat : ofNat n = first :: more := hds
    rw [hofNat, List.length_cons]
    exact hlength

theorem value_eq_zero_iff {ds : List Digit} : value ds = 0 ↔ ∀ d ∈ ds, d = zero := by
  constructor
  · intro h
    induction ds with
    | nil => simp
    | cons d ds ih =>
        rw [value_cons, Nat.add_eq_zero_iff] at h
        obtain ⟨hfirst, hrest⟩ := h
        have hd : d.val = 0 := by simpa using hfirst
        rw [List.forall_mem_cons]
        exact ⟨Fin.ext hd, ih hrest⟩
  · intro h
    rw [List.eq_replicate_of_mem h]
    exact value_replicate_zero _

theorem tenPow_dvd_value_append_iff {ds es : List Digit} :
    tenPow es.length ∣ value (ds ++ es) ↔ ∀ d ∈ es, d = zero := by
  rw [value_append, ← value_eq_zero_iff]
  change tenPow es.length ∣ value ds * tenPow es.length + value es ↔ _
  rw [Nat.dvd_add_right (Nat.dvd_mul_left ..)]
  constructor
  · intro hdvd
    exact Nat.eq_zero_of_dvd_of_lt hdvd (value_lt es)
  · intro hzero
    rw [hzero]
    exact Nat.dvd_zero _

@[simp] theorem ofChar?_toChar (d : Digit) : ofChar? d.toChar = some d := by
  revert d
  decide

theorem isDigit_toChar (d : Digit) : d.toChar.isDigit = true := by
  revert d
  decide

end Digit

namespace Numeral

open Digit

/-- `n / 10 ^ places` has the digits of `n`, `places` of them behind the point. -/
theorem ofScaled_spec (negative : Bool) (n places : Nat) :
    let x := ofScaled negative n places
    value (x.integer ++ x.fraction) = n ∧ x.fraction.length = places ∧ Whole x.integer := by
  let zeros := List.replicate (places + 1 - (ofNat n).length) zero
  let ds := zeros ++ ofNat n
  have hlength : places + 1 ≤ ds.length := by
    simp only [ds, zeros, List.length_append, List.length_replicate]
    omega
  change value (ds.take (ds.length - places) ++ ds.drop (ds.length - places)) = n ∧
    (ds.drop (ds.length - places)).length = places ∧ Whole (ds.take (ds.length - places))
  rw [List.take_append_drop, List.length_drop]
  refine ⟨?_, by omega, ?_⟩
  · rw [value_append, value_replicate_zero, value_ofNat, Nat.zero_mul, Nat.zero_add]
  · -- Either zeros were put in front, and then one of them stands before the point, or none were.
    by_cases hpadded : (ofNat n).length ≤ places
    · have hzeros : 0 < places + 1 - (ofNat n).length := by omega
      refine ⟨zero, [], ?_, fun _ => rfl⟩
      have hone : ds.length - places = 1 := by
        simp only [ds, zeros, List.length_append, List.length_replicate]
        omega
      rw [hone]
      obtain ⟨count, hcount⟩ := Nat.exists_eq_add_of_lt hzeros
      simp [ds, zeros, hcount, List.replicate_succ]
    · have hnone : ds = ofNat n := by
        have hcount : places + 1 - (ofNat n).length = 0 := by omega
        simp [ds, zeros, hcount]
      rw [hnone] at hlength ⊢
      exact (whole_ofNat n).take (by omega)

end Numeral

end Phrasebook
