import Phrasebook.Resolver

/-!
# Balanced marks

The marks that set a text off are balanced in it if none is closed before it was opened and none
stays open. Texts without marks are balanced, texts that are put together from balanced ones are,
and so is a balanced text that is set off.
-/

namespace Phrasebook

def NoMark (c : Char) : Prop := c ≠ isolateStart ∧ c ≠ isolateEnd

def MarkFree (text : String) : Prop := ∀ c ∈ text.toList, NoMark c

instance (c : Char) : Decidable (NoMark c) :=
  inferInstanceAs (Decidable (c ≠ isolateStart ∧ c ≠ isolateEnd))

instance (text : String) : Decidable (MarkFree text) :=
  List.decidableBAll NoMark text.toList

/-- The marks are behind all digits of the scripts that numbers are written in. -/
theorem noMark_ofNat {n : Nat} (h : n < isolateStart.toNat) : NoMark (Char.ofNat n) := by
  have hbound : isolateStart.toNat = 0x2068 := rfl
  have hend : isolateEnd.toNat = 0x2069 := rfl
  have hvalid : n.isValidChar := .inl (by omega)
  have hcode : (Char.ofNat n).toNat = n := by
    rw [Char.ofNat, dif_pos hvalid]
    rfl
  constructor
  · intro heq
    rw [heq] at hcode
    omega
  · intro heq
    rw [heq] at hcode
    omega

section MarkFree

variable {a b : String} {cs : List Char} {texts : List String}

@[simp] theorem markFree_empty : MarkFree "" := by simp [MarkFree]

@[simp] theorem markFree_append : MarkFree (a ++ b) ↔ MarkFree a ∧ MarkFree b := by
  simp only [MarkFree, String.toList_append, List.mem_append, or_imp, forall_and]

@[simp] theorem markFree_ofList : MarkFree (String.ofList cs) ↔ ∀ c ∈ cs, NoMark c := by
  simp only [MarkFree, String.toList_ofList]

theorem markFree_ite {p : Prop} [Decidable p] (ha : MarkFree a) (hb : MarkFree b) :
    MarkFree (if p then a else b) := by
  split
  · exact ha
  · exact hb

theorem markFree_join (h : ∀ s ∈ texts, MarkFree s) : MarkFree (String.join texts) := by
  induction texts with
  | nil => exact markFree_empty
  | cons s rest ih =>
      obtain ⟨hs, hrest⟩ := List.forall_mem_cons.1 h
      rw [String.join_cons]
      exact markFree_append.2 ⟨hs, ih hrest⟩

theorem noMark_digits (ds : List Digit) : ∀ c ∈ ds.map Digit.toChar, NoMark c := by
  have hbound : isolateStart.toNat = 0x2068 := rfl
  intro c hc
  obtain ⟨d, -, rfl⟩ := List.mem_map.1 hc
  apply noMark_ofNat
  omega

theorem markFree_digitsText (n : Nat) : MarkFree (digitsText n) :=
  markFree_ofList.2 (noMark_digits _)

end MarkFree

/-- In front of every place at least as many marks open as close, and in the whole text as many. -/
structure Balanced (text : String) : Prop where
  opened : ∀ n, (text.toList.take n).count isolateEnd ≤ (text.toList.take n).count isolateStart
  closed : text.toList.count isolateStart = text.toList.count isolateEnd

section Balanced

variable {a b text : String} {texts : List String}

theorem MarkFree.balanced (h : MarkFree text) : Balanced text := by
  have hstart : isolateStart ∉ text.toList := fun hmem => (h _ hmem).1 rfl
  have hend : isolateEnd ∉ text.toList := fun hmem => (h _ hmem).2 rfl
  constructor
  · intro n
    rw [List.count_eq_zero_of_not_mem fun hmem => hend (List.mem_of_mem_take hmem)]
    exact Nat.zero_le _
  · rw [List.count_eq_zero_of_not_mem hstart, List.count_eq_zero_of_not_mem hend]

theorem Balanced.append (ha : Balanced a) (hb : Balanced b) : Balanced (a ++ b) := by
  constructor
  · intro n
    rw [String.toList_append, List.take_append, List.count_append, List.count_append]
    exact Nat.add_le_add (ha.opened n) (hb.opened _)
  · rw [String.toList_append, List.count_append, List.count_append, ha.closed, hb.closed]

theorem balanced_isolated (h : Balanced text) : Balanced (isolated text) := by
  have hchars : (isolated text).toList = isolateStart :: (text.toList ++ [isolateEnd]) := by
    simp [isolated]
  have hne : isolateEnd ≠ isolateStart := by decide
  constructor
  · intro n
    rw [hchars]
    cases n with
    | zero => simp
    | succ n =>
        -- The mark in front makes up for the one that may stand at the end.
        have hopened := h.opened n
        have hlast : ([isolateEnd].take (n - text.toList.length)).count isolateEnd ≤ 1 :=
          (List.take_sublist _ _).count_le isolateEnd
        rw [List.take_succ_cons, List.take_append, List.count_cons_self,
          List.count_cons_of_ne hne.symm, List.count_append, List.count_append]
        omega
  · rw [hchars]
    simp [h.closed, hne, hne.symm]

end Balanced

end Phrasebook
