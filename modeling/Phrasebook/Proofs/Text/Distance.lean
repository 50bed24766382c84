import Mathlib.Order.Bounds.Defs
import Phrasebook.Text.Distance

/-!
# Rows of distances hold least numbers of edits

Two texts are told apart by edits: a character is deleted, inserted or replaced, and all others are
kept. The rows from which a distance is read off hold, for all beginnings of the target, the least
number of edits that turn what was read of the source into them. So a distance is the least number
of edits between the two texts.
-/

namespace Phrasebook.Text

/-- The second text comes out of the first by `n` edits of single characters. -/
inductive Edits : Nat → List Char → List Char → Prop where
  | done : Edits 0 [] []
  | keep {n : Nat} {xs ys : List Char} (c : Char) : Edits n xs ys → Edits n (c :: xs) (c :: ys)
  | replace {n : Nat} {xs ys : List Char} (c d : Char) :
      Edits n xs ys → Edits (n + 1) (c :: xs) (d :: ys)
  | delete {n : Nat} {xs ys : List Char} (c : Char) : Edits n xs ys → Edits (n + 1) (c :: xs) ys
  | insert {n : Nat} {xs ys : List Char} (d : Char) : Edits n xs ys → Edits (n + 1) xs (d :: ys)

namespace Edits

variable {m n : Nat} {xs ys us vs : List Char}

theorem append (h : Edits m xs ys) (h' : Edits n us vs) : Edits (m + n) (xs ++ us) (ys ++ vs) := by
  induction h with
  | done => simpa using h'
  | keep c _ ih => exact ih.keep c
  | replace c d _ ih =>
      rw [Nat.add_right_comm]
      exact ih.replace c d
  | delete c _ ih =>
      rw [Nat.add_right_comm]
      exact ih.delete c
  | insert d _ ih =>
      rw [Nat.add_right_comm]
      exact ih.insert d

/-- Edits can be read from the other end. -/
theorem reverse (h : Edits n xs ys) : Edits n xs.reverse ys.reverse := by
  induction h with
  | done => exact done
  | keep c _ ih => simpa using ih.append (done.keep c)
  | replace c d _ ih => simpa using ih.append (done.replace c d)
  | delete c _ ih => simpa using ih.append (done.delete c)
  | insert d _ ih => simpa using ih.append (done.insert d)

end Edits

theorem edits_reverse_iff {n : Nat} {xs ys : List Char} :
    Edits n xs.reverse ys.reverse ↔ Edits n xs ys := by
  constructor
  · intro h
    simpa using h.reverse
  · exact Edits.reverse

/-- The least number of edits, by what becomes of the two characters in front. -/
def leastEdits : List Char → List Char → Nat
  | [], ys => ys.length
  | xs, [] => xs.length
  | c :: xs, d :: ys =>
    min (min (leastEdits xs (d :: ys) + 1) (leastEdits (c :: xs) ys + 1))
      (leastEdits xs ys + if c = d then 0 else 1)

theorem leastEdits_nil_right (xs : List Char) : leastEdits xs [] = xs.length := by
  cases xs <;> simp [leastEdits]

theorem edits_length_delete (xs : List Char) : Edits xs.length xs [] := by
  induction xs with
  | nil => exact .done
  | cons c xs ih => exact ih.delete c

theorem edits_length_insert (ys : List Char) : Edits ys.length [] ys := by
  induction ys with
  | nil => exact .done
  | cons d ys ih => exact ih.insert d

theorem edits_leastEdits (xs ys : List Char) : Edits (leastEdits xs ys) xs ys := by
  induction xs, ys using leastEdits.induct with
  | case1 ys =>
      rw [leastEdits]
      exact edits_length_insert ys
  | case2 xs _ =>
      rw [leastEdits_nil_right]
      exact edits_length_delete xs
  | case3 c xs d ys ihdelete ihinsert ihkeep =>
      -- The least of three numbers is one of them.
      have hcases : leastEdits (c :: xs) (d :: ys) = leastEdits xs (d :: ys) + 1 ∨
          leastEdits (c :: xs) (d :: ys) = leastEdits (c :: xs) ys + 1 ∨
          leastEdits (c :: xs) (d :: ys) = leastEdits xs ys + if c = d then 0 else 1 := by
        rw [leastEdits]
        omega
      rcases hcases with h | h | h
      · rw [h]
        exact ihdelete.delete c
      · rw [h]
        exact ihinsert.insert d
      · rw [h]
        by_cases hcd : c = d
        · subst hcd
          simpa using ihkeep.keep c
        · simpa [hcd] using ihkeep.replace c d

/-! Each edit makes a difference of one at most. -/

theorem leastEdits_keep_le (c : Char) (xs ys : List Char) :
    leastEdits (c :: xs) (c :: ys) ≤ leastEdits xs ys := by
  rw [leastEdits, if_pos rfl]
  omega

theorem leastEdits_replace_le (c d : Char) (xs ys : List Char) :
    leastEdits (c :: xs) (d :: ys) ≤ leastEdits xs ys + 1 := by
  rw [leastEdits]
  split <;> omega

theorem leastEdits_delete_le (c : Char) (xs ys : List Char) :
    leastEdits (c :: xs) ys ≤ leastEdits xs ys + 1 := by
  cases ys with
  | nil => simp [leastEdits_nil_right]
  | cons d ys =>
      rw [leastEdits]
      omega

theorem leastEdits_insert_le (d : Char) (xs ys : List Char) :
    leastEdits xs (d :: ys) ≤ leastEdits xs ys + 1 := by
  cases xs with
  | nil => simp [leastEdits]
  | cons c xs =>
      rw [leastEdits]
      omega

theorem leastEdits_le {n : Nat} {xs ys : List Char} (h : Edits n xs ys) : leastEdits xs ys ≤ n := by
  induction h with
  | done => simp [leastEdits]
  | keep c _ ih => exact Nat.le_trans (leastEdits_keep_le c _ _) ih
  | replace c d _ ih =>
      exact Nat.le_trans (leastEdits_replace_le c d _ _) (Nat.add_le_add_right ih 1)
  | delete c _ ih => exact Nat.le_trans (leastEdits_delete_le c _ _) (Nat.add_le_add_right ih 1)
  | insert d _ ih => exact Nat.le_trans (leastEdits_insert_le d _ _) (Nat.add_le_add_right ih 1)

theorem leastEdits_reverse (xs ys : List Char) :
    leastEdits xs.reverse ys.reverse = leastEdits xs ys := by
  apply Nat.le_antisymm
  · exact leastEdits_le (edits_leastEdits xs ys).reverse
  · exact leastEdits_le (edits_reverse_iff.1 (edits_leastEdits xs.reverse ys.reverse))

/-- The least numbers of edits from `xs` to `before` with one, two, and in the end all of the
characters of `ds` in front. -/
def rowFrom (xs before : List Char) : List Char → List Nat
  | [] => []
  | d :: ds => leastEdits xs (d :: before) :: rowFrom xs (d :: before) ds

theorem nextRow_rowFrom (c : Char) (xs before ds : List Char) :
    nextRow c (leastEdits xs before) (leastEdits (c :: xs) before) ds (rowFrom xs before ds) =
      rowFrom (c :: xs) before ds := by
  induction ds generalizing before with
  | nil => rfl
  | cons d ds ih =>
      have hhere : min (min (leastEdits xs (d :: before) + 1) (leastEdits (c :: xs) before + 1))
          (leastEdits xs before + if c = d then 0 else 1) = leastEdits (c :: xs) (d :: before) := by
        rw [leastEdits]
      simp only [rowFrom, nextRow, hhere, ih]

/-- What was read of the source stands reversed in front, for rows grow at their end. -/
theorem distanceRows_eq (target cs xs : List Char) :
    distanceRows target cs (leastEdits xs [] :: rowFrom xs [] target) =
      leastEdits (cs.reverse ++ xs) [] :: rowFrom (cs.reverse ++ xs) [] target := by
  induction cs generalizing xs with
  | nil => rfl
  | cons c cs ih =>
      have hfirst : leastEdits xs [] + 1 = leastEdits (c :: xs) [] := by
        simp [leastEdits_nil_right]
      rw [distanceRows, hfirst, nextRow_rowFrom, ih]
      simp

/-- Nothing read, all that is in a beginning of the target has to be inserted. -/
theorem rowFrom_nil (before ds : List Char) :
    rowFrom [] before ds = List.range' (before.length + 1) ds.length := by
  induction ds generalizing before with
  | nil => rfl
  | cons d ds ih => simp [rowFrom, leastEdits, ih, List.range'_succ]

theorem getLastD_rowFrom (xs before ds : List Char) (n : Nat) :
    (leastEdits xs before :: rowFrom xs before ds).getLastD n =
      leastEdits xs (ds.reverse ++ before) := by
  induction ds generalizing before n with
  | nil => rfl
  | cons d ds ih =>
      rw [List.getLastD_cons, rowFrom, ih]
      simp

theorem distance_eq (source target : String) :
    distance source target = leastEdits source.toList target.toList := by
  have hstart : List.range (target.toList.length + 1) =
      leastEdits [] [] :: rowFrom [] [] target.toList := by
    rw [rowFrom_nil, List.range_eq_range', List.range'_succ]
    simp [leastEdits]
  have hlast := getLastD_rowFrom source.toList.reverse [] target.toList 0
  unfold distance
  dsimp only
  rw [hstart, distanceRows_eq, List.append_nil, hlast, List.append_nil, leastEdits_reverse]

/-- The distance of two texts is the least number of edits that turn one into the other. -/
theorem distance_isLeast (source target : String) :
    IsLeast { n | Edits n source.toList target.toList } (distance source target) := by
  rw [distance_eq]
  constructor
  · exact edits_leastEdits source.toList target.toList
  · intro n h
    exact leastEdits_le h

example : distance "message" "mesages" = 2 := by decide

end Phrasebook.Text
