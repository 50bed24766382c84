import Mathlib.Data.List.Permutation
import Phrasebook.Proofs.Text.Distance
import Phrasebook.Suggestion

/-!
# Suggestions are the closest names

The candidates for a name are sorted, so equal ones stand next to each other and leaving out one of
two neighbours leaves each candidate once. What is kept in front are the closest names, and since a
strictly ascending list is determined by its members, neither the order of the available names nor
how often one is there makes a difference.
-/

namespace Phrasebook

section Neighbours

variable {α : Type} [DecidableEq α] {a : α} {l : List α}

theorem mem_dedupAdjacent : a ∈ dedupAdjacent l ↔ a ∈ l := by
  induction l using dedupAdjacent.induct with
  | case1 => rfl
  | case2 b => rfl
  | case3 b rest ih =>
      rw [dedupAdjacent, if_pos rfl, ih]
      simp
  | case4 b c rest h ih =>
      simp only [dedupAdjacent, if_neg h, List.mem_cons, ih]

/-- In an ascending list, all that is left behind a member is different from it. -/
theorem pairwise_dedupAdjacent {r : α → α → Prop} (hanti : ∀ a b, r a b → r b a → a = b)
    (h : l.Pairwise r) : (dedupAdjacent l).Pairwise fun a b => r a b ∧ a ≠ b := by
  induction l using dedupAdjacent.induct with
  | case1 => exact List.Pairwise.nil
  | case2 b => exact List.pairwise_singleton _ b
  | case3 b rest ih =>
      rw [dedupAdjacent, if_pos rfl]
      exact ih h.tail
  | case4 b c rest hbc ih =>
      rw [dedupAdjacent, if_neg hbc]
      obtain ⟨hb, hrest⟩ := List.pairwise_cons.1 h
      apply List.Pairwise.cons _ (ih hrest)
      intro x hx
      have hmem : x ∈ c :: rest := mem_dedupAdjacent.1 hx
      refine ⟨hb x hmem, ?_⟩
      intro heq
      subst heq
      -- Both stand before and behind the neighbour, so the neighbour is the same.
      rcases List.mem_cons.1 hmem with hc | hlater
      · exact hbc hc
      · exact hbc (hanti b c (hb c List.mem_cons_self) (List.rel_of_pairwise_cons hrest hlater))

end Neighbours

/-- A strictly ascending list is determined by its members. -/
theorem eq_of_pairwise_of_mem_iff {α : Type} {r : α → α → Prop} (hasymm : ∀ a b, r a b → ¬r b a)
    {l l' : List α} (h : l.Pairwise r) (h' : l'.Pairwise r) (hmem : ∀ a, a ∈ l' ↔ a ∈ l) :
    l' = l := by
  have hnodup {l : List α} (h : l.Pairwise r) : l.Nodup := by
    apply h.imp
    intro a b hab heq
    subst heq
    exact hasymm a a hab hab
  apply List.Perm.eq_of_pairwise _ h' h
  · exact (List.perm_ext_iff_of_nodup (hnodup h') (hnodup h)).2 hmem
  · intro a b _ _ hab hba
    exact absurd hba (hasymm a b hab)

namespace Candidate

variable {a b c : Candidate}

theorem le_iff :
    a.le b = true ↔ a.distance < b.distance ∨ a.distance = b.distance ∧ a.name ≤ b.name := by
  simp only [le, Bool.or_eq_true, Bool.and_eq_true, Bool.not_eq_true', decide_eq_true_eq,
    decide_eq_false_iff_not, beq_iff_eq, String.not_lt]

theorem le_trans (hab : a.le b = true) (hbc : b.le c = true) : a.le c = true := by
  rw [le_iff] at hab hbc ⊢
  rcases hab with hab | ⟨hab, hname⟩ <;> rcases hbc with hbc | ⟨hbc, hname'⟩
  · exact .inl (by omega)
  · exact .inl (by omega)
  · exact .inl (by omega)
  · exact .inr ⟨by omega, String.le_trans hname hname'⟩

theorem le_total (a b : Candidate) : (a.le b || b.le a) = true := by
  rw [Bool.or_eq_true, le_iff, le_iff]
  rcases Nat.lt_trichotomy a.distance b.distance with h | h | h
  · exact .inl (.inl h)
  · rcases String.le_total a.name b.name with hname | hname
    · exact .inl (.inr ⟨h, hname⟩)
    · exact .inr (.inr ⟨h.symm, hname⟩)
  · exact .inr (.inl h)

theorem le_antisymm (hab : a.le b = true) (hba : b.le a = true) : a = b := by
  rw [le_iff] at hab hba
  have hdistance : a.distance = b.distance := by omega
  have hname : a.name = b.name := by
    apply String.le_antisymm
    · exact (hab.resolve_left (by omega)).2
    · exact (hba.resolve_left (by omega)).2
  cases a
  cases b
  simp_all

def of (key name : String) : Candidate := ⟨Text.distance key name, name⟩

end Candidate

/-- Another name, at most one edit away from a short name or two from a longer one. -/
def CloseTo (key name : String) : Prop :=
  name ≠ key ∧
    ∃ n ≤ if key.length ≤ 3 then 1 else 2, Text.Edits n key.toList name.toList

/-- Fewer edits away from a name, or as many and first by name. -/
def Nearer (key a b : String) : Prop :=
  ∃ m n, IsLeast { k | Text.Edits k key.toList a.toList } m ∧
    IsLeast { k | Text.Edits k key.toList b.toList } n ∧ (m < n ∨ m = n ∧ a < b)

section Close

variable {key name a b : String}

theorem closeTo_iff : CloseTo key name ↔ name ≠ key ∧ Text.distance key name ≤ maxDistance key := by
  obtain ⟨hleast, hall⟩ := Text.distance_isLeast key name
  apply and_congr_right
  intro _
  constructor
  · rintro ⟨n, hn, hedits⟩
    exact Nat.le_trans (hall hedits) hn
  · intro h
    exact ⟨Text.distance key name, h, hleast⟩

theorem nearer_of_le (hle : (Candidate.of key a).le (.of key b) = true)
    (hne : Candidate.of key a ≠ .of key b) : Nearer key a b := by
  refine ⟨_, _, Text.distance_isLeast key a, Text.distance_isLeast key b, ?_⟩
  have hab : a ≠ b := by
    intro h
    exact hne (h ▸ rfl)
  rcases Candidate.le_iff.1 hle with h | ⟨h, hname⟩
  · exact .inl h
  · have hlt : a < b := by
      apply Decidable.byContradiction
      intro hnot
      exact hab (String.le_antisymm hname (String.not_lt.1 hnot))
    exact .inr ⟨h, hlt⟩

end Close

def ranked (key : String) (available : List String) : List Candidate :=
  dedupAdjacent ((((available.filter (· != key)).map (Candidate.of key)).filter fun c =>
    c.distance ≤ maxDistance key).mergeSort Candidate.le)

theorem suggestions_eq (key : String) (available : List String) :
    suggestions key available = ((ranked key available).take 3).map Candidate.name :=
  rfl

section Ranked

variable {key name : String} {available available' : List String} {c : Candidate}

theorem mem_ranked :
    c ∈ ranked key available ↔
      ∃ name, c = .of key name ∧ name ∈ available ∧ CloseTo key name := by
  rw [ranked, mem_dedupAdjacent, List.mem_mergeSort, List.mem_filter, List.mem_map]
  constructor
  · rintro ⟨⟨name, hname, rfl⟩, hdistance⟩
    obtain ⟨hmem, hne⟩ := List.mem_filter.1 hname
    exact ⟨name, rfl, hmem, closeTo_iff.2 ⟨by simpa using hne, of_decide_eq_true hdistance⟩⟩
  · rintro ⟨name, rfl, hmem, hclose⟩
    obtain ⟨hne, hdistance⟩ := closeTo_iff.1 hclose
    exact ⟨⟨name, List.mem_filter.2 ⟨hmem, by simpa using hne⟩, rfl⟩, decide_eq_true hdistance⟩

theorem pairwise_ranked (key : String) (available : List String) :
    (ranked key available).Pairwise fun a b => a.le b = true ∧ a ≠ b := by
  apply pairwise_dedupAdjacent
  · intro a b
    exact Candidate.le_antisymm
  · apply List.pairwise_mergeSort
    · intro a b c
      exact Candidate.le_trans
    · exact Candidate.le_total

/-- The candidates are determined by which names are available. -/
theorem ranked_congr (h : ∀ n, n ∈ available' ↔ n ∈ available) :
    ranked key available' = ranked key available := by
  apply eq_of_pairwise_of_mem_iff _ (pairwise_ranked key available) (pairwise_ranked key available')
  · intro c
    simp only [mem_ranked, h]
  · intro a b hab hba
    exact hab.2 (Candidate.le_antisymm hab.1 hba.1)

/-- The names of candidates, too, are in the order of their distances. -/
theorem pairwise_nearer (key : String) (available : List String) :
    ((ranked key available).map Candidate.name).Pairwise (Nearer key) := by
  apply List.pairwise_map.2
  apply (pairwise_ranked key available).imp_of_mem
  intro a b ha hb h
  obtain ⟨n, rfl, -⟩ := mem_ranked.1 ha
  obtain ⟨m, rfl, -⟩ := mem_ranked.1 hb
  exact nearer_of_le h.1 h.2

theorem mem_map_ranked :
    name ∈ (ranked key available).map Candidate.name ↔ name ∈ available ∧ CloseTo key name := by
  rw [List.mem_map]
  constructor
  · rintro ⟨c, hc, rfl⟩
    obtain ⟨n, rfl, hn⟩ := mem_ranked.1 hc
    exact hn
  · intro h
    exact ⟨.of key name, mem_ranked.2 ⟨name, rfl, h⟩, rfl⟩

end Ranked

theorem Nearer.ne {key a b : String} (h : Nearer key a b) : a ≠ b := by
  obtain ⟨m, n, hm, hn, hless⟩ := h
  rintro rfl
  have hsame : m = n := Nat.le_antisymm (hm.2 hn.1) (hn.2 hm.1)
  rcases hless with hlt | ⟨-, hlt⟩
  · omega
  · exact String.lt_irrefl a hlt

/-- The names are the closest of those that are available: at most three, each once, the closest
first. Another close name is behind all of them, and there is none as long as there are fewer than
three. -/
structure ClosestOf (key : String) (available names : List String) : Prop where
  nodup : names.Nodup
  length_le : names.length ≤ 3
  close : ∀ n ∈ names, n ∈ available ∧ CloseTo key n
  ascending : names.Pairwise (Nearer key)
  others : ∀ n ∈ available, CloseTo key n → n ∉ names →
    names.length = 3 ∧ ∀ m ∈ names, Nearer key m n

theorem closestOf_suggestions (key : String) (available : List String) :
    ClosestOf key available (suggestions key available) := by
  let all := (ranked key available).map Candidate.name
  have hascending : all.Pairwise (Nearer key) := pairwise_nearer key available
  have hnames : suggestions key available = all.take 3 := by
    rw [suggestions_eq, List.map_take]
  rw [hnames]
  refine ⟨?_, List.length_take_le 3 all, ?_, hascending.take, ?_⟩
  · exact hascending.take.imp fun h => h.ne
  · intro n hn
    exact mem_map_ranked.1 (List.mem_of_mem_take hn)
  · intro n hn hclose hnot
    have hmem : n ∈ all.take 3 ++ all.drop 3 := by
      rw [List.take_append_drop]
      exact mem_map_ranked.2 ⟨hn, hclose⟩
    have hlater : n ∈ all.drop 3 := (List.mem_append.1 hmem).resolve_left hnot
    constructor
    · have hlength := List.length_pos_of_mem hlater
      rw [List.length_drop] at hlength
      rw [List.length_take]
      omega
    · intro m hm
      have hsplit : (all.take 3 ++ all.drop 3).Pairwise (Nearer key) := by
        rwa [List.take_append_drop]
      exact (List.pairwise_append.1 hsplit).2.2 m hm n hlater

/-- For every name and all available names, what is suggested are the closest ones: other names that
are at most one edit away, or two for a name of more than three characters, sorted by how many edits
it takes and then by name. Which names are available decides alone, not in which order they are
listed nor how often. -/
theorem suggestions_are_closest (key : String) (available : List String) :
    ClosestOf key available (suggestions key available) ∧
      ∀ available', (∀ n, n ∈ available' ↔ n ∈ available) →
        suggestions key available' = suggestions key available := by
  constructor
  · exact closestOf_suggestions key available
  · intro available' h
    rw [suggestions_eq, suggestions_eq, ranked_congr h]

/-- One name is listed twice, and a fourth close name is left out. -/
theorem suggestions_for_an :
    let available := ["on", "and", "ban", "on", "a", "than"]
    let shuffled := ["than", "a", "ban", "and", "on"]
    suggestions "an" available = ["a", "and", "ban"] ∧
      ClosestOf "an" available (suggestions "an" available) ∧
      (∀ n, n ∈ shuffled ↔ n ∈ available) ∧
      suggestions "an" shuffled = suggestions "an" available := by
  intro available shuffled
  have hsame : ∀ n, n ∈ shuffled ↔ n ∈ available := by
    intro n
    simp only [shuffled, available, List.mem_cons]
    tauto
  have hnames : suggestions "an" ["on", "and", "ban", "on", "a", "than"] = ["a", "and", "ban"] := by
    cbv
  obtain ⟨hclosest, hcongr⟩ := suggestions_are_closest "an" available
  exact ⟨hnames, hclosest, hsame, hcongr shuffled hsame⟩

end Phrasebook
