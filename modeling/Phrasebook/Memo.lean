/-!
# Memo tables

A memo table keeps what a function made for the keys that were asked for, and makes nothing twice.
Every kept pair is a key with what the function makes for it, and each key is there once; so a table
answers like the function whatever was asked before.  A key for which the function fails is not
kept.
-/

namespace Phrasebook

/-- What `make` made for some keys, in the order in which they were first asked for. -/
structure Memo {κ ε ν : Type} (make : κ → Except ε ν) where
  entries : List (κ × ν)
  made : ∀ e ∈ entries, make e.1 = .ok e.2
  distinct : (entries.map Prod.fst).Nodup

namespace Memo

variable {κ ε ν : Type} [DecidableEq κ] {make : κ → Except ε ν}

def empty : Memo make := ⟨[], by simp, by simp⟩

def keys (m : Memo make) : List κ := m.entries.map Prod.fst

def find? (m : Memo make) (k : κ) : Option ν := (m.entries.find? fun e => e.1 = k).map Prod.snd

theorem find?_eq_none {m : Memo make} {k : κ} : m.find? k = none ↔ k ∉ m.keys := by
  simp only [find?, keys, Option.map_eq_none_iff, List.find?_eq_none, List.mem_map]
  constructor
  · rintro h ⟨e, he, rfl⟩
    exact h e he (decide_eq_true rfl)
  · intro h e he hk
    exact h ⟨e, he, by simpa using hk⟩

theorem make_of_find? {m : Memo make} {k : κ} {v : ν} (h : m.find? k = some v) :
    make k = .ok v := by
  obtain ⟨e, he, rfl⟩ := Option.map_eq_some_iff.1 h
  have hk : e.1 = k := by simpa using List.find?_some he
  rw [← hk]
  exact m.made e (List.mem_of_find?_eq_some he)

def add (m : Memo make) (k : κ) (v : ν) (hv : make k = .ok v) (h : m.find? k = none) :
    Memo make where
  entries := m.entries ++ [(k, v)]
  made := by
    intro e he
    rcases List.mem_append.1 he with he | he
    · exact m.made e he
    · simp only [List.mem_singleton] at he
      rw [he]
      exact hv
  distinct := by
    have hk : k ∉ m.entries.map Prod.fst := find?_eq_none.1 h
    simp only [List.map_append, List.map_cons, List.map_nil]
    refine List.nodup_append.2 ⟨m.distinct, by simp, ?_⟩
    rintro a ha b hb rfl
    exact hk (by simp_all)

/-- The value for a key, made now unless it is kept already, the table that keeps it, and whether it
was made now.  When it cannot be made the table stays as it is. -/
def get (m : Memo make) (k : κ) : Except ε ν × Memo make × Bool :=
  match h : m.find? k with
  | some v => (.ok v, m, false)
  | none =>
    match hv : make k with
    | .ok v => (.ok v, m.add k v hv h, true)
    | .error e => (.error e, m, false)

theorem get_value (m : Memo make) (k : κ) : (m.get k).1 = make k := by
  unfold get
  split
  · next h => exact (make_of_find? h).symm
  · split
    · next hv => exact hv.symm
    · next hv => exact hv.symm

/-- A failure is not kept. -/
theorem get_of_error {m : Memo make} {k : κ} {e : ε} (he : make k = .error e) :
    (m.get k).2 = (m, false) := by
  unfold get
  split
  · rfl
  · split
    · next hv => simp [he] at hv
    · rfl

/-- A key that was asked for is kept exactly if there is a value for it. -/
theorem mem_keys_get {m : Memo make} {k x : κ} :
    x ∈ (m.get k).2.1.keys ↔ x ∈ m.keys ∨ (x = k ∧ (make k).isOk) := by
  unfold get
  split
  · next v h =>
    have hkept : k ∈ m.keys := Decidable.byContradiction fun hk => by
      simp [find?_eq_none.2 hk] at h
    constructor
    · exact .inl
    · rintro (hx | ⟨rfl, -⟩)
      · exact hx
      · exact hkept
  · split
    · next v hv => simp [keys, add, hv, Except.isOk, Except.toBool]
    · next e hv => simp [hv, Except.isOk, Except.toBool]

/-- A key is added exactly when a value was made. -/
theorem length_keys_get (m : Memo make) (k : κ) :
    (m.get k).2.1.keys.length = m.keys.length + if (m.get k).2.2 then 1 else 0 := by
  unfold get
  split
  · rfl
  · split
    · simp [keys, add]
    · rfl

end Memo

end Phrasebook
