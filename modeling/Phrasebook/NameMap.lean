/-!
# Maps from names

Attributes, arguments, functions and registered entries are all found by name and listed in
ascending order of their names.  A `NameMap` keeps its pairs in that order, each name once, so two
maps that answer every lookup alike are equal and no listing depends on the order of insertion.
-/

namespace Phrasebook

/-! ## Ascending lists of pairs -/

namespace Pairs

variable {α : Type}

def get? (name : String) : List (String × α) → Option α
  | [] => none
  | (k, v) :: rest => if k = name then some v else get? name rest

/-- Put a pair in its place, in the place of a pair with the same name if there is one. -/
def insert (name : String) (value : α) : List (String × α) → List (String × α)
  | [] => [(name, value)]
  | (k, v) :: rest =>
    if name < k then (name, value) :: (k, v) :: rest
    else if name = k then (name, value) :: rest
    else (k, v) :: insert name value rest

theorem mem_insert {name : String} {value : α} {pairs : List (String × α)} {p : String × α}
    (h : p ∈ insert name value pairs) : p = (name, value) ∨ p ∈ pairs := by
  induction pairs with
  | nil => simpa [insert] using h
  | cons q rest ih =>
    obtain ⟨k, v⟩ := q
    unfold insert at h
    split at h
    · simpa using h
    · split at h
      · rcases List.mem_cons.1 h with h | h
        · exact .inl h
        · exact .inr (List.mem_cons_of_mem _ h)
      · rcases List.mem_cons.1 h with h | h
        · exact .inr (h ▸ List.mem_cons_self)
        · exact (ih h).imp_right (List.mem_cons_of_mem _)

def Ascending (pairs : List (String × α)) : Prop := pairs.Pairwise fun p q => p.1 < q.1

theorem Ascending.insert {pairs : List (String × α)} (h : Ascending pairs) (name : String)
    (value : α) : Ascending (insert name value pairs) := by
  induction pairs with
  | nil => exact List.pairwise_singleton _ _
  | cons q rest ih =>
    obtain ⟨k, v⟩ := q
    obtain ⟨hk, hrest⟩ := List.pairwise_cons.1 h
    unfold Pairs.insert
    split
    · next hlt =>
      refine List.pairwise_cons.2 ⟨fun p hp => ?_, h⟩
      rcases List.mem_cons.1 hp with rfl | hp
      · exact hlt
      · exact String.lt_trans hlt (hk p hp)
    · next hlt =>
      split
      · next heq =>
        subst heq
        exact List.pairwise_cons.2 ⟨fun p hp => hk p hp, hrest⟩
      · next hne =>
        refine List.pairwise_cons.2 ⟨fun p hp => ?_, ih hrest⟩
        rcases mem_insert hp with rfl | hp
        · rcases String.le_total k name with hle | hle
          · exact Decidable.byContradiction fun h' =>
              hne (String.le_antisymm (String.not_lt.1 h') hle)
          · exact absurd (String.le_antisymm hle (String.not_lt.1 hlt)) hne
        · exact hk p hp

/-- A name behind all others goes to the end. -/
theorem insert_of_forall_lt {name : String} {value : α} {pairs : List (String × α)}
    (h : ∀ p ∈ pairs, p.1 < name) : insert name value pairs = pairs ++ [(name, value)] := by
  induction pairs with
  | nil => rfl
  | cons q rest ih =>
    obtain ⟨k, v⟩ := q
    have hk : k < name := h (k, v) List.mem_cons_self
    have hlt : ¬name < k := fun h' => String.lt_irrefl k (String.lt_trans hk h')
    have hne : ¬name = k := by
      rintro rfl
      exact String.lt_irrefl name hk
    rw [insert, if_neg hlt, if_neg hne, ih fun p hp => h p (List.mem_cons_of_mem _ hp)]
    rfl

theorem mem_of_get? {name : String} {value : α} {pairs : List (String × α)}
    (h : get? name pairs = some value) : (name, value) ∈ pairs := by
  induction pairs with
  | nil => simp [get?] at h
  | cons q rest ih =>
    obtain ⟨k, v⟩ := q
    unfold get? at h
    split at h
    · next hk =>
      cases h
      exact hk ▸ List.mem_cons_self
    · exact List.mem_cons_of_mem _ (ih h)

theorem get?_insert (name k : String) (value : α) (pairs : List (String × α)) :
    get? k (insert name value pairs) = if name = k then some value else get? k pairs := by
  induction pairs with
  | nil => simp [insert, get?]
  | cons q rest ih =>
    obtain ⟨k', v⟩ := q
    unfold insert
    split
    · rfl
    · split
      · next heq =>
        by_cases hk : name = k
        · simp [get?, hk]
        · have hk' : ¬k' = k := heq ▸ hk
          simp [get?, hk, hk']
      · next hne =>
        by_cases hk : k' = k
        · have hk' : ¬name = k := fun h => hne (h.trans hk.symm)
          simp [get?, hk, hk']
        · simp only [get?, if_neg hk, ih]

theorem get?_map {β : Type} (f : α → β) (name : String) (pairs : List (String × α)) :
    get? name (pairs.map fun p => (p.1, f p.2)) = (get? name pairs).map f := by
  induction pairs with
  | nil => rfl
  | cons q rest ih =>
    obtain ⟨k, v⟩ := q
    by_cases hk : k = name
    · simp [get?, hk]
    · simp only [List.map_cons, get?, if_neg hk, ih]

theorem isSome_get?_iff {name : String} {pairs : List (String × α)} :
    (get? name pairs).isSome ↔ name ∈ pairs.map Prod.fst := by
  induction pairs with
  | nil => simp [get?]
  | cons q rest ih =>
    obtain ⟨k, v⟩ := q
    by_cases hk : k = name
    · simp [get?, hk]
    · simp [get?, hk, ih, Ne.symm hk]

end Pairs

/-! ## The map -/

/-- A finite map from names, listed in ascending order of the names. -/
structure NameMap (α : Type) where
  toList : List (String × α)
  ascending : Pairs.Ascending toList

namespace NameMap

variable {α β : Type}

def empty : NameMap α := ⟨[], List.Pairwise.nil⟩

instance : EmptyCollection (NameMap α) := ⟨empty⟩
instance : Inhabited (NameMap α) := ⟨empty⟩

def get? (m : NameMap α) (name : String) : Option α := Pairs.get? name m.toList

def contains (m : NameMap α) (name : String) : Bool := (m.get? name).isSome

/-- Store a value under a name, in place of any that was there. -/
def insert (m : NameMap α) (name : String) (value : α) : NameMap α :=
  ⟨Pairs.insert name value m.toList, m.ascending.insert name value⟩

/-- Store the pairs in order: of two with one name the later stays. -/
def insertAll (m : NameMap α) (pairs : List (String × α)) : NameMap α :=
  pairs.foldl (fun m p => m.insert p.1 p.2) m

def ofList (pairs : List (String × α)) : NameMap α := empty.insertAll pairs

def names (m : NameMap α) : List String := m.toList.map Prod.fst

def isEmpty (m : NameMap α) : Bool := m.toList.isEmpty

def size (m : NameMap α) : Nat := m.toList.length

def mapValues (f : α → β) (m : NameMap α) : NameMap β where
  toList := m.toList.map fun p => (p.1, f p.2)
  ascending := by
    refine List.pairwise_map.2 (m.ascending.imp fun h => ?_)
    exact h

theorem mem_of_get? {m : NameMap α} {name : String} {value : α} (h : m.get? name = some value) :
    (name, value) ∈ m.toList :=
  Pairs.mem_of_get? h

@[simp] theorem get?_empty (name : String) : (empty : NameMap α).get? name = none := rfl

theorem get?_insert (m : NameMap α) (name k : String) (value : α) :
    (m.insert name value).get? k = if name = k then some value else m.get? k :=
  Pairs.get?_insert name k value m.toList

theorem get?_mapValues (f : α → β) (m : NameMap α) (name : String) :
    (m.mapValues f).get? name = (m.get? name).map f :=
  Pairs.get?_map f name m.toList

theorem mem_names {m : NameMap α} {name : String} : name ∈ m.names ↔ (m.get? name).isSome :=
  Pairs.isSome_get?_iff.symm

/-- Pairs behind all of a map, in ascending order, are stored behind it as they stand. -/
theorem toList_insertAll {m : NameMap α} {pairs : List (String × α)}
    (h : Pairs.Ascending (m.toList ++ pairs)) : (m.insertAll pairs).toList = m.toList ++ pairs := by
  induction pairs generalizing m with
  | nil => simp [insertAll]
  | cons p pairs ih =>
    have hlast : (m.insert p.1 p.2).toList = m.toList ++ [p] :=
      Pairs.insert_of_forall_lt fun q hq => (List.pairwise_append.1 h).2.2 q hq p List.mem_cons_self
    have hrest : Pairs.Ascending ((m.insert p.1 p.2).toList ++ pairs) := by
      rw [hlast, List.append_assoc]
      exact h
    have hall : m.insertAll (p :: pairs) = (m.insert p.1 p.2).insertAll pairs := rfl
    rw [hall, ih hrest, hlast, List.append_assoc]
    rfl

theorem eq_of_toList {m m' : NameMap α} (h : m.toList = m'.toList) : m = m' := by
  cases m
  cases m'
  congr

/-- Storing the pairs of a map one after the other makes the map again. -/
theorem ofList_toList (m : NameMap α) : ofList m.toList = m :=
  eq_of_toList (toList_insertAll m.ascending)

theorem names_ascending (m : NameMap α) : m.names.Pairwise (· < ·) :=
  List.pairwise_map.2 m.ascending

end NameMap

end Phrasebook
