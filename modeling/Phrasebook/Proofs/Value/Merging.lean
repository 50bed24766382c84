import Phrasebook.Function

/-!
# Merging options

An option is named by one name. A value of the right shape under that name replaces it, and nothing
else touches it. From this alone it follows, for any options, what several merges do: of accepted
values the last one stays, so options that are merged one after the other are the merged options of
the one map laid over the other.
-/

namespace Phrasebook

theorem Pairs.get?_of_ascending {α : Type} {name : String} {value : α}
    {rest : List (String × α)} (h : Ascending ((name, value) :: rest)) : get? name rest = none := by
  cases hget : get? name rest with
  | none => rfl
  | some v =>
      have hlt := (List.pairwise_cons.1 h).1 (name, v) (mem_of_get? hget)
      exact absurd hlt (String.lt_irrefl name)

namespace NameMap

variable {α : Type}

/-- The pairs of the first map, and those of the second under names that the first does not have. -/
def laidOver (m below : NameMap α) : NameMap α := below.insertAll m.toList

theorem get?_insertAll_of_ascending {pairs : List (String × α)} (h : Pairs.Ascending pairs)
    (m : NameMap α) (name : String) :
    (m.insertAll pairs).get? name = (Pairs.get? name pairs).or (m.get? name) := by
  induction pairs generalizing m with
  | nil => rfl
  | cons p rest ih =>
      obtain ⟨k, v⟩ := p
      have hall : m.insertAll ((k, v) :: rest) = (m.insert k v).insertAll rest := rfl
      rw [hall, ih (List.pairwise_cons.1 h).2, get?_insert, Pairs.get?]
      by_cases hk : k = name
      · subst hk
        simp [Pairs.get?_of_ascending h]
      · simp [hk]

theorem get?_laidOver (m below : NameMap α) (name : String) :
    (m.laidOver below).get? name = (m.get? name).or (below.get? name) :=
  get?_insertAll_of_ascending m.ascending below name

end NameMap

/-! ## Options with names -/

variable {γ : Type}

/-- Options that are set by names: each field has one name, a value under the name replaces the
field if it is accepted, and no other name does. The fields are all there is to the options. -/
structure Settings (γ σ : Type) where
  set : σ → String → Value γ → σ
  Field : Type → Type
  name : {β : Type} → Field β → String
  read : {β : Type} → Field β → σ → β
  /-- What the field becomes under an accepted value. -/
  take : {β : Type} → Field β → Value γ → Option β
  own : ∀ {β : Type} (f : Field β) (o : σ) (v : Value γ),
    read f (set o (name f) v) = (take f v).getD (read f o)
  other : ∀ {β : Type} (f : Field β) (o : σ) (k : String) (v : Value γ),
    k ≠ name f → read f (set o k v) = read f o
  ext : ∀ o o' : σ, (∀ {β : Type} (f : Field β), read f o = read f o') → o = o'

namespace Settings

variable {σ β : Type} (s : Settings γ σ)

def merge (o : σ) (named : Arguments γ) : σ := named.toList.foldl (fun o p => s.set o p.1 p.2) o

/-- Whatever the map gives under the names of fields is accepted. -/
def AcceptsAll (named : Arguments γ) : Prop :=
  ∀ {β : Type} (f : s.Field β) (v : Value γ), named.get? (s.name f) = some v → (s.take f v).isSome

variable {s} {o : σ} {f : s.Field β} {a b : Arguments γ}

theorem read_foldl_set {pairs : List (String × Value γ)} (h : Pairs.Ascending pairs) :
    s.read f (pairs.foldl (fun o p => s.set o p.1 p.2) o) =
      ((Pairs.get? (s.name f) pairs).bind (s.take f)).getD (s.read f o) := by
  induction pairs generalizing o with
  | nil => rfl
  | cons p rest ih =>
      obtain ⟨k, v⟩ := p
      rw [List.foldl_cons, ih (List.pairwise_cons.1 h).2, Pairs.get?]
      by_cases hk : k = s.name f
      · subst hk
        simp [Pairs.get?_of_ascending h, s.own]
      · rw [if_neg hk, s.other f o k v hk]

/-- After a merge a field is what the value under its name makes of it. -/
theorem read_merge :
    s.read f (s.merge o a) = ((a.get? (s.name f)).bind (s.take f)).getD (s.read f o) :=
  read_foldl_set a.ascending

theorem merge_merge (hb : s.AcceptsAll b) (o : σ) :
    s.merge (s.merge o a) b = s.merge o (b.laidOver a) := by
  refine s.ext _ _ fun f => ?_
  rw [read_merge, read_merge, read_merge, NameMap.get?_laidOver]
  cases hget : b.get? (s.name f) with
  | none => rfl
  | some v =>
      obtain ⟨x, hx⟩ := Option.isSome_iff_exists.1 (hb f v hget)
      simp [hx]

theorem merge_twice (o : σ) : s.merge (s.merge o a) a = s.merge o a := by
  refine s.ext _ _ fun f => ?_
  rw [read_merge, read_merge]
  cases (a.get? (s.name f)).bind (s.take f) <;> rfl

/-- A field that changes was set under its own name. -/
theorem exists_taken_of_read_merge_ne (h : s.read f (s.merge o a) ≠ s.read f o) :
    ∃ v, a.get? (s.name f) = some v ∧ (s.take f v).isSome := by
  rw [read_merge] at h
  cases hget : a.get? (s.name f) with
  | none =>
      rw [hget] at h
      exact absurd rfl h
  | some v =>
      cases htake : s.take f v with
      | none =>
          rw [hget, Option.bind_some, htake] at h
          exact absurd rfl h
      | some x => exact ⟨v, rfl, by rw [htake]; rfl⟩

end Settings

/-! ## Options of numbers -/

namespace NumberOptions

inductive Count where
  | minimumInteger
  | minimumFraction
  | maximumFraction
  | minimumSignificant
  | maximumSignificant

inductive Field : Type → Type where
  | style : Field NumberStyle
  | pluralType : Field PluralType
  | useGrouping : Field Bool
  | count (c : Count) : Field (Option UInt64)

def Count.name : Count → String
  | minimumInteger => "minimumIntegerDigits"
  | minimumFraction => "minimumFractionDigits"
  | maximumFraction => "maximumFractionDigits"
  | minimumSignificant => "minimumSignificantDigits"
  | maximumSignificant => "maximumSignificantDigits"

def Count.read (o : NumberOptions) : Count → Option UInt64
  | minimumInteger => o.minimumIntegerDigits
  | minimumFraction => o.minimumFractionDigits
  | maximumFraction => o.maximumFractionDigits
  | minimumSignificant => o.minimumSignificantDigits
  | maximumSignificant => o.maximumSignificantDigits

namespace Field

variable {β : Type}

def name : Field β → String
  | style => "style"
  | pluralType => "type"
  | useGrouping => "useGrouping"
  | count c => c.name

def read : Field β → NumberOptions → β
  | style, o => o.style
  | pluralType, o => o.pluralType
  | useGrouping, o => o.useGrouping
  | count c, o => c.read o

def take : Field β → Value γ → Option β
  | style, v => v.text?.bind NumberStyle.ofName?
  | pluralType, v => v.text?.bind PluralType.ofName?
  | useGrouping, v => v.text?.map (· != "false")
  | count _, v => v.count?.map some

/-- The values that are accepted: for closed choices the names of these, for grouping any text, and
for a count a finite number that is not negative or a text that writes a count. -/
def Accepts : Field β → Value γ → Prop
  | style, v => v = .text "decimal" ∨ v = .text "percent"
  | pluralType, v => v = .text "cardinal" ∨ v = .text "ordinal"
  | useGrouping, v => ∃ text, v = .text text
  | count _, v =>
    (∃ n : Number, v = .number n ∧ n.value.isFinite = true ∧ n.value.isNonNegative = true) ∨
      ∃ text, v = .text text ∧ (countOfText? text).isSome

theorem isSome_take_iff (f : Field β) (v : Value γ) : (f.take v).isSome ↔ f.Accepts v := by
  cases f with
  | style => cases v <;> grind [take, Accepts, Value.text?, NumberStyle.ofName?]
  | pluralType => cases v <;> grind [take, Accepts, Value.text?, PluralType.ofName?]
  | useGrouping => cases v <;> simp [take, Accepts, Value.text?]
  | count c => cases v <;> simp [take, Accepts, Value.count?]

theorem own (f : Field β) (o : NumberOptions) (v : Value γ) :
    f.read (o.set f.name v) = (f.take v).getD (f.read o) := by
  cases f with
  | style => simp [set, name, read, take]
  | pluralType => simp [set, name, read, take]
  | useGrouping => simp [set, name, read, take]
  | count c =>
      cases c <;> cases hc : v.count? <;>
        simp [set, name, read, take, Count.name, Count.read, hc]

theorem other (f : Field β) (o : NumberOptions) (k : String) (v : Value γ) (h : k ≠ f.name) :
    f.read (o.set k v) = f.read o := by
  unfold set
  cases f with
  | style => grind [name, read]
  | pluralType => grind [name, read]
  | useGrouping => grind [name, read]
  | count c => cases c <;> grind [name, read, Count.name, Count.read]

theorem eq_of_read {o o' : NumberOptions}
    (h : ∀ {β : Type} (f : Field β), f.read o = f.read o') : o = o' := by
  obtain ⟨style, pluralType, useGrouping, i, f, f', s, s'⟩ := o
  congr
  · exact h .style
  · exact h .pluralType
  · exact h .useGrouping
  · exact h (.count .minimumInteger)
  · exact h (.count .minimumFraction)
  · exact h (.count .maximumFraction)
  · exact h (.count .minimumSignificant)
  · exact h (.count .maximumSignificant)

end Field

def settings (γ : Type) : Settings γ NumberOptions where
  set := set
  Field := Field
  name := Field.name
  read := Field.read
  take := Field.take
  own := Field.own
  other := Field.other
  ext _ _ := Field.eq_of_read

end NumberOptions

/-! ## Options of instants -/

namespace InstantOptions

inductive Field : Type → Type where
  | date : Field (Option Length)
  | time : Field (Option Length)

namespace Field

variable {β : Type}

def name : Field β → String
  | date => "dateStyle"
  | time => "timeStyle"

def read : Field β → InstantOptions → β
  | date, o => o.date
  | time, o => o.time

def take : Field β → Value γ → Option β
  | date, v => (v.text?.bind Length.ofName?).map some
  | time, v => (v.text?.bind Length.ofName?).map some

/-- The values that are accepted: the names of lengths. -/
def Accepts (_ : Field β) (v : Value γ) : Prop :=
  v = .text "full" ∨ v = .text "long" ∨ v = .text "medium" ∨ v = .text "short"

theorem isSome_take_iff (f : Field β) (v : Value γ) : (f.take v).isSome ↔ f.Accepts v := by
  cases f <;> cases v <;> grind [take, Accepts, Value.text?, Length.ofName?]

theorem own (f : Field β) (o : InstantOptions) (v : Value γ) :
    f.read (o.set f.name v) = (f.take v).getD (f.read o) := by
  cases f <;> cases hv : v.text?.bind Length.ofName? <;> simp [set, name, read, take, hv]

theorem other (f : Field β) (o : InstantOptions) (k : String) (v : Value γ) (h : k ≠ f.name) :
    f.read (o.set k v) = f.read o := by
  unfold set
  cases f <;> grind [name, read]

theorem eq_of_read {o o' : InstantOptions}
    (h : ∀ {β : Type} (f : Field β), f.read o = f.read o') : o = o' := by
  obtain ⟨date, time⟩ := o
  congr
  · exact h .date
  · exact h .time

end Field

def settings (γ : Type) : Settings γ InstantOptions where
  set := set
  Field := Field
  name := Field.name
  read := Field.read
  take := Field.take
  own := Field.own
  other := Field.other
  ext _ _ := Field.eq_of_read

end InstantOptions

/-! ## Functions -/

section Functions

variable {a b : Arguments γ}

/-- What can be taken for a number. A missing value is passed on. -/
def Value.isNumeral : Value γ → Bool
  | .number _ | .instant _ | .absent _ => true
  | .text _ | .custom _ => false

/-- What can be taken for an instant. A missing value is passed on. -/
def Value.isMoment : Value γ → Bool
  | .instant _ | .absent _ => true
  | .number n => n.value.isFinite
  | .text _ | .custom _ => false

theorem numberFunction_eq_ok_iff (x : Value γ) (rest : List (Value γ)) (named : Arguments γ) :
    (∃ y, numberFunction (x :: rest) named = .ok y) ↔ x.isNumeral = true := by
  cases x <;> simp [numberFunction, Value.isNumeral]

theorem instantFunction_eq_ok_iff (x : Value γ) (rest : List (Value γ)) (named : Arguments γ) :
    (∃ y, instantFunction (x :: rest) named = .ok y) ↔ x.isMoment = true := by
  cases x with
  | number n => cases hn : n.value.isFinite <;> simp [instantFunction, Value.isMoment, hn]
  | _ => simp [instantFunction, Value.isMoment]

/-- A call on the result of a call is one call with the options merged one after the other. -/
theorem numberFunction_twice {merged : Arguments γ}
    (h : ∀ o : NumberOptions, (o.merge a).merge b = o.merge merged) (xs ys : List (Value γ)) :
    (numberFunction xs a >>= fun y => numberFunction (y :: ys) b) = numberFunction xs merged := by
  unfold numberFunction
  cases hx : xs.head? with
  | none => rfl
  | some x =>
      cases x with
      | number n => simp [bind, Except.bind, h]
      | instant t => simp [bind, Except.bind, h]
      | absent fallback => rfl
      | text text => rfl
      | custom value => rfl

theorem instantFunction_twice {merged : Arguments γ}
    (h : ∀ o : InstantOptions, (o.merge a).merge b = o.merge merged) (xs ys : List (Value γ)) :
    (instantFunction xs a >>= fun y => instantFunction (y :: ys) b) =
      instantFunction xs merged := by
  unfold instantFunction
  cases hx : xs.head? with
  | none => rfl
  | some x =>
      cases x with
      | number n =>
          cases hn : n.value.isFinite with
          | true => simp [bind, Except.bind, hn, h]
          | false => simp [bind, Except.bind, hn]
      | instant t => simp [bind, Except.bind, h]
      | absent fallback => rfl
      | text text => rfl
      | custom value => rfl

/-- The fields of options are set one by one: each is what the accepted value under its own name
makes of it, and without one it stays, so a second merge of the same map changes nothing. Where the
second of two maps has nothing but accepted values under the names of fields, merging both is
merging the second laid over the first, and two calls of a function with such maps are one, on every
value that the function takes and on every other. -/
theorem merging_composes (a b : Arguments γ) :
    (∀ name, (b.laidOver a).get? name = (b.get? name).or (a.get? name)) ∧
    ((∀ {β : Type} (f : NumberOptions.Field β) (v : Value γ),
        b.get? f.name = some v → f.Accepts v) →
      (∀ o : NumberOptions, (o.merge a).merge b = o.merge (b.laidOver a)) ∧
        ∀ xs ys, (numberFunction xs a >>= fun y => numberFunction (y :: ys) b) =
          numberFunction xs (b.laidOver a)) ∧
    ((∀ {β : Type} (f : InstantOptions.Field β) (v : Value γ),
        b.get? f.name = some v → f.Accepts v) →
      (∀ o : InstantOptions, (o.merge a).merge b = o.merge (b.laidOver a)) ∧
        ∀ xs ys, (instantFunction xs a >>= fun y => instantFunction (y :: ys) b) =
          instantFunction xs (b.laidOver a)) ∧
    (∀ o : NumberOptions, (o.merge a).merge a = o.merge a ∧
      ∀ {β : Type} (f : NumberOptions.Field β),
        f.read (o.merge a) = ((a.get? f.name).bind f.take).getD (f.read o) ∧
        (f.read (o.merge a) ≠ f.read o → ∃ v, a.get? f.name = some v ∧ f.Accepts v)) ∧
    (∀ o : InstantOptions, (o.merge a).merge a = o.merge a ∧
      ∀ {β : Type} (f : InstantOptions.Field β),
        f.read (o.merge a) = ((a.get? f.name).bind f.take).getD (f.read o) ∧
        (f.read (o.merge a) ≠ f.read o → ∃ v, a.get? f.name = some v ∧ f.Accepts v)) ∧
    ∀ x rest, ((∃ y, numberFunction (x :: rest) a = .ok y) ↔ x.isNumeral = true) ∧
      ((∃ y, instantFunction (x :: rest) a = .ok y) ↔ x.isMoment = true) := by
  refine ⟨b.get?_laidOver a, fun hb => ?_, fun hb => ?_, fun o => ⟨?_, fun f => ⟨?_, fun h => ?_⟩⟩,
    fun o => ⟨?_, fun f => ⟨?_, fun h => ?_⟩⟩,
    fun x rest => ⟨numberFunction_eq_ok_iff x rest a, instantFunction_eq_ok_iff x rest a⟩⟩
  · have hmerge : ∀ o : NumberOptions, (o.merge a).merge b = o.merge (b.laidOver a) :=
      Settings.merge_merge (s := NumberOptions.settings γ)
        fun f v hv => (f.isSome_take_iff v).2 (hb f v hv)
    exact ⟨hmerge, numberFunction_twice hmerge⟩
  · have hmerge : ∀ o : InstantOptions, (o.merge a).merge b = o.merge (b.laidOver a) :=
      Settings.merge_merge (s := InstantOptions.settings γ)
        fun f v hv => (f.isSome_take_iff v).2 (hb f v hv)
    exact ⟨hmerge, instantFunction_twice hmerge⟩
  · exact Settings.merge_twice (s := NumberOptions.settings γ) o
  · exact Settings.read_merge (s := NumberOptions.settings γ)
  · obtain ⟨v, hv, htake⟩ :=
      Settings.exists_taken_of_read_merge_ne (s := NumberOptions.settings γ) h
    exact ⟨v, hv, (f.isSome_take_iff v).1 htake⟩
  · exact Settings.merge_twice (s := InstantOptions.settings γ) o
  · exact Settings.read_merge (s := InstantOptions.settings γ)
  · obtain ⟨v, hv, htake⟩ :=
      Settings.exists_taken_of_read_merge_ne (s := InstantOptions.settings γ) h
    exact ⟨v, hv, (f.isSome_take_iff v).1 htake⟩

/-- One fraction digit laid over two of a percentage. -/
theorem percentage_with_one_digit_composes :
    let a : Arguments Empty :=
      .ofList [("minimumFractionDigits", .text "2"), ("style", .text "percent")]
    let b : Arguments Empty :=
      .ofList [("dateStyle", .text "long"), ("minimumFractionDigits", .text "1")]
    let merged : NumberOptions := { style := .percent, minimumFractionDigits := some 1 }
    (∀ {β : Type} (f : NumberOptions.Field β) v, b.get? f.name = some v → f.Accepts v) ∧
    (∀ {β : Type} (f : InstantOptions.Field β) v, b.get? f.name = some v → f.Accepts v) ∧
    (({} : NumberOptions).merge a).merge b = merged ∧
    ({} : NumberOptions).merge (b.laidOver a) = merged ∧
    (({} : InstantOptions).merge a).merge b = { date := some .long } := by
  intro a b merged
  have hget (name : String) : b.get? name =
      if "minimumFractionDigits" = name then some (.text "1")
      else if "dateStyle" = name then some (.text "long") else none := by
    simp [b, NameMap.ofList, NameMap.insertAll, NameMap.get?_insert]
  have hnumber : ∀ {β : Type} (f : NumberOptions.Field β) v,
      b.get? f.name = some v → f.Accepts v := by
    intro β f v hv
    rw [hget] at hv
    cases f with
    | style => simp [NumberOptions.Field.name] at hv
    | pluralType => simp [NumberOptions.Field.name] at hv
    | useGrouping => simp [NumberOptions.Field.name] at hv
    | count c =>
        cases c <;> simp [NumberOptions.Field.name, NumberOptions.Count.name] at hv
        exact .inr ⟨"1", hv.symm, by decide⟩
  have hinstant : ∀ {β : Type} (f : InstantOptions.Field β) v,
      b.get? f.name = some v → f.Accepts v := by
    intro β f v hv
    rw [hget] at hv
    cases f <;> simp [InstantOptions.Field.name] at hv
    exact .inr (.inl hv.symm)
  obtain ⟨-, hnumbers, hinstants, -⟩ := merging_composes a b
  have hmerged : ({} : NumberOptions).merge (b.laidOver a) = merged := by decide
  refine ⟨hnumber, hinstant, ((hnumbers hnumber).1 {}).trans hmerged, hmerged, ?_⟩
  rw [(hinstants hinstant).1 {}]
  decide

end Functions

end Phrasebook
