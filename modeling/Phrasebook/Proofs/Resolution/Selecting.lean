import Mathlib.Data.List.Find
import Mathlib.Data.List.Pairwise
import Phrasebook.Proofs.Numeric.Order
import Phrasebook.Proofs.Resolution.Collecting
import Phrasebook.Proofs.Resolution.Descent

/-!
# What a select expression chooses

Of variants with different keys at most one can be chosen by its key and at most one by its plural
category, so their order has no part in the choice. A number is chosen for by its own key before any
category, wherever the variant stands. Where nothing is chosen the default is shown, and only a
default that is not there is reported.
-/

namespace Phrasebook

/-! ## Keys -/

namespace Binary64

def signedUnits (negative : Bool) (x : Magnitude) : Int :=
  if negative then -(x.units : Int) else x.units

/-- Equal as numbers: the same infinity, or as many units of the same sign. What is no number equals
nothing. -/
inductive SameNumber : Binary64 → Binary64 → Prop where
  | infinite {negative : Bool} : SameNumber (.infinite negative) (.infinite negative)
  | finite {s t : Bool} {x y : Magnitude} :
      signedUnits s x = signedUnits t y → SameNumber (.finite s x) (.finite t y)

theorem signedUnits_eq_iff {s t : Bool} {x y : Magnitude} :
    signedUnits s x = signedUnits t y ↔ x = y ∧ (s = t ∨ x = .zero) := by
  have hsame : x.units = y.units ↔ x = y := ⟨Magnitude.units_injective, congrArg _⟩
  have hzero : x.units = 0 ↔ x = .zero :=
    ⟨fun h => Magnitude.units_injective (h.trans rfl), fun h => congrArg Magnitude.units h⟩
  rw [← hsame, ← hzero]
  unfold signedUnits
  cases s <;> cases t <;> simp <;> omega

theorem equal_iff {x y : Binary64} : x.equal y = true ↔ x.SameNumber y := by
  constructor
  · intro h
    cases x with
    | nan => cases h
    | infinite s =>
        cases y with
        | nan | finite => cases h
        | infinite t =>
            obtain rfl : s = t := by simpa [equal] using h
            exact .infinite
    | finite s x =>
        cases y with
        | nan | infinite => cases h
        | finite t y =>
            simp only [equal, Bool.and_eq_true, Bool.or_eq_true, beq_iff_eq] at h
            exact .finite (signedUnits_eq_iff.2 h)
  · intro h
    cases h with
    | infinite => simp [equal]
    | finite h =>
        simp only [equal, Bool.and_eq_true, Bool.or_eq_true, beq_iff_eq]
        exact signedUnits_eq_iff.1 h

/-- Values that equal the same value equal each other. -/
theorem equal_of_equal {x y z : Binary64} (hy : x.equal y = true) (hz : x.equal z = true) :
    y.equal z = true := by
  rw [equal_iff] at hy hz ⊢
  cases hy with
  | infinite => exact hz
  | finite hy =>
      cases hz with
      | finite hz => exact .finite (hy.symm.trans hz)

end Binary64

/-- Equal keys: the same text, or equal numbers however precise. -/
def Literal.sameKey : Literal → Literal → Bool
  | .text a, .text b => a == b
  | .number x _, .number y _ => x.equal y
  | _, _ => false

def KeysDistinct (variants : List Variant) : Prop :=
  variants.Pairwise fun x y => x.key.sameKey y.key = false

instance (variants : List Variant) : Decidable (KeysDistinct variants) :=
  inferInstanceAs (Decidable (variants.Pairwise _))

/-- After a change of order the default is the same variant, or is still out of range. -/
def StarFollows (variants variants' : List Variant) (star star' : UInt64) : Prop :=
  if star.toNat < variants.length then variants'[star'.toNat]? = variants[star.toNat]?
  else star' = star

/-- A predicate that chooses by the key chooses at most one of some variants with different keys,
so their order does not matter. -/
theorem find?_perm {variants variants' : List Variant} (hkeys : KeysDistinct variants)
    (hperm : variants'.Perm variants) {chooses : Literal → Bool}
    (hsame : ∀ k k', chooses k = true → chooses k' = true → k.sameKey k' = true) :
    variants'.find? (fun x => chooses x.key) = variants.find? (fun x => chooses x.key) := by
  let Apart (x y : Variant) : Prop := ¬(chooses x.key = true ∧ chooses y.key = true)
  have hsymm : Std.Symm Apart := ⟨fun _ _ h hboth => h hboth.symm⟩
  have hone : variants.Pairwise Apart := by
    refine hkeys.imp fun {x y} hdifferent hboth => ?_
    simp [hsame _ _ hboth.1 hboth.2] at hdifferent
  refine (List.find?_eq_find?_of_perm hperm.symm ?_).symm
  rintro x ⟨hx, hxkey⟩ y ⟨hy, hykey⟩
  by_contra hne
  exact hone.forall hx hy hne ⟨hxkey, hykey⟩

section Matching

variable {γ : Type} [CustomValue γ]

theorem sameKey_of_matchesExactly {view : ScopeView γ} {v : Value γ} (hv : ∀ c, v ≠ .custom c)
    (k k' : Literal) (h : matchesExactly view v k = true) (h' : matchesExactly view v k' = true) :
    k.sameKey k' = true := by
  cases v with
  | custom c => exact absurd rfl (hv c)
  | absent | instant => simp [matchesExactly] at h
  | text s =>
      cases k with
      | number x precision => simp [matchesExactly] at h
      | text key =>
          cases k' with
          | number x precision => simp [matchesExactly] at h'
          | text key' =>
              simp only [matchesExactly, beq_iff_eq] at h h'
              simp [Literal.sameKey, ← h, h']
  | number n =>
      cases k with
      | text key => simp [matchesExactly] at h
      | number x precision =>
          cases k' with
          | text key => simp [matchesExactly] at h'
          | number y precision' => exact Binary64.equal_of_equal h h'

theorem sameKey_of_matchesCategory {category : PluralCategory} (k k' : Literal)
    (h : matchesCategory category k = true) (h' : matchesCategory category k' = true) :
    k.sameKey k' = true := by
  cases k with
  | number x precision => cases h
  | text key =>
      cases k' with
      | number x precision => cases h'
      | text key' =>
          simp only [matchesCategory, beq_iff_eq] at h h'
          simp [Literal.sameKey, h, h']

/-- A number chooses the first variant with an equal number key. -/
theorem exactVariant?_insert (view : ScopeView γ) {n : Number} {before : List Variant} {x : Variant}
    {key : Binary64} {precision : UInt64} (hx : x.key = .number key precision)
    (hequal : n.value.equal key = true)
    (hbefore : ∀ y ∈ before, ∀ other p, y.key = .number other p → n.value.equal other = false)
    (after : List Variant) : exactVariant? view (.number n) (before ++ x :: after) = some x := by
  let chooses (y : Variant) : Bool := matchesExactly view (.number n) y.key
  have hnone : before.find? chooses = none := by
    refine List.find?_eq_none.2 fun y hy hmatches => ?_
    cases hkey : y.key with
    | text key => simp [chooses, hkey, matchesExactly] at hmatches
    | number other p => simp [chooses, hkey, matchesExactly, hbefore y hy other p hkey] at hmatches
  have hself : chooses x = true := by
    simp only [chooses, hx]
    exact hequal
  change (before ++ x :: after).find? chooses = some x
  rw [List.find?_append, hnone, List.find?_cons_of_pos hself, Option.none_or]

end Matching

namespace Environment

open Resolving

variable [FormatterSource] {γ : Type}

def categoryIn (t : Scope γ) : Value γ → Option PluralCategory
  | .number n => (t.formatters.pluralCategory n).1.toOption
  | _ => none

theorem categoryIn_number {t : Scope γ} {n : Number} {category : PluralCategory} :
    categoryIn t (.number n) = some category ↔
      (t.formatters.pluralCategory n).1 = .ok category := by
  change (t.formatters.pluralCategory n).1.toOption = some category ↔ _
  cases (t.formatters.pluralCategory n).1 with
  | error reason => exact iff_of_false (fun h => by cases h) (fun h => by cases h)
  | ok found =>
      constructor
      · intro h
        cases h
        rfl
      · intro h
        cases h
        rfl

/-- Where the category cannot be found out, nothing but that is reported. -/
theorem agrees_categoryOf (env : Environment γ) (resolver : Resolver γ) (v : Value γ)
    (t : Scope γ) :
    ∃ added u, Agrees (env.run resolver (categoryOf v)) t (categoryIn t v) added u ∧
      ∀ e ∈ added, ∃ l reason, e = .formatter l reason := by
  cases v with
  | text | instant | absent | custom => exact ⟨[], t, agrees_pure none t, by simp⟩
  | number n =>
      let question : Formatting (Except FormatError (Option PluralCategory)) :=
        .category n fun r => .done (some <$> r)
      rcases hanswer : t.formatters.pluralCategory n with ⟨answer, c⟩
      let asked : Scope γ := { t with formatters := c }
      have hask : Agrees (env.run resolver (.ask question)) t (some <$> answer) [] asked := by
        have hasked := agrees_ask question t
        simp only [question, Formatting.run, hanswer] at hasked
        exact hasked
      cases answer with
      | ok category =>
          refine ⟨[] ++ [], asked, ?_, by simp⟩
          rw [categoryIn, hanswer]
          exact agrees_bind hask (agrees_pure _ _)
      | error reason =>
          refine ⟨[] ++ ([] ++ ([.formatter c.locale reason] ++ [])), asked, ?_, by simp⟩
          rw [categoryIn, hanswer]
          have hlook : Agrees (env.run resolver .look) asked (env.view asked) [] asked :=
            .of_silent fun _ => rfl
          have hreport : Agrees (env.run resolver (.report (.formatter c.locale reason))) asked ()
              [.formatter c.locale reason] asked := agrees_report _ asked
          exact agrees_bind hask (agrees_bind hlook (agrees_bind hreport (agrees_pure none asked)))

end Environment

/-! ## The steps behind the selector -/

namespace Environment

open Resolving

section

variable [FormatterSource] {γ : Type} [CustomValue γ] {env : Environment γ} {resolver : Resolver γ}
  {v : Value γ} {variants variants' : List Variant} {star star' : UInt64} {s t : Scope γ}

def resolveChoice (env : Environment γ) (v : Value γ) (variants : List Variant) (star : UInt64) :
    Resolving γ (Value γ) := do
  if v.isAbsent then env.resolveDefault variants star
  else
    match exactVariant? (← look) v variants with
    | some x => env.resolveVariant x
    | none =>
      match (← categoryOf v).bind (categoryVariant? · variants) with
      | some x => env.resolveVariant x
      | none => env.resolveDefault variants star

/-- The selector is resolved first, one level deeper. -/
theorem resolve_select (selector : Expression) (variants : List Variant) (star : UInt64)
    (s : Scope γ) :
    env.resolve (.select selector variants star) s =
      s.within (Scope.descend env.bundle.maxDepth) Scope.ascend none fun s =>
        match env.resolve selector s with
        | .ok v t => env.run env.resolve (env.resolveChoice v variants star) t
        | .error e t => .error e t := by
  have hsteps : env.resolveForm (.select selector variants star) =
      (inner selector).bind fun v => env.resolveChoice v variants star := rfl
  rw [resolve_eq, resolveBy, hsteps]
  refine congrArg (Scope.within _ _ _ · s) (funext fun t => ?_)
  cases hselector : env.resolve selector t <;> simp only [run, hselector]

theorem resolveDefault_perm (hperm : variants'.Perm variants)
    (hstar : StarFollows variants variants' star star') :
    env.resolveDefault variants' star' = env.resolveDefault variants star := by
  unfold StarFollows at hstar
  unfold resolveDefault
  split at hstar
  next hlt => rw [hstar, List.getElem?_eq_getElem hlt]
  next hge =>
    have hout : variants.length ≤ star.toNat := Nat.not_lt.1 hge
    have hout' : variants'.length ≤ star.toNat := hperm.length_eq ▸ hout
    rw [hstar, List.getElem?_eq_none hout, List.getElem?_eq_none hout', hperm.length_eq]

/-- The very same steps are taken. -/
theorem resolveChoice_perm (hv : ∀ c, v ≠ .custom c) (hkeys : KeysDistinct variants)
    (hperm : variants'.Perm variants) (hstar : StarFollows variants variants' star star') :
    env.resolveChoice v variants' star' = env.resolveChoice v variants star := by
  have hexact (view : ScopeView γ) :
      exactVariant? view v variants' = exactVariant? view v variants :=
    find?_perm hkeys hperm (sameKey_of_matchesExactly hv)
  have hcategory (category : PluralCategory) :
      categoryVariant? category variants' = categoryVariant? category variants :=
    find?_perm hkeys hperm sameKey_of_matchesCategory
  unfold resolveChoice
  simp only [hexact, hcategory, resolveDefault_perm hperm hstar]

theorem resolve_select_perm {selector : Expression}
    (hv : ∀ c t, env.resolve selector { s with depth := s.depth + 1 } ≠ .ok (.custom c) t)
    (hkeys : KeysDistinct variants) (hperm : variants'.Perm variants)
    (hstar : StarFollows variants variants' star star') :
    env.resolve (.select selector variants' star') s =
      env.resolve (.select selector variants star) s := by
  rw [resolve_select, resolve_select]
  unfold Scope.within
  cases hd : s.descend env.bundle.maxDepth with
  | error e => rfl
  | ok deeper =>
      obtain ⟨-, rfl⟩ := Scope.descend_eq_ok_iff.1 hd
      dsimp only
      cases hselector : env.resolve selector { s with depth := s.depth + 1 } with
      | error e t => rfl
      | ok v t =>
          have hcustom : ∀ c, v ≠ .custom c := by
            rintro c rfl
            exact hv c t hselector
          simp only [resolveChoice_perm hcustom hkeys hperm hstar]

/-! ## What is chosen -/

/-- A text matches the same text as a key, and a number matches an equal number or the name of its
plural category. A value of the host says itself which keys it matches. -/
inductive Matches (env : Environment γ) (t : Scope γ) : Value γ → Variant → Prop where
  | text {text : String} {x : Variant} : x.key = .text text → Matches env t (.text text) x
  | number {n : Number} {key : Binary64} {precision : UInt64} {x : Variant} :
      x.key = .number key precision → n.value.SameNumber key → Matches env t (.number n) x
  | category {n : Number} {category : PluralCategory} {x : Variant} :
      (t.formatters.pluralCategory n).1 = .ok category → x.key = .text category.key →
        Matches env t (.number n) x
  | custom {c : γ} {x : Variant} :
      CustomValue.selects c x.key (env.view t) = true → Matches env t (.custom c) x

/-- The two matchers find what matches. -/
theorem matches_iff {x : Variant} :
    env.Matches t v x ↔ matchesExactly (env.view t) v x.key = true ∨
      ∃ category, categoryIn t v = some category ∧ matchesCategory category x.key = true := by
  constructor
  · intro h
    cases h with
    | text hkey => exact .inl (by simp [hkey, matchesExactly])
    | number hkey hsame =>
        left
        rw [hkey]
        exact Binary64.equal_iff.2 hsame
    | category hcategory hkey =>
        exact .inr ⟨_, categoryIn_number.2 hcategory, by simp [hkey, matchesCategory]⟩
    | custom hselects => exact .inl hselects
  · rintro (hexact | ⟨category, hcategory, hkey⟩)
    · cases v with
      | absent | instant => simp [matchesExactly] at hexact
      | custom c => exact .custom hexact
      | text s =>
          cases hkey : x.key with
          | number key precision => simp [hkey, matchesExactly] at hexact
          | text key =>
              obtain rfl : s = key := by simpa [hkey, matchesExactly] using hexact
              exact .text hkey
      | number n =>
          cases hkey : x.key with
          | text key => simp [hkey, matchesExactly] at hexact
          | number key precision =>
              rw [hkey] at hexact
              exact .number hkey (Binary64.equal_iff.1 hexact)
    · cases v with
      | absent | instant | text | custom => cases hcategory
      | number n =>
          cases hname : x.key with
          | number key precision => simp [hname, matchesCategory] at hkey
          | text key =>
              obtain rfl : key = category.key := by simpa [hname, matchesCategory] using hkey
              exact .category (categoryIn_number.1 hcategory) hname

/-- An absent value and a point in time match nothing. -/
theorem not_matches (hv : v.isAbsent = true ∨ ∃ i, v = .instant i) (t : Scope γ) (x : Variant) :
    ¬env.Matches t v x := by
  intro h
  rcases hv with hv | ⟨i, rfl⟩
  · cases h <;> cases hv
  · cases h

theorem run_resolveChoice_absent (hv : v.isAbsent = true) (variants : List Variant)
    (star : UInt64) (t : Scope γ) :
    env.run resolver (env.resolveChoice v variants star) t =
      env.run resolver (env.resolveDefault variants star) t := by
  rw [resolveChoice, if_pos hv]

theorem run_resolveChoice_exact {x : Variant} (hv : v.isAbsent = false)
    (hx : exactVariant? (env.view t) v variants = some x) (star : UInt64) :
    env.run resolver (env.resolveChoice v variants star) t =
      env.run resolver (env.resolveVariant x) t := by
  rw [resolveChoice, hv]
  change env.run resolver (.bind .look _) t = _
  simp only [run, hx]

theorem run_resolveChoice_category {category : Option PluralCategory} {u : Scope γ}
    (hv : v.isAbsent = false) (hexact : exactVariant? (env.view t) v variants = none)
    (hcategory : env.run resolver (categoryOf v) t = .ok category u) (star : UInt64) :
    env.run resolver (env.resolveChoice v variants star) t =
      env.run resolver
        (match category.bind (categoryVariant? · variants) with
        | some x => env.resolveVariant x
        | none => env.resolveDefault variants star) u := by
  rw [resolveChoice, hv]
  change env.run resolver (.bind .look _) t = _
  simp only [run, hexact]
  change env.run resolver (.bind (categoryOf v) _) t = _
  simp only [run, hcategory]

/-- Where errors are collected, a variant that matches is chosen, or else the default. On the way at
most a category that cannot be found out is reported. -/
theorem run_resolveChoice (env : Environment γ) (resolver : Resolver γ) {held : List ResolverError}
    (ht : t.errors = some held) (v : Value γ) (variants : List Variant) (star : UInt64) :
    ∃ u added, u.errors = some (held ++ added) ∧
      (∀ e ∈ added, ∃ l reason, e = .formatter l reason) ∧
      ((∃ x ∈ variants, env.Matches t v x ∧
          env.run resolver (env.resolveChoice v variants star) t =
            env.run resolver (env.resolveVariant x) u) ∨
        (∀ x ∈ variants, ¬env.Matches t v x) ∧
          env.run resolver (env.resolveChoice v variants star) t =
            env.run resolver (env.resolveDefault variants star) u) := by
  cases hv : v.isAbsent with
  | true =>
      exact ⟨t, [], by simp [ht], by simp, .inr ⟨fun x _ => not_matches (.inl hv) t x,
        run_resolveChoice_absent hv variants star t⟩⟩
  | false =>
      cases hexact : exactVariant? (env.view t) v variants with
      | some x =>
          have hkey := List.find?_some hexact
          exact ⟨t, [], by simp [ht], by simp, .inl ⟨x, List.mem_of_find?_eq_some hexact,
            matches_iff.2 (.inl hkey), run_resolveChoice_exact hv hexact star⟩⟩
      | none =>
          obtain ⟨added, after, hagrees, hadded⟩ := agrees_categoryOf env resolver v t
          have hcategory := hagrees.of_collecting ht
          have hrun := run_resolveChoice_category hv hexact hcategory star
          refine ⟨after.withErrors (some (held ++ added)), added, rfl, hadded, ?_⟩
          cases hchosen : (categoryIn t v).bind (categoryVariant? · variants) with
          | some x =>
              obtain ⟨category, hin, hx⟩ := Option.bind_eq_some_iff.1 hchosen
              have hkey := List.find?_some hx
              rw [hchosen] at hrun
              exact .inl ⟨x, List.mem_of_find?_eq_some hx,
                matches_iff.2 (.inr ⟨category, hin, hkey⟩), hrun⟩
          | none =>
              rw [hchosen] at hrun
              refine .inr ⟨?_, hrun⟩
              intro x hx hmatches
              rcases matches_iff.1 hmatches with hkey | ⟨category, hin, hkey⟩
              · exact List.find?_eq_none.1 hexact x hx hkey
              · rw [hin] at hchosen
                exact List.find?_eq_none.1 hchosen x hx hkey

/-! ## Select expressions -/

/-- The ending shows a variant from a scope on: as a text, with all else left as its pattern leaves
it. -/
def ShowsVariant (env : Environment γ) (x : Variant) (t : Scope γ) (ending : Ending γ (Value γ)) :
    Prop :=
  ∃ text after, env.resolvePattern x.value t = .ok text after ∧
    ending = .ok (.text text) after.ascend

theorem showsVariant {held : List ResolverError} (ht : t.errors = some held) (x : Variant) :
    env.ShowsVariant x t
      ((env.run env.resolve (env.resolveVariant x) t).leave Scope.ascend) := by
  obtain ⟨text, added, after, hagrees⟩ := env.resolvePattern_agreeing x.value t
  have hshown : env.run env.resolve (env.showPattern x.value) t =
      .ok text (after.withErrors (some (held ++ added))) := hagrees.of_collecting ht
  refine ⟨text, _, hshown, ?_⟩
  change Ending.leave Scope.ascend (env.run env.resolve (.bind (env.showPattern x.value) _) t) = _
  simp only [run, hshown]
  rfl

theorem resolve_select_of_selector {selector : Expression} (hd : s.depth < env.bundle.maxDepth)
    (hselector : env.resolve selector { s with depth := s.depth + 1 } = .ok v t)
    (variants : List Variant) (star : UInt64) :
    env.resolve (.select selector variants star) s =
      (env.run env.resolve (env.resolveChoice v variants star) t).leave Scope.ascend := by
  rw [resolve_select]
  simp only [Scope.within, Scope.descend_eq_ok_iff.2 ⟨hd, rfl⟩, hselector]

theorem run_resolveDefault_of_get {x : Variant} (hx : variants[star.toNat]? = some x) :
    env.run resolver (env.resolveDefault variants star) t =
      env.run resolver (env.resolveVariant x) t := by
  rw [resolveDefault, hx]

theorem run_resolveDefault_of_length_le {held : List ResolverError} (ht : t.errors = some held)
    (hstar : variants.length ≤ star.toNat) :
    env.run resolver (env.resolveDefault variants star) t =
      .ok (.absent none) { t with
        errors := some (held ++ [.invalidDefaultVariant star variants.length]) } := by
  rw [resolveDefault, List.getElem?_eq_none hstar]
  change env.run resolver (.bind (.report _) _) t = _
  simp only [run, Scope.report, ht]
  rfl

/-- A value that is absent or a point in time leaves the choice to the default. -/
theorem run_resolveChoice_default (hv : v.isAbsent = true ∨ ∃ i, v = .instant i)
    (variants : List Variant) (star : UInt64) (t : Scope γ) :
    env.run resolver (env.resolveChoice v variants star) t =
      env.run resolver (env.resolveDefault variants star) t := by
  rcases hv with hv | ⟨i, rfl⟩
  · exact run_resolveChoice_absent hv variants star t
  · have hexact : exactVariant? (env.view t) (.instant i) variants = none :=
      List.find?_eq_none.2 fun x _ => by simp [matchesExactly]
    have hcategory : env.run resolver (categoryOf (.instant i)) t = .ok none t := rfl
    exact run_resolveChoice_category rfl hexact hcategory star

def LacksChoice (env : Environment γ) (t : Scope γ) (v : Value γ) (variants : List Variant)
    (star : UInt64) : Prop :=
  (∀ x ∈ variants, ¬env.Matches t v x) ∧ variants.length ≤ star.toNat

section Selected

variable {selector : Expression} {held : List ResolverError} (hd : s.depth < env.bundle.maxDepth)
  (hselector : env.resolve selector { s with depth := s.depth + 1 } = .ok v t)
  (ht : t.errors = some held)
include hd hselector ht

theorem showsVariant_of_number {n : Number} (hv : v = .number n) {before : List Variant}
    {x : Variant} {key : Binary64} {precision : UInt64} (hx : x.key = .number key precision)
    (hequal : n.value.equal key = true)
    (hbefore : ∀ y ∈ before, ∀ other p, y.key = .number other p → n.value.equal other = false)
    (after : List Variant) (star : UInt64) :
    env.ShowsVariant x t (env.resolve (.select selector (before ++ x :: after) star) s) := by
  subst hv
  have hexact := exactVariant?_insert (env.view t) hx hequal hbefore after
  rw [resolve_select_of_selector hd hselector, run_resolveChoice_exact rfl hexact]
  exact showsVariant ht x

theorem showsVariant_of_default (hv : v.isAbsent = true ∨ ∃ i, v = .instant i)
    (variants : List Variant) (star : UInt64) :
    match variants[star.toNat]? with
    | some x => env.ShowsVariant x t (env.resolve (.select selector variants star) s)
    | none => env.LacksChoice t v variants star := by
  cases hx : variants[star.toNat]? with
  | some x =>
      rw [resolve_select_of_selector hd hselector, run_resolveChoice_default hv,
        run_resolveDefault_of_get hx]
      exact showsVariant ht x
  | none => exact ⟨fun x _ => not_matches hv t x, List.getElem?_eq_none_iff.1 hx⟩

theorem resolve_select_cases (variants : List Variant) (star : UInt64) :
    ∃ u added, u.errors = some (held ++ added) ∧
      (∀ e ∈ added, ∃ l reason, e = .formatter l reason) ∧
      (env.LacksChoice t v variants star →
        env.resolve (.select selector variants star) s = .ok (.absent none) (Scope.ascend { u with
          errors := some (held ++ added ++ [.invalidDefaultVariant star variants.length]) })) ∧
      (¬env.LacksChoice t v variants star →
        ∃ x ∈ variants, (env.Matches t v x ∨
            (∀ y ∈ variants, ¬env.Matches t v y) ∧ variants[star.toNat]? = some x) ∧
          env.ShowsVariant x u (env.resolve (.select selector variants star) s)) := by
  obtain ⟨u, added, hu, hadded, hchoice⟩ := run_resolveChoice env env.resolve ht v variants star
  refine ⟨u, added, hu, hadded, ?_⟩
  rw [resolve_select_of_selector hd hselector]
  rcases hchoice with ⟨x, hx, hmatches, hrun⟩ | ⟨hnone, hrun⟩
  · rw [hrun]
    exact ⟨fun hlacks => absurd hmatches (hlacks.1 x hx),
      fun _ => ⟨x, hx, .inl hmatches, showsVariant hu x⟩⟩
  · rw [hrun]
    refine ⟨fun hlacks => ?_, fun hchoice => ?_⟩
    · rw [run_resolveDefault_of_length_le hu hlacks.2]
      rfl
    · have hstar : star.toNat < variants.length := Nat.not_le.1 fun hout => hchoice ⟨hnone, hout⟩
      have hx := List.getElem?_eq_getElem hstar
      rw [run_resolveDefault_of_get hx]
      exact ⟨_, List.getElem_mem hstar, .inr ⟨hnone, hx⟩, showsVariant hu _⟩

end Selected

/-- The order of variants with different keys makes no difference to a select expression, as long as
the default stays the same variant and its selector gives no value of the host. Where errors are
collected, the selector has a value: a number picks the variant with an equal number key, wherever
that stands; an absent value and a point in time pick none, so the default is shown; and a default
that is not there is reported exactly where no variant matches, and otherwise one is shown. -/
theorem selection_ignores_order (env : Environment γ) (selector : Expression) (s : Scope γ) :
    (∀ variants variants' star star', KeysDistinct variants → variants'.Perm variants →
      StarFollows variants variants' star star' →
      (∀ c t, env.resolve selector { s with depth := s.depth + 1 } ≠ .ok (.custom c) t) →
      env.resolve (.select selector variants' star') s =
        env.resolve (.select selector variants star) s) ∧
    ∀ held, s.errors = some held → s.depth < env.bundle.maxDepth → ∃ v t first,
      env.resolve selector { s with depth := s.depth + 1 } = .ok v t ∧
      t.errors = some (held ++ first) ∧
      (∀ n before x after key precision star, v = .number n → x.key = .number key precision →
        n.value.equal key = true →
        (∀ y ∈ before ++ after, ∀ other p,
          y.key = .number other p → n.value.equal other = false) →
        env.ShowsVariant x t (env.resolve (.select selector (before ++ x :: after) star) s)) ∧
      (∀ variants (star : UInt64), (v.isAbsent = true ∨ ∃ i, v = .instant i) →
        match variants[star.toNat]? with
        | some x => env.ShowsVariant x t (env.resolve (.select selector variants star) s)
        | none => env.LacksChoice t v variants star) ∧
      ∀ variants (star : UInt64), ∃ u added,
        u.errors = some (held ++ first ++ added) ∧
        (∀ e ∈ added, ∃ l reason, e = .formatter l reason) ∧
        (env.LacksChoice t v variants star →
          env.resolve (.select selector variants star) s = .ok (.absent none) (Scope.ascend { u with
            errors := some (held ++ first ++ added ++
              [.invalidDefaultVariant star variants.length]) })) ∧
        (¬env.LacksChoice t v variants star →
          ∃ x ∈ variants, (env.Matches t v x ∨
              (∀ y ∈ variants, ¬env.Matches t v y) ∧ variants[star.toNat]? = some x) ∧
            env.ShowsVariant x u (env.resolve (.select selector variants star) s)) := by
  refine ⟨fun variants variants' star star' hkeys hperm hstar hv =>
    resolve_select_perm hv hkeys hperm hstar, fun held hs hd => ?_⟩
  obtain ⟨v, first, u, hagrees⟩ := env.resolve_agreeing selector { s with depth := s.depth + 1 }
  have hselector := hagrees.of_collecting hs
  refine ⟨v, _, first, hselector, rfl, ?_, ?_, ?_⟩
  · intro n before x after key precision star hv hx hequal hothers
    exact showsVariant_of_number hd hselector rfl hv hx hequal
      (fun y hy => hothers y (List.mem_append_left _ hy)) after star
  · intro variants star hv
    exact showsVariant_of_default hd hselector rfl hv variants star
  · intro variants star
    exact resolve_select_cases hd hselector rfl variants star

end

def countVariants : List Variant :=
  [.mk (.text "other") (.text "many"), .mk (.number .zero 0) (.text "none"),
    .mk (.text "one") (.text "one")]

/-- Zero picks its own variant, although the category of zero is `other` and stands in front. -/
theorem countVariants_ignore_order :
    let env : Environment Empty := ⟨.ofOptions {}, none⟩
    let s : Scope Empty := .start env.bundle (some [])
    let zero : Expression := .literal (.number .zero 0)
    KeysDistinct countVariants ∧ StarFollows countVariants countVariants.reverse 0 2 ∧
    env.resolve (.select zero countVariants.reverse 2) s =
      env.resolve (.select zero countVariants 0) s ∧
    ∃ t, env.ShowsVariant (.mk (.number .zero 0) (.text "none")) t
      (env.resolve (.select zero countVariants 0) s) := by
  intro env s zero
  have hkeys : KeysDistinct countVariants := by decide
  have hstar : StarFollows countVariants countVariants.reverse 0 2 := rfl
  obtain ⟨horder, hchoice⟩ := selection_ignores_order env zero s
  have hselector : env.resolve zero { s with depth := s.depth + 1 } =
      .ok (.number (.withPrecision .zero 0)) { s with depth := s.depth + 1 } := rfl
  obtain ⟨v, t, first, hv, -, hnumber, -, -⟩ := hchoice [] rfl (by decide)
  obtain ⟨rfl, rfl⟩ :
      .number (.withPrecision .zero 0) = v ∧ { s with depth := s.depth + 1 } = t := by
    simpa using hselector.symm.trans hv
  refine ⟨hkeys, hstar, horder _ _ _ _ hkeys (List.reverse_perm _) hstar ?_,
    { s with depth := s.depth + 1 }, ?_⟩
  · intro c
    cases c
  · refine hnumber _ [.mk (.text "other") (.text "many")] _ [.mk (.text "one") (.text "one")]
      .zero 0 0 rfl rfl (by decide) ?_
    intro y hy other p hkey
    rcases List.mem_cons.1 hy with rfl | hy
    · cases hkey
    · obtain rfl := List.mem_singleton.1 hy
      cases hkey

end Environment

end Phrasebook
