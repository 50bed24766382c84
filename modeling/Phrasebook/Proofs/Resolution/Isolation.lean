import Mathlib.Logic.Relation
import Phrasebook.Proofs.Formatters.Answers
import Phrasebook.Proofs.Resolution.Collecting
import Phrasebook.Proofs.Resolution.Frame

/-!
# What the arguments of a term keep apart

The same expression, resolved in two scopes side by side: equally deep, with the same references
open, for the same locale. The runs go in lockstep as long as they see the same arguments, and a
reference puts its own arguments in place before anything is seen. So a term sees nothing of the
arguments around it, unless it refers to a message on its way, and a message sees nothing of the
arguments of the terms around it.
-/

namespace Phrasebook

/-! ## Two scopes side by side -/

namespace Scope

variable [FormatterSource] {γ : Type} {s s' t t' u u' : Scope γ}

/-- Equally deep, with the same references open, and for the same locale. -/
structure Beside (s s' : Scope γ) : Prop where
  depth : s'.depth = s.depth
  active : s'.active = s.active
  locale : s'.formatters.locale = s.formatters.locale

/-- Two scopes became two others that are again side by side, and in each the arguments of a term
that count are the same as before. -/
structure StayBeside (s s' t t' : Scope γ) : Prop where
  beside : t.Beside t'
  localArguments : t.localArguments = s.localArguments
  localArguments' : t'.localArguments = s'.localArguments

theorem Beside.stay (h : s.Beside s') : StayBeside s s' s s' := ⟨h, rfl, rfl⟩

theorem StayBeside.trans (h₁ : StayBeside s s' t t') (h₂ : StayBeside t t' u u') :
    StayBeside s s' u u' :=
  ⟨h₂.beside, h₂.localArguments.trans h₁.localArguments,
    h₂.localArguments'.trans h₁.localArguments'⟩

def EnterAlike (enter : Scope γ → Except ResolverError (Scope γ)) (s s' : Scope γ) : Prop :=
  (∃ t t', enter s = .ok t ∧ enter s' = .ok t' ∧ StayBeside s s' t t') ∨
    ∃ e, enter s = .error e ∧ enter s' = .error e

theorem Beside.descend (maxDepth : Nat) (h : s.Beside s') :
    EnterAlike (Scope.descend maxDepth) s s' := by
  unfold EnterAlike Scope.descend
  rw [h.depth]
  split
  · exact .inr ⟨_, rfl, rfl⟩
  · exact .inl ⟨_, _, rfl, rfl, ⟨rfl, h.active, h.locale⟩, rfl, rfl⟩

theorem Beside.pushEntry (key : String) (h : s.Beside s') :
    EnterAlike (Scope.pushEntry key) s s' := by
  unfold EnterAlike Scope.pushEntry
  rw [h.active]
  split
  · exact .inr ⟨_, rfl, rfl⟩
  · exact .inl ⟨_, _, rfl, rfl, ⟨h.depth, rfl, h.locale⟩, rfl, rfl⟩

/-- With the same arguments in sight: the same arguments of a term, or else the same ones of the
caller. -/
def SeeAlike (arguments arguments' : Option (Arguments γ)) (s s' : Scope γ) : Prop :=
  s'.localArguments = s.localArguments ∧ (arguments' = arguments ∨ s.localArguments.isSome)

theorem SeeAlike.stay {arguments arguments' : Option (Arguments γ)}
    (h : SeeAlike arguments arguments' s s') (hstay : StayBeside s s' t t') :
    SeeAlike arguments arguments' t t' := by
  unfold SeeAlike
  rw [hstay.localArguments, hstay.localArguments']
  exact h

theorem SeeAlike.view_eq {b : Bundle γ} {arguments arguments' : Option (Arguments γ)}
    (h : SeeAlike arguments arguments' s s') (hbeside : s.Beside s') :
    (Environment.mk b arguments').view s' = (Environment.mk b arguments).view s := by
  obtain ⟨hlocals, hcaller⟩ := h
  have hargument : (Environment.mk b arguments').argument? s' =
      (Environment.mk b arguments).argument? s := by
    funext name
    unfold Environment.argument?
    rw [hlocals]
    rcases hcaller with rfl | hsome
    · rfl
    · obtain ⟨given, hgiven⟩ := Option.isSome_iff_exists.1 hsome
      rw [hgiven]
  simp only [Environment.view, hargument, Scope.inTerm, hlocals, hbeside.locale]

end Scope

section Alongside

variable [FormatterSource] {γ α : Type} {s s' : Scope γ}

/-- Two runs from two scopes come to one value and add the same errors, whether errors are collected
or not. -/
def Alongside (run run' : Scope γ → Ending γ α) (s s' : Scope γ) : Prop :=
  ∃ a added t t', Agrees run s a added t ∧ Agrees run' s' a added t' ∧ Scope.StayBeside s s' t t'

theorem alongside_fallBack (e : ResolverError) (fallback : Option String) (h : s.Beside s') :
    Alongside (Scope.fallBack e fallback) (Scope.fallBack e fallback) s s' :=
  ⟨_, _, s, s', agrees_fallBack e fallback s, agrees_fallBack e fallback s', h.stay⟩

theorem alongside_within {enter : Scope γ → Except ResolverError (Scope γ)}
    {leave : Scope γ → Scope γ} {fallback : Option String}
    {body body' : Scope γ → Ending γ (Value γ)} (hblind : ErrorBlind enter)
    (hleave : ∀ (u : Scope γ) errors, leave (u.withErrors errors) = (leave u).withErrors errors)
    (hstay : ∀ u u' : Scope γ, u.Beside u' → Scope.StayBeside u u' (leave u) (leave u'))
    (h : s.Beside s') (henter : Scope.EnterAlike enter s s')
    (hbody : ∀ t t', Scope.StayBeside s s' t t' → Alongside body body' t t') :
    Alongside (Scope.within enter leave fallback body) (Scope.within enter leave fallback body')
      s s' := by
  rcases henter with ⟨t, t', ht, ht', hentered⟩ | ⟨e, he, he'⟩
  · obtain ⟨a, added, u, u', hrun, hrun', hran⟩ := hbody t t' hentered
    exact ⟨a, added, leave u, leave u', hrun.within_ok hblind hleave ht,
      hrun'.within_ok hblind hleave ht', (hentered.trans hran).trans (hstay u u' hran.beside)⟩
  · exact ⟨_, _, s, s', agrees_within_error hblind he, agrees_within_error hblind he', h.stay⟩

end Alongside

/-! ## Steps -/

namespace Environment

variable [FormatterSource] {γ α : Type} {b : Bundle γ} {arguments arguments' : Option (Arguments γ)}
  {resolver resolver' : Resolver γ} {inner : Expression → Prop} {allowed : ResolverError → Prop}
  {s s' : Scope γ}

/-- Flat steps that see the same go in lockstep if the inner expressions do. -/
theorem run_flat_alongside
    (hr : ∀ e, inner e → ∀ t t' : Scope γ, t.Beside t' →
      Scope.SeeAlike arguments arguments' t t' → Alongside (resolver e) (resolver' e) t t')
    (m : Resolving γ α) (hm : m.Flat inner allowed) (h : s.Beside s')
    (hsees : Scope.SeeAlike arguments arguments' s s') :
    Alongside ((Environment.mk b arguments).run resolver m)
      ((Environment.mk b arguments').run resolver' m) s s' := by
  induction m generalizing s s' with
  | pure a => exact ⟨a, [], s, s', .of_silent fun _ => rfl, .of_silent fun _ => rfl, h.stay⟩
  | bind m next ihm ihnext =>
      obtain ⟨c, first, t, t', hfirst, hfirst', hstay⟩ := ihm hm.1 h hsees
      obtain ⟨a, second, u, u', hnext, hnext', hstay'⟩ :=
        ihnext c (hm.2 c) hstay.beside (hsees.stay hstay)
      exact ⟨a, first ++ second, u, u', agrees_bind hfirst hnext, agrees_bind hfirst' hnext',
        hstay.trans hstay'⟩
  | look =>
      let view := (Environment.mk b arguments).view s
      have hview : (Environment.mk b arguments').view s' = view := hsees.view_eq h
      have hlook (errors : Option (List ResolverError)) :
          (Environment.mk b arguments').run resolver' .look (s'.withErrors errors) =
            .ok view (s'.withErrors errors) := by
        rw [← hview]
        rfl
      exact ⟨view, [], s, s', .of_silent fun _ => rfl, .of_silent hlook, h.stay⟩
  | report e => exact ⟨(), [e], s, s', agrees_report e s, agrees_report e s', h.stay⟩
  | ask question =>
      have hanswer : (question.run s'.formatters).1 = (question.run s.formatters).1 :=
        question.run_fst h.locale
      have hlocale : (question.run s'.formatters).2.locale =
          (question.run s.formatters).2.locale := by
        rw [question.run_locale, question.run_locale, h.locale]
      have hasked := agrees_ask question s'
      rw [hanswer] at hasked
      exact ⟨_, [], _, _, agrees_ask question s, hasked, ⟨h.depth, h.active, hlocale⟩, rfl, rfl⟩
  | inner e => exact hr e hm s s' h hsees
  | opening | withLocal => exact hm.elim

theorem run_fallBack (env : Environment γ) (resolver : Resolver γ) (e : ResolverError)
    (fallback : Option String) (s : Scope γ) :
    env.run resolver (Resolving.fallBack e fallback) s = s.fallBack e fallback := by
  change env.run resolver
    (.bind (.report e) fun _ => .pure (Value.absent fallback : Value γ)) s = _
  simp only [run, Scope.fallBack]
  cases s.report e <;> rfl

theorem run_fallBack_alongside (e : ResolverError) (fallback : Option String) (h : s.Beside s') :
    Alongside ((mk b arguments).run resolver (Resolving.fallBack e fallback))
      ((mk b arguments').run resolver' (Resolving.fallBack e fallback)) s s' := by
  obtain ⟨a, added, t, t', hrun, hrun', hstay⟩ := alongside_fallBack e fallback h
  exact ⟨a, added, t, t', hrun.congr fun _ => run_fallBack _ resolver e fallback _,
    hrun'.congr fun _ => run_fallBack _ resolver' e fallback _, hstay⟩

variable [CustomValue γ]

/-! Of what does not change, the steps depend only on the bundle. -/

theorem showElements_mk (b : Bundle γ) (arguments arguments' : Option (Arguments γ))
    (isolate : Bool) (elements : List Element) :
    (mk b arguments').showElements isolate elements =
      (mk b arguments).showElements isolate elements := by
  induction elements with
  | nil => rfl
  | cons element rest ih =>
      simp only [showElements, ih]
      cases element <;> rfl

theorem showPattern_mk (b : Bundle γ) (arguments arguments' : Option (Arguments γ)) (p : Pattern) :
    (mk b arguments').showPattern p = (mk b arguments).showPattern p := by
  cases p with
  | text s => rfl
  | complex elements => exact showElements_mk b arguments arguments' _ elements

theorem resolveForm_mk (b : Bundle γ) (arguments arguments' : Option (Arguments γ))
    (e : Expression) : (mk b arguments').resolveForm e = (mk b arguments).resolveForm e := by
  cases e with
  | message id attr =>
      simp only [resolveForm, resolveMessage, resolveEntry, showPattern_mk b arguments arguments']
  | term name attr given =>
      simp only [resolveForm, resolveTerm, resolveEntry, showPattern_mk b arguments arguments']
  | select selector variants star =>
      simp only [resolveForm, resolveSelect, resolveDefault, resolveVariant,
        showPattern_mk b arguments arguments']
  | literal | «variable» | call => rfl

omit [CustomValue γ] in
/-- A reference goes in lockstep, whatever arguments are around it, if its pattern does with the
arguments of the reference. -/
theorem run_reference_alongside {given : Option (Arguments γ)} {key : String}
    {body : Resolving γ (Value γ)} (h : s.Beside s')
    (hbody : ∀ t t' : Scope γ, t.Beside t' → t.localArguments = given →
      t'.localArguments = given →
        Alongside ((mk b arguments).run resolver body) ((mk b arguments').run resolver' body)
          t t') :
    Alongside ((mk b arguments).run resolver (.withLocal given (.opening key body)))
      ((mk b arguments').run resolver' (.withLocal given (.opening key body))) s s' := by
  let inside (s : Scope γ) : Scope γ := { s with localArguments := given }
  have hinside : (inside s).Beside (inside s') := ⟨h.depth, h.active, h.locale⟩
  have hopening : Alongside ((mk b arguments).run resolver (.opening key body))
      ((mk b arguments').run resolver' (.opening key body)) (inside s) (inside s') := by
    refine alongside_within (errorBlind_pushEntry key) (fun _ _ => rfl)
      (fun u u' hu => ⟨⟨hu.depth, ?_, hu.locale⟩, rfl, rfl⟩) hinside (hinside.pushEntry key)
      fun t t' ht => ?_
    · exact congrArg List.dropLast hu.active
    · exact hbody t t' ht.beside ht.localArguments ht.localArguments'
  obtain ⟨a, added, t, t', hrun, hrun', hstay⟩ := hopening
  exact ⟨a, added, _, _, agrees_withLocal hrun, agrees_withLocal hrun',
    ⟨hstay.beside.depth, hstay.beside.active, hstay.beside.locale⟩, rfl, rfl⟩

/-- Expressions of a family that holds with each of them what is evaluated on its way, and whose
references all hand over what their patterns see, go in lockstep wherever they see the same. -/
theorem resolveAt_alongside {family : Expression → Prop}
    (hinner : ∀ e, family e → ∀ e' ∈ e.inner, family e')
    (hpattern : ∀ e t p, family e → e.target? = some t → b.targetPattern t = .ok p →
      ∀ e' ∈ p.inner, family e')
    (hcaller : ∀ e t, family e → e.target? = some t →
      arguments' = arguments ∨ (e.localArguments : Option (Arguments γ)).isSome)
    (level : Nat) {e : Expression} (he : family e) (h : s.Beside s')
    (hsees : e.target?.isSome ∨ Scope.SeeAlike arguments arguments' s s') :
    Alongside ((mk b arguments).resolveAt level e) ((mk b arguments').resolveAt level e) s s' := by
  induction level generalizing e s s' with
  | zero => exact alongside_fallBack _ none h
  | succ level ih =>
      have hr (e' : Expression) (he' : family e') (u u' : Scope γ) (hu : u.Beside u')
          (hsee : Scope.SeeAlike arguments arguments' u u') :
          Alongside ((mk b arguments).resolveAt level e') ((mk b arguments').resolveAt level e')
            u u' := ih he' hu (.inr hsee)
      refine alongside_within (errorBlind_descend _) (fun _ _ => rfl)
        (fun u u' hu => ⟨⟨congrArg (· - 1) hu.depth, hu.active, hu.locale⟩, rfl, rfl⟩) h
        (h.descend _) fun t t' ht => ?_
      rw [resolveForm_mk b arguments arguments']
      cases htarget : e.target? with
      | none =>
          have hsees' : Scope.SeeAlike arguments arguments' t t' :=
            (hsees.resolve_left (by simp [htarget])).stay ht
          exact run_flat_alongside (fun e' he' => hr e' (hinner e he e' he')) _
            (flat_resolveForm htarget) ht.beside hsees'
      | some target =>
          rw [resolveForm_of_target htarget]
          cases hp : b.targetPattern target with
          | error err => exact run_fallBack_alongside err (some target.key) ht.beside
          | ok p =>
              refine run_reference_alongside ht.beside fun u u' hu hgiven hgiven' => ?_
              have hsees' : Scope.SeeAlike arguments arguments' u u' := by
                refine ⟨hgiven'.trans hgiven.symm, ?_⟩
                rw [hgiven]
                exact hcaller e target he htarget
              let shown : Resolving γ (Value γ) := Value.text <$> (mk b arguments).showPattern p
              have hflat : shown.Flat (· ∈ p.inner) (fun _ => True) :=
                (Resolving.flat_map _ _).2 (flat_showPattern (fun _ _ => trivial) fun _ h => h)
              exact run_flat_alongside
                (fun e' he' => hr e' (hpattern e target p he htarget hp e' he')) _ hflat hu hsees'

/-- So does a reference in whatever two scopes. -/
theorem resolve_alongside {family : Expression → Prop}
    (hinner : ∀ e, family e → ∀ e' ∈ e.inner, family e')
    (hpattern : ∀ e t p, family e → e.target? = some t → b.targetPattern t = .ok p →
      ∀ e' ∈ p.inner, family e')
    (hcaller : ∀ e t, family e → e.target? = some t →
      arguments' = arguments ∨ (e.localArguments : Option (Arguments γ)).isSome)
    {e : Expression} (he : family e) (htarget : e.target?.isSome) (h : s.Beside s') :
    Alongside ((mk b arguments).resolve e) ((mk b arguments').resolve e) s s' := by
  obtain ⟨a, added, t, t', hrun, hrun', hstay⟩ :=
    resolveAt_alongside hinner hpattern hcaller (b.maxDepth - s.depth) he h (.inl htarget)
  refine ⟨a, added, t, t', hrun.congr fun _ => rfl, hrun'.congr fun errors => ?_, hstay⟩
  simp only [resolve, Scope.withErrors, h.depth]

end Environment

namespace Bundle

variable [FormatterSource] {γ : Type} {b : Bundle γ} {e e' : Expression}

/-- The second expression is evaluated for the first: it stands inside of it, or in the pattern that
the first one refers to. -/
inductive Evaluates (b : Bundle γ) : Expression → Expression → Prop where
  | inner {e e' : Expression} : e' ∈ e.inner → Evaluates b e e'
  | reference {e e' : Expression} {t : Target} {p : Pattern} :
      e.target? = some t → b.targetPattern t = .ok p → e' ∈ p.inner → Evaluates b e e'

/-- No message reference is evaluated for an expression, over any number of references. -/
def FreeOfMessages (b : Bundle γ) (e : Expression) : Prop :=
  ∀ id attr, ¬Relation.ReflTransGen b.Evaluates e (.message id attr)

theorem FreeOfMessages.step (he : b.FreeOfMessages e) (h : b.Evaluates e e') :
    b.FreeOfMessages e' :=
  fun id attr hreaches => he id attr (hreaches.head h)

/-- A reference that is not one to a message hands over its own arguments. -/
theorem FreeOfMessages.hands_over (he : b.FreeOfMessages e) {t : Target}
    (ht : e.target? = some t) : (e.localArguments : Option (Arguments γ)).isSome := by
  cases e with
  | message id attr => exact absurd .refl (he id attr)
  | term name attr given => rfl
  | literal | «variable» | call | select => simp [Expression.target?] at ht

end Bundle

/-! ## Isolation -/

namespace Ending

variable [FormatterSource] {γ α : Type} {s s' : Scope γ}

/-- Two resolutions, each from its own scope, give the same back and add the same errors. -/
def SameFrom (s s' : Scope γ) (r r' : Ending γ α) : Prop :=
  r'.result = r.result ∧
    ∃ added, r.scope.errors = s.errors.map (· ++ added) ∧
      r'.scope.errors = s'.errors.map (· ++ added)

/-- Without collecting, no errors are held at either end. -/
theorem sameFrom_of_not_collecting {r r' : Ending γ α} (hs : s.errors = none)
    (hs' : s'.errors = none) (hkept : r.scope.errors = none) (hkept' : r'.scope.errors = none)
    (hresult : r'.result = r.result) : SameFrom s s' r r' :=
  ⟨hresult, [], by rw [hkept, hs]; rfl, by rw [hkept', hs']; rfl⟩

end Ending

section SameFrom

variable [FormatterSource] {γ α : Type} {run run' : Scope γ → Ending γ α} {s s' t t' : Scope γ}
  {a : α} {added : List ResolverError}

/-- Runs to one value from two scopes of which both collect errors, or neither. -/
theorem Agrees.sameFrom (h : Agrees run s a added t) (h' : Agrees run' s' a added t')
    (hcollect : s'.errors.isSome = s.errors.isSome)
    (hkept : s.errors = none → (run s).scope.errors = none)
    (hkept' : s'.errors = none → (run' s').scope.errors = none) :
    Ending.SameFrom s s' (run s) (run' s') := by
  cases hs : s.errors with
  | some held =>
      obtain ⟨held', hs'⟩ := Option.isSome_iff_exists.1 (hcollect.trans (by rw [hs]; rfl))
      rw [h.of_collecting hs, h'.of_collecting hs']
      exact ⟨rfl, added, by rw [hs]; rfl, by rw [hs']; rfl⟩
  | none =>
      have hs' : s'.errors = none := by simpa [hs] using hcollect
      refine Ending.sameFrom_of_not_collecting hs hs' (hkept hs) (hkept' hs') ?_
      rw [(h.of_not_collecting hs).result, (h'.of_not_collecting hs').result]

end SameFrom

namespace Environment

section

variable [FormatterSource] {γ : Type} [CustomValue γ]

theorem resolve_sameFrom {env env' : Environment γ} {e : Expression} {s s' : Scope γ}
    (h : Alongside (env.resolve e) (env'.resolve e) s s')
    (hcollect : s'.errors.isSome = s.errors.isSome) :
    Ending.SameFrom s s' (env.resolve e s) (env'.resolve e s') := by
  obtain ⟨a, added, t, t', hrun, hrun', -⟩ := h
  exact hrun.sameFrom hrun' hcollect resolve_errors_none resolve_errors_none

/-- References keep arguments apart. Take two scopes that are equally deep, have the same references
open, and both collect errors or both do not; the errors so far and the arguments of a term may be
any. A term for which no message is evaluated gives the same value, or the same error, and adds the
same errors in both, whatever the callers' arguments are. A message does so for one and the same
caller. -/
theorem references_isolate_arguments (b : Bundle γ) :
    (∀ name attr given, b.FreeOfMessages (.term name attr given) →
      ∀ (arguments arguments' : Option (Arguments γ)) (s s' : Scope γ), s.Beside s' →
        s'.errors.isSome = s.errors.isSome →
        Ending.SameFrom s s' ((mk b arguments).resolve (.term name attr given) s)
          ((mk b arguments').resolve (.term name attr given) s')) ∧
    ∀ id attr (arguments : Option (Arguments γ)) (s s' : Scope γ), s.Beside s' →
      s'.errors.isSome = s.errors.isSome →
      Ending.SameFrom s s' ((mk b arguments).resolve (.message id attr) s)
        ((mk b arguments).resolve (.message id attr) s') := by
  constructor
  · intro name attr given hfree arguments arguments' s s' h hcollect
    refine resolve_sameFrom ?_ hcollect
    exact resolve_alongside (fun _ he _ he' => he.step (.inner he'))
      (fun _ _ _ he ht hp _ he' => he.step (.reference ht hp he'))
      (fun _ _ he ht => .inr (he.hands_over ht)) hfree rfl h
  · intro id attr arguments s s' h hcollect
    let anything (_ : Expression) : Prop := True
    have hinner : ∀ e, anything e → ∀ e' ∈ e.inner, anything e' := fun _ _ _ _ => trivial
    refine resolve_sameFrom ?_ hcollect
    exact resolve_alongside hinner (fun _ _ _ _ _ _ _ _ => trivial) (fun _ _ _ _ => .inl rfl)
      trivial rfl h

end

def brandBundle : Bundle Empty :=
  ((Bundle.ofOptions {}).addResource false
    ⟨[⟨"-brand", some (.complex [.placeable (.variable "x")]), .empty⟩]⟩).1

theorem brandBundle_freeOfMessages (given : Option (List Argument)) :
    brandBundle.FreeOfMessages (.term "brand" none given) := by
  have hreaches : ∀ e, Relation.ReflTransGen brandBundle.Evaluates (.term "brand" none given) e →
      e = .term "brand" none given ∨ e = .variable "x" := by
    intro e h
    induction h with
    | refl => exact .inl rfl
    | tail _ hstep ih =>
        rcases ih with rfl | rfl
        · cases hstep with
          | inner he => simp [Expression.inner] at he
          | reference ht hp he =>
              cases ht
              cases hp
              exact .inr (List.mem_singleton.1 he)
        · cases hstep with
          | inner he => simp [Expression.inner] at he
          | reference ht => simp [Expression.target?] at ht
  intro id attr h
  rcases hreaches _ h with h | h <;> cases h

/-- The argument `x` of the caller is not seen in the term, given or not. -/
theorem brandBundle_isolates :
    let inside : Scope Empty := .start brandBundle (some [])
    let outside : Scope Empty := { inside with localArguments := some (.ofList [("x", .text "b")]) }
    let caller : Option (Arguments Empty) := some (.ofList [("x", .text "c")])
    Ending.SameFrom inside outside
      ((mk brandBundle none).resolve (.term "brand" none none) inside)
      ((mk brandBundle caller).resolve (.term "brand" none none) outside) :=
  (references_isolate_arguments brandBundle).1 "brand" none none (brandBundle_freeOfMessages none)
    none _ _ _ ⟨rfl, rfl, rfl⟩ rfl

end Environment

end Phrasebook
