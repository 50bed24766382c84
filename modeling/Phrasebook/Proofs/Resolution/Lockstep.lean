import Phrasebook.Proofs.Resolution.Descent

/-!
# Runs in lockstep

Two resolutions from one scope, perhaps of different expressions on different bundles, go in
lockstep if they report the same errors, ask for the same formats and open the same references.
They may see different arguments of a term, and come to different values as long as these are
related. What is compared with what may depend on the references that are open: a reference that
is open already is not entered by either run, whatever it leads to.
-/

namespace Phrasebook

/-- Where two runs are: the references that are open in both, and the arguments of a term that
count in the first and in the second. Both are inside a term, or neither. -/
structure Stage (γ : Type) where
  active : List String
  given : Option (Arguments γ)
  given' : Option (Arguments γ)
  inTerm : given'.isSome = given.isSome

namespace Stage

variable [FormatterSource] {γ : Type} {stage : Stage γ} {s s' : Scope γ}

structure Reached (stage : Stage γ) (s s' : Scope γ) : Prop where
  active : s.active = stage.active
  given : s.localArguments = stage.given
  same : s' = { s with localArguments := stage.given' }

def ofScope (s : Scope γ) : Stage γ := ⟨s.active, s.localArguments, s.localArguments, rfl⟩

def push (stage : Stage γ) (key : String) : Stage γ :=
  { stage with active := stage.active ++ [key] }

def withLocal (stage : Stage γ) (given given' : Option (Arguments γ))
    (h : given'.isSome = given.isSome) : Stage γ :=
  ⟨stage.active, given, given', h⟩

theorem reached_ofScope (s : Scope γ) : (ofScope s).Reached s s := ⟨rfl, rfl, rfl⟩

theorem Reached.eq_of_ofScope {t u u' : Scope γ} (h : (ofScope t).Reached u u') : u' = u := by
  obtain ⟨-, hgiven, rfl⟩ := h
  simp only [ofScope] at hgiven ⊢
  rw [← hgiven]

end Stage

namespace Ending

variable [FormatterSource] {γ α β : Type}

/-- Both runs end with related values, or both stop with the same error, in related scopes. -/
inductive Related (R : α → β → Prop) (S : Scope γ → Scope γ → Prop) :
    Ending γ α → Ending γ β → Prop where
  | ok {a : α} {b : β} {s s' : Scope γ} : R a b → S s s' → Related R S (.ok a s) (.ok b s')
  | error (e : ResolverError) {s s' : Scope γ} : S s s' → Related R S (.error e s) (.error e s')

variable {R : α → β → Prop} {S S' : Scope γ → Scope γ → Prop}

theorem Related.leave {f f' : Scope γ → Scope γ} {r : Ending γ α} {r' : Ending γ β}
    (h : Related R S r r') (hf : ∀ s s', S s s' → S' (f s) (f' s')) :
    Related R S' (r.leave f) (r'.leave f') := by
  cases h with
  | ok hR hS => exact .ok hR (hf _ _ hS)
  | error e hS => exact .error e (hf _ _ hS)

theorem Related.mono {Q : α → β → Prop} {r : Ending γ α} {r' : Ending γ β} (h : Related R S r r')
    (hQ : ∀ a b, R a b → Q a b) : Related Q S r r' := by
  cases h with
  | ok hR hS => exact .ok (hQ _ _ hR) hS
  | error e hS => exact .error e hS

/-- Runs that come to equal values from one scope end alike altogether. -/
theorem Related.eq {s : Scope γ} {r r' : Ending γ α}
    (h : Related (· = ·) (Stage.ofScope s).Reached r r') : r' = r := by
  cases h with
  | ok hR hS =>
      subst hR
      rw [hS.eq_of_ofScope]
  | error e hS => rw [hS.eq_of_ofScope]

end Ending

namespace Stage.Reached

variable [FormatterSource] {γ α : Type} {stage : Stage γ} {s s' : Scope γ}

theorem report (h : stage.Reached s s') (e : ResolverError) :
    Ending.Related (fun _ _ => True) stage.Reached (s.report e) (s'.report e) := by
  obtain ⟨hactive, hgiven, rfl⟩ := h
  obtain ⟨given, errors, active, depth, formatters⟩ := s
  cases errors with
  | none => exact .error e ⟨hactive, hgiven, rfl⟩
  | some errors => exact .ok trivial ⟨hactive, hgiven, rfl⟩

theorem fallBack (h : stage.Reached s s') (e : ResolverError) {fallback : Option String}
    {R : Value γ → Value γ → Prop} (hR : R (.absent fallback) (.absent fallback)) :
    Ending.Related R stage.Reached (s.fallBack e fallback) (s'.fallBack e fallback) := by
  have hreport := h.report e
  unfold Scope.fallBack
  generalize s.report e = r at hreport
  generalize s'.report e = r' at hreport
  cases hreport with
  | ok _ hS => exact .ok hR hS
  | error e hS => exact .error e hS

theorem ask (h : stage.Reached s s') (question : Formatting α) :
    Ending.Related (· = ·) stage.Reached (s.ask question) (s'.ask question) := by
  obtain ⟨hactive, hgiven, rfl⟩ := h
  exact .ok rfl ⟨hactive, hgiven, rfl⟩

theorem descend (h : stage.Reached s s') (maxDepth : Nat) :
    (∃ t t', s.descend maxDepth = .ok t ∧ s'.descend maxDepth = .ok t' ∧ stage.Reached t t') ∨
      ∃ e, s.descend maxDepth = .error e ∧ s'.descend maxDepth = .error e := by
  obtain ⟨hactive, hgiven, rfl⟩ := h
  unfold Scope.descend
  dsimp only
  split
  · exact .inr ⟨_, rfl, rfl⟩
  · exact .inl ⟨_, _, rfl, rfl, hactive, hgiven, rfl⟩

theorem pushEntry (h : stage.Reached s s') (key : String) :
    (∃ t t', s.pushEntry key = .ok t ∧ s'.pushEntry key = .ok t' ∧ key ∉ stage.active ∧
      (stage.push key).Reached t t') ∨
      ∃ e, s.pushEntry key = .error e ∧ s'.pushEntry key = .error e := by
  obtain ⟨hactive, hgiven, rfl⟩ := h
  by_cases hopen : key ∈ s.active
  · exact .inr ⟨_, Scope.pushEntry_eq_error_iff.2 ⟨hopen, rfl⟩,
      Scope.pushEntry_eq_error_iff.2 ⟨hopen, rfl⟩⟩
  · refine .inl ⟨_, _, Scope.pushEntry_eq_ok_iff.2 ⟨hopen, rfl⟩,
      Scope.pushEntry_eq_ok_iff.2 ⟨hopen, rfl⟩, hactive ▸ hopen, ?_⟩
    exact ⟨congrArg (· ++ [key]) hactive, hgiven, rfl⟩

theorem popEntry {key : String} {t t' : Scope γ} (h : (stage.push key).Reached t t') :
    stage.Reached t.popEntry t'.popEntry := by
  obtain ⟨hactive, hgiven, rfl⟩ := h
  refine ⟨?_, hgiven, rfl⟩
  simp [Scope.popEntry, hactive, Stage.push]

end Stage.Reached

inductive Value.Alike {γ : Type} (texts : String → String → Prop) : Value γ → Value γ → Prop where
  | same (v : Value γ) : Alike texts v v
  | text {a b : String} : texts a b → Alike texts (.text a) (.text b)

theorem Value.Alike.of_eq {γ : Type} {texts : String → String → Prop} {v v' : Value γ}
    (h : v = v') : v.Alike texts v' :=
  h ▸ .same v

theorem Value.Alike.eq {γ : Type} {v v' : Value γ} (h : v.Alike (· = ·) v') : v = v' := by
  cases h with
  | same => rfl
  | text htexts => rw [htexts]

/-- Two environments, which expressions are compared with each other at which stage, which texts
are taken for alike, and which expressions have the very same value in both. -/
structure Comparison [FormatterSource] (γ : Type) where
  env : Environment γ
  env' : Environment γ
  Compares : Stage γ → Expression → Expression → Prop
  TextsAlike : String → String → Prop
  Exact : Expression → Prop

structure Comparison.Relates [FormatterSource] {γ : Type} (c : Comparison γ) (e : Expression)
    (v v' : Value γ) :
    Prop where
  alike : v.Alike c.TextsAlike v'
  exact : c.Exact e → v = v'

theorem Comparison.Relates.of_eq [FormatterSource] {γ : Type} {c : Comparison γ} {e : Expression}
    {v v' : Value γ} (h : v = v') : c.Relates e v v' :=
  ⟨.of_eq h, fun _ => h⟩

/-- From any scopes at a stage on the steps go in lockstep, up to the inner expressions, which are
compared again, and come to related results. -/
inductive Comparison.Parallel [FormatterSource] {γ : Type} (c : Comparison γ) :
    Stage γ → {α β : Type} → (α → β → Prop) → Resolving γ α → Resolving γ β → Prop where
  | pure {stage : Stage γ} {α β : Type} {R : α → β → Prop} {a : α} {b : β} :
      R a b → Parallel c stage R (.pure a) (.pure b)
  | bind {stage : Stage γ} {α β α' β' : Type} {R : α → β → Prop} {Q : α' → β' → Prop}
      {m : Resolving γ α} {m' : Resolving γ β} {next : α → Resolving γ α'}
      {next' : β → Resolving γ β'} :
      Parallel c stage R m m' → (∀ a b, R a b → Parallel c stage Q (next a) (next' b)) →
        Parallel c stage Q (.bind m next) (.bind m' next')
  | weaken {stage : Stage γ} {α β : Type} {R Q : α → β → Prop} {m : Resolving γ α}
      {m' : Resolving γ β} :
      Parallel c stage R m m' → (∀ a b, R a b → Q a b) → Parallel c stage Q m m'
  | look {stage : Stage γ} {R : ScopeView γ → ScopeView γ → Prop} :
      (∀ s s', stage.Reached s s' → R (c.env.view s) (c.env'.view s')) →
        Parallel c stage R .look .look
  | lookFirst {stage : Stage γ} {α β : Type} {R : α → β → Prop}
      {next : ScopeView γ → Resolving γ α} {m' : Resolving γ β} :
      (∀ s s', stage.Reached s s' → Parallel c stage R (next (c.env.view s)) m') →
        Parallel c stage R (.bind .look next) m'
  | report {stage : Stage γ} (e : ResolverError) :
      Parallel c stage (fun _ _ => True) (.report e) (.report e)
  | ask {stage : Stage γ} {α : Type} (question : Formatting α) :
      Parallel c stage (· = ·) (.ask question) (.ask question)
  | inner {stage : Stage γ} {e e' : Expression} :
      c.Compares stage e e' → Parallel c stage (c.Relates e) (.inner e) (.inner e')
  | opening {stage : Stage γ} {R : Value γ → Value γ → Prop} {key : String}
      {body body' : Resolving γ (Value γ)} :
      R (.absent (some key)) (.absent (some key)) →
      (key ∉ stage.active → Parallel c (stage.push key) R body body') →
        Parallel c stage R (.opening key body) (.opening key body')
  | withLocal {stage : Stage γ} {R : Value γ → Value γ → Prop}
      {given given' : Option (Arguments γ)} {body body' : Resolving γ (Value γ)}
      (h : given'.isSome = given.isSome) :
      Parallel c (stage.withLocal given given' h) R body body' →
        Parallel c stage R (.withLocal given body) (.withLocal given' body')

namespace Comparison

open Ending (Related)

variable [FormatterSource] {γ α β : Type} {c : Comparison γ} {stage : Stage γ} {R : α → β → Prop}
  {resolver resolver' : Resolver γ}

def Keeps (c : Comparison γ) (resolver resolver' : Resolver γ) : Prop :=
  ∀ stage e e', c.Compares stage e e' → ∀ s s', stage.Reached s s' →
    Related (c.Relates e) stage.Reached (resolver e s) (resolver' e' s')

theorem Parallel.map {α' β' : Type} {Q : α' → β' → Prop} {f : α → α'} {f' : β → β'}
    {m : Resolving γ α} {m' : Resolving γ β} (hm : c.Parallel stage R m m')
    (hf : ∀ a b, R a b → Q (f a) (f' b)) : c.Parallel stage Q (f <$> m) (f' <$> m') :=
  .bind hm fun a b h => .pure (hf a b h)

theorem Parallel.run (hr : c.Keeps resolver resolver') {m : Resolving γ α} {m' : Resolving γ β}
    (hm : c.Parallel stage R m m') {s s' : Scope γ} (hs : stage.Reached s s') :
    Related R stage.Reached (c.env.run resolver m s) (c.env'.run resolver' m' s') := by
  -- By the rules; the scopes differ from rule to rule, and the stage with them.
  induction hm generalizing s s' with
  | pure hR => exact .ok hR hs
  | @bind _ _ _ _ _ _ _ m m' next next' _ _ ihm ihnext =>
      unfold Environment.run
      have hfirst := ihm hs
      generalize c.env.run resolver m s = r at hfirst
      generalize c.env'.run resolver' m' s' = r' at hfirst
      cases hfirst with
      | ok hR hS => exact ihnext _ _ hR hS
      | error e hS => exact .error e hS
  | weaken _ hQ ih => exact (ih hs).mono hQ
  | look hR => exact .ok (hR s s' hs) hs
  | lookFirst _ ih => exact ih s s' hs hs
  | report e => exact hs.report e
  | ask question => exact hs.ask question
  | inner he => exact hr _ _ _ he s s' hs
  | @opening _ _ key body body' hR _ ih =>
      unfold Environment.run Scope.within
      -- Either both runs are one reference further in, or both find the reference open.
      rcases hs.pushEntry key with ⟨t, t', ht, ht', hkey, hreached⟩ | ⟨e, he, he'⟩
      · rw [ht, ht']
        exact (ih hkey hreached).leave fun _ _ => Stage.Reached.popEntry
      · rw [he, he']
        exact hs.fallBack e hR
  | @withLocal stage _ given given' _ _ h _ ih =>
      unfold Environment.run
      obtain ⟨hactive, hgiven, rfl⟩ := hs
      have hinside : (stage.withLocal given given' h).Reached { s with localArguments := given }
          { s with localArguments := given' } := ⟨hactive, rfl, rfl⟩
      -- Behind the body each run has the arguments again that it had before.
      refine (ih hinside).leave fun u u' hu => ?_
      obtain ⟨huactive, -, rfl⟩ := hu
      exact ⟨huactive, hgiven, rfl⟩

variable [CustomValue γ]

theorem resolveBy_related {e e' : Expression} {R : Value γ → Value γ → Prop}
    (hdepth : c.env'.bundle.maxDepth = c.env.bundle.maxDepth) (hr : c.Keeps resolver resolver')
    (habsent : R (.absent none) (.absent none))
    (hform : c.Parallel stage R (c.env.resolveForm e) (c.env'.resolveForm e')) {s s' : Scope γ}
    (hs : stage.Reached s s') :
    Related R stage.Reached (c.env.resolveBy resolver e s) (c.env'.resolveBy resolver' e' s') := by
  unfold Environment.resolveBy Scope.within
  rw [hdepth]
  rcases hs.descend c.env.bundle.maxDepth with ⟨t, t', ht, ht', hreached⟩ | ⟨err, he, he'⟩
  · rw [ht, ht']
    refine (hform.run hr hreached).leave fun u u' hu => ?_
    obtain ⟨hactive, hgiven, rfl⟩ := hu
    exact ⟨hactive, hgiven, rfl⟩
  · rw [he, he']
    exact hs.fallBack err habsent

/-- A comparison that is right one level deep. -/
structure Sound (c : Comparison γ) : Prop where
  maxDepth : c.env'.bundle.maxDepth = c.env.bundle.maxDepth
  forms : ∀ stage e e', c.Compares stage e e' →
    c.Parallel stage (c.Relates e) (c.env.resolveForm e) (c.env'.resolveForm e')

theorem Sound.keeps_resolveAt (hc : c.Sound) (level : Nat) :
    c.Keeps (c.env.resolveAt level) (c.env'.resolveAt level) := by
  induction level with
  | zero =>
      intro stage e e' _ s s' hs
      unfold Environment.resolveAt
      rw [hc.maxDepth]
      exact hs.fallBack _ (.of_eq rfl)
  | succ level ih =>
      intro stage e e' he s s' hs
      exact resolveBy_related hc.maxDepth ih (.of_eq rfl) (hc.forms stage e e' he) hs

/-- A comparison that is right one level deep is right for whole resolutions. -/
theorem Sound.keeps_resolve (hc : c.Sound) : c.Keeps c.env.resolve c.env'.resolve := by
  intro stage e e' he s s' hs
  -- Scopes at a stage are equally deep, so both runs have as many levels left.
  have hlevel : c.env'.bundle.maxDepth - s'.depth = c.env.bundle.maxDepth - s.depth := by
    rw [hc.maxDepth, hs.same]
  unfold Environment.resolve
  rw [hlevel]
  exact hc.keeps_resolveAt _ stage e e' he s s' hs

/-- Expressions that are not compared themselves go in lockstep if their forms do. -/
theorem Sound.resolve_related (hc : c.Sound) {e e' : Expression} {R : Value γ → Value γ → Prop}
    (habsent : R (.absent none) (.absent none))
    (hform : c.Parallel stage R (c.env.resolveForm e) (c.env'.resolveForm e')) {s s' : Scope γ}
    (hs : stage.Reached s s') :
    Related R stage.Reached (c.env.resolve e s) (c.env'.resolve e' s') := by
  rw [Environment.resolve_eq, Environment.resolve_eq]
  exact resolveBy_related hc.maxDepth hc.keeps_resolve habsent hform hs

theorem Sound.resolvePattern_related (hc : c.Sound) {p p' : Pattern} {R : String → String → Prop}
    (hshow : c.Parallel stage R (c.env.showPattern p) (c.env'.showPattern p')) {s s' : Scope γ}
    (hs : stage.Reached s s') :
    Related R stage.Reached (c.env.resolvePattern p s) (c.env'.resolvePattern p' s') :=
  hshow.run hc.keeps_resolve hs

end Comparison

end Phrasebook
