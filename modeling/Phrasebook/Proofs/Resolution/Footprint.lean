import Phrasebook.Proofs.Resolution.Levels
import Phrasebook.Reference

/-!
# What a resolution can touch

The steps for one level of an expression are confined: the inner expressions that they resolve stand
in the expression or in the pattern of a registered entry, the errors that they report are those
that the reference check predicts or are of a kind that it does not look for, and they never open a
reference inside another one. All of this is read off the steps, before any of them is taken.
-/

namespace Phrasebook

/-- The error that a run reports where the check finds a problem. -/
@[simp] def ReferenceProblem.error : ReferenceProblem → ResolverError
  | .unknownMessage id _ => .unknownMessage id
  | .unknownMessageAttribute id attr => .unknownMessageAttribute id attr
  | .unknownTerm id _ => .unknownTerm id
  | .unknownTermAttribute id attr => .unknownTermAttribute id attr
  | .unknownFunction name _ => .unknownFunction name
  | .invalidDefaultVariant star count => .invalidDefaultVariant star count

/-- Whether an error is of a kind that the check looks for. -/
def ResolverError.isForeseeable : ResolverError → Bool
  | .unknownMessage _ | .unknownMessageAttribute .. | .unknownTerm _ | .unknownTermAttribute ..
  | .unknownFunction _ | .invalidDefaultVariant .. => true
  | .unknownVariable _ | .missingValue _ | .cyclicReference _ | .functionInvocation ..
  | .tooMuchRecursion _ | .formatter .. => false

/-- The errors for some problems are all allowed. -/
def Covers (allowed : ResolverError → Prop) (problems : List ReferenceProblem) : Prop :=
  ∀ p ∈ problems, allowed p.error

section Covers

variable {allowed : ResolverError → Prop}

@[simp] theorem covers_nil : Covers allowed [] := by simp [Covers]

@[simp] theorem covers_singleton {p : ReferenceProblem} :
    Covers allowed [p] ↔ allowed p.error := by
  simp [Covers]

@[simp] theorem covers_append {ps qs : List ReferenceProblem} :
    Covers allowed (ps ++ qs) ↔ Covers allowed ps ∧ Covers allowed qs := by
  simp only [Covers, List.mem_append, or_imp, forall_and]

theorem covers_all (ps : List ReferenceProblem) : Covers (fun _ => True) ps := fun _ _ => trivial

end Covers

namespace Bundle

variable [FormatterSource] {γ : Type}

def Holds (b : Bundle γ) (p : Pattern) : Prop :=
  ∃ id attr, b.messagePattern id attr = .ok p ∨ b.termPattern id attr = .ok p

theorem messagePattern_eq_ok {b : Bundle γ} {id : String} {attr : Option String} {p : Pattern}
    (h : b.messagePattern id attr = .ok p) :
    ∃ m, b.message? id = some m ∧ (m.value = some p ∨ ∃ a, m.attributes.get? a = some p) := by
  unfold messagePattern at h
  cases hm : b.message? id with
  | none => simp [hm] at h
  | some m =>
      refine ⟨m, rfl, ?_⟩
      cases attr with
      | none => cases hv : m.value <;> simp_all
      | some a => exact .inr ⟨a, by cases ha : m.attributes.get? a <;> simp_all⟩

theorem termPattern_eq_ok {b : Bundle γ} {id : String} {attr : Option String} {p : Pattern}
    (h : b.termPattern id attr = .ok p) :
    ∃ t, b.term? id = some t ∧ (t.value = p ∨ ∃ a, t.attributes.get? a = some p) := by
  unfold termPattern at h
  cases ht : b.term? id with
  | none => simp [ht] at h
  | some t =>
      refine ⟨t, rfl, ?_⟩
      cases attr with
      | none => simp_all
      | some a => exact .inr ⟨a, by cases ha : t.attributes.get? a <;> simp_all⟩

/-- All errors that the check does not look for, and those for the problems of the registered
entries. -/
structure Allows (b : Bundle γ) (allowed : ResolverError → Prop) : Prop where
  unforeseeable : ∀ e, e.isForeseeable = false → allowed e
  entries : ∀ p, b.Holds p → Covers allowed (p.problems b)

theorem allows_all (b : Bundle γ) : b.Allows fun _ => True :=
  ⟨fun _ _ => trivial, fun _ _ => covers_all _⟩

section Allows

variable {b : Bundle γ} {allowed : ResolverError → Prop} {e : ResolverError}

theorem Allows.formatter (h : b.Allows allowed) (l : Locale) (reason : FormatError) :
    allowed (.formatter l reason) :=
  h.unforeseeable _ rfl

/-- A message reference fails as its problems say, or because the message has no value. -/
theorem Allows.of_messagePattern (h : b.Allows allowed) {id : String} {attr : Option String}
    (hp : Covers allowed (b.messageProblems id attr)) (he : b.messagePattern id attr = .error e) :
    allowed e := by
  unfold messageProblems at hp
  unfold messagePattern at he
  cases hm : b.message? id with
  | none =>
      simp only [hm, covers_singleton, Except.error.injEq] at hp he
      exact he ▸ hp
  | some message =>
      simp only [hm] at hp he
      cases attr with
      | none =>
          cases hv : message.value with
          | none =>
              simp only [hv, Option.elim_none, Except.error.injEq] at he
              exact he ▸ h.unforeseeable _ rfl
          | some p => simp [hv] at he
      | some attr =>
          cases ha : message.attributes.get? attr with
          | none =>
              simp only [ha, Option.elim_none, Except.error.injEq] at he
              exact he ▸ by simpa [NameMap.contains, ha] using hp
          | some p => simp [ha] at he

theorem Allows.of_termPattern {name : String} {attr : Option String}
    (hp : Covers allowed (b.termProblems name attr))
    (he : b.termPattern (Expression.termId name) attr = .error e) : allowed e := by
  unfold termProblems at hp
  unfold termPattern at he
  cases ht : b.term? (Expression.termId name) with
  | none =>
      simp only [ht, covers_singleton, Except.error.injEq] at hp he
      exact he ▸ hp
  | some term =>
      simp only [ht] at hp he
      cases attr with
      | none => simp at he
      | some attr =>
          cases ha : term.attributes.get? attr with
          | none =>
              simp only [ha, Option.elim_none, Except.error.injEq] at he
              exact he ▸ by simpa [NameMap.contains, ha] using hp
          | some p => simp [ha] at he

end Allows

end Bundle

namespace Resolving

variable {γ α : Type} {inner : Expression → Prop} {allowed : ResolverError → Prop} {n : Nat}

/-- The inner expressions and the reported errors are among the given ones, and at most `n`
references are opened inside each other. -/
def Confined (inner : Expression → Prop) (allowed : ResolverError → Prop) :
    {α : Type} → Resolving γ α → Nat → Prop
  | _, .pure _, _ => True
  | _, .bind m next, n => m.Confined inner allowed n ∧ ∀ a, (next a).Confined inner allowed n
  | _, .look, _ => True
  | _, .report e, _ => allowed e
  | _, .ask _, _ => True
  | _, .inner e, _ => inner e
  | _, .opening _ _, 0 => False
  | _, .opening _ body, n + 1 =>
    (∀ chain, allowed (.cyclicReference chain)) ∧ body.Confined inner allowed n
  | _, .withLocal _ body, n => body.Confined inner allowed n

/-- Flat steps open no reference at all. -/
theorem Flat.confined {m : Resolving γ α} (h : m.Flat inner allowed) :
    m.Confined inner allowed n := by
  induction m with
  | bind m next ihm ihnext => exact ⟨ihm h.1, fun a => ihnext a (h.2 a)⟩
  | report e => exact h
  | inner e => exact h
  | opening | withLocal => exact h.elim
  | pure | look | ask => trivial

end Resolving

section Problems

variable [FormatterSource] {γ : Type} {b : Bundle γ} {e inner : Expression}
  {problem : ReferenceProblem}

theorem Argument.listProblems_eq (arguments : List Argument) :
    Argument.listProblems b arguments =
      (arguments.filterMap Argument.expression?).flatMap (Expression.problems b) := by
  induction arguments with
  | nil => rfl
  | cons first rest ih =>
      cases first with
      | positional e => exact congrArg (e.problems b ++ ·) ih
      | named name value => exact ih

theorem Element.listProblems_eq (elements : List Element) :
    Element.listProblems b elements =
      (elements.filterMap Element.expression?).flatMap (Expression.problems b) := by
  induction elements with
  | nil => rfl
  | cons first rest ih =>
      cases first with
      | text s => exact ih
      | placeable e => exact congrArg (e.problems b ++ ·) ih

/-- The problems of a pattern are those of its placeables, one after the other. -/
theorem Pattern.problems_eq (p : Pattern) :
    p.problems b = p.inner.flatMap (Expression.problems b) := by
  cases p with
  | text s => rfl
  | complex elements => exact Element.listProblems_eq elements

theorem Variant.listProblems_eq (variants : List Variant) :
    Variant.listProblems b variants = variants.flatMap fun v => v.value.problems b := by
  induction variants with
  | nil => rfl
  | cons first rest ih =>
      obtain ⟨key, value⟩ := first
      exact congrArg (value.problems b ++ ·) ih

theorem Pattern.mem_problems_of_inner {p : Pattern} (he : e ∈ p.inner)
    (h : problem ∈ e.problems b) : problem ∈ p.problems b := by
  rw [Pattern.problems_eq]
  exact List.mem_flatMap_of_mem he h

/-- The problems of an inner expression are problems of the whole. -/
theorem Expression.mem_problems_of_inner (he : inner ∈ e.inner) (h : problem ∈ inner.problems b) :
    problem ∈ e.problems b := by
  cases e with
  | call name arguments =>
      apply List.mem_append_right
      rw [Argument.listProblems_eq]
      exact List.mem_flatMap_of_mem he h
  | select selector variants star =>
      rcases List.mem_cons.1 he with rfl | he
      · exact List.mem_append_left _ (List.mem_append_left _ h)
      · obtain ⟨v, hv, he⟩ := List.mem_flatMap.1 he
        apply List.mem_append_right
        rw [Variant.listProblems_eq]
        exact List.mem_flatMap_of_mem hv (Pattern.mem_problems_of_inner he h)
  | literal | «variable» | message | term => simp [Expression.inner] at he

/-- One level of an expression reports what its problems say, or an error that is not
foreseeable. -/
theorem Bundle.Allows.of_reports {allowed : ResolverError → Prop} (h : b.Allows allowed)
    (he : Covers allowed (e.problems b)) {err : ResolverError} (hr : b.Reports e err) :
    allowed err := by
  cases hr with
  | formatter _ l reason => exact h.formatter l reason
  | «variable» name => exact h.unforeseeable _ rfl
  | target ht herr =>
      cases e with
      | message id attr =>
          cases ht
          exact h.of_messagePattern he herr
      | term name attr arguments =>
          cases ht
          cases arguments with
          | none => exact Bundle.Allows.of_termPattern he herr
          | some arguments => exact Bundle.Allows.of_termPattern (covers_append.1 he).1 herr
      | literal | «variable» | call | select => simp [Expression.target?] at ht
  | function hf =>
      have hname := (covers_append.1 he).1
      simpa [Bundle.callProblems, hf] using hname
  | invocation name arguments source => exact h.unforeseeable _ rfl
  | star hstar =>
      have hdefault := (covers_append.1 (covers_append.1 he).1).2
      simpa [Bundle.starProblems, hstar] using hdefault

end Problems

namespace Environment

open Resolving

variable [FormatterSource] {γ : Type} [CustomValue γ] {env : Environment γ}
  {allowed : ResolverError → Prop} {n : Nat}

def Covered (env : Environment γ) (allowed : ResolverError → Prop) (e : Expression) : Prop :=
  Covers allowed (e.problems env.bundle)

variable (h : env.bundle.Allows allowed)
include h

theorem confined_showPattern {p : Pattern} (hp : Covers allowed (p.problems env.bundle)) :
    (env.showPattern p).Confined (env.Covered allowed) allowed n := by
  refine Flat.confined (flat_showPattern h.formatter fun e he => ?_)
  exact fun problem hproblem => hp problem (Pattern.mem_problems_of_inner he hproblem)

/-- One level of an expression resolves covered expressions only, reports allowed errors only, and
opens no reference inside another one. -/
theorem confined_resolveForm {e : Expression} (he : env.Covered allowed e) :
    (env.resolveForm e).Confined (env.Covered allowed) allowed 1 := by
  cases ht : e.target? with
  | none =>
      refine ((flat_resolveForm ht).mono (fun e' he' => ?_) fun err => h.of_reports he).confined
      exact fun problem hproblem => he problem (Expression.mem_problems_of_inner he' hproblem)
  | some t =>
      rw [resolveForm_of_target ht]
      cases hp : env.bundle.targetPattern t with
      | error err => exact (flat_fallBack (h.of_reports he (.target ht hp)) _).confined
      | ok p =>
          have hentry : Covers allowed (p.problems env.bundle) := by
            cases t with
            | message id attr => exact h.entries p ⟨id, attr, .inl hp⟩
            | term id attr => exact h.entries p ⟨id, attr, .inr hp⟩
          exact ⟨fun _ => h.unforeseeable _ rfl, confined_showPattern h hentry, fun _ => trivial⟩

end Environment

end Phrasebook
