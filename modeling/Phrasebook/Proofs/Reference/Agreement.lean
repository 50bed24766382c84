import Mathlib.Logic.Relation
import Phrasebook.Proofs.Reference.Foresight
import Phrasebook.Proofs.Resolution.Chains

/-!
# Where the check and a run agree

The check and the resolver look a reference up in two ways of their own. For a reference without
call arguments they come to the same end: where the check finds something wrong, a run reports just
that and has no text, and elsewhere there is a text. The check does not look at whether a message
has a value, though; a reference to one without is not warned about.
-/

namespace Phrasebook

/-- A reference that is no call with arguments, and what it leads to. -/
inductive Expression.Bare : Expression → Target → Prop where
  | message (id : String) (attr : Option String) : Bare (.message id attr) (.message id attr)
  | term (name : String) (attr : Option String) :
      Bare (.term name attr none) (.term (termId name) attr)
  | call (name : String) (attr : Option String) :
      Bare (.term name attr (some [])) (.term (termId name) attr)

theorem Expression.Bare.target? {e : Expression} {t : Target} (h : e.Bare t) :
    e.target? = some t := by
  cases h <;> rfl

namespace Bundle

variable [FormatterSource] {γ : Type}

/-- The target is the value of a message that is registered without one. -/
def LacksValue (b : Bundle γ) (t : Target) : Prop :=
  ∃ id m, t = .message id none ∧ b.message? id = some m ∧ m.value = none

/-- What a run finds for a target, and what the check says about a reference to it. -/
inductive LookedUp (b : Bundle γ) (t : Target) :
    Except ResolverError Pattern → List ReferenceProblem → Prop where
  | found (p : Pattern) : ¬b.LacksValue t → LookedUp b t (.ok p) []
  | missed (problem : ReferenceProblem) :
      ¬b.LacksValue t → LookedUp b t (.error problem.error) [problem]
  | valueless (id : String) : b.LacksValue t → LookedUp b t (.error (.missingValue id)) []

variable {b : Bundle γ}

theorem not_lacksValue_attribute (id attr : String) : ¬b.LacksValue (.message id (some attr)) := by
  rintro ⟨_, _, h, -⟩
  cases h

theorem not_lacksValue_term (id : String) (attr : Option String) :
    ¬b.LacksValue (.term id attr) := by
  rintro ⟨_, _, h, -⟩
  cases h

theorem lookedUp_message (id : String) (attr : Option String) :
    b.LookedUp (.message id attr) (b.messagePattern id attr) (b.messageProblems id attr) := by
  unfold messagePattern messageProblems
  cases hm : b.message? id with
  | none =>
      refine .missed (.unknownMessage id _) ?_
      rintro ⟨id', m, hid, hm', -⟩
      cases hid
      simp [hm] at hm'
  | some m =>
      dsimp only
      cases attr with
      | none =>
          cases hvalue : m.value with
          | none => exact .valueless id ⟨id, m, rfl, hm, hvalue⟩
          | some p =>
              refine .found p ?_
              rintro ⟨id', m', hid, hm', hnone⟩
              cases hid
              obtain rfl : m = m' := Option.some.inj (hm.symm.trans hm')
              simp [hvalue] at hnone
      | some attr =>
          have hvalue := b.not_lacksValue_attribute id attr
          cases ha : m.attributes.get? attr with
          | none =>
              simp only [NameMap.contains, ha]
              exact .missed (.unknownMessageAttribute id attr) hvalue
          | some p =>
              simp only [NameMap.contains, ha]
              exact .found p hvalue

theorem lookedUp_term (name : String) (attr : Option String) :
    b.LookedUp (.term (Expression.termId name) attr) (b.termPattern (Expression.termId name) attr)
      (b.termProblems name attr) := by
  have hvalue := b.not_lacksValue_term (Expression.termId name) attr
  unfold termPattern termProblems
  dsimp only
  cases ht : b.term? (Expression.termId name) with
  | none => exact .missed (.unknownTerm _ _) hvalue
  | some t =>
      dsimp only
      cases attr with
      | none => exact .found t.value hvalue
      | some attr =>
          cases ha : t.attributes.get? attr with
          | none =>
              simp only [NameMap.contains, ha]
              exact .missed (.unknownTermAttribute _ attr) hvalue
          | some p =>
              simp only [NameMap.contains, ha]
              exact .found p hvalue

theorem lookedUp {e : Expression} {t : Target} (h : e.Bare t) :
    b.LookedUp t (b.targetPattern t) (e.problems b) := by
  cases h with
  | message id attr => exact lookedUp_message id attr
  | term name attr => exact lookedUp_term name attr
  | call name attr =>
      have hproblems : (Expression.term name attr (some [])).problems b =
          b.termProblems name attr := by
        simp [Expression.problems, Argument.listProblems]
      rw [hproblems]
      exact lookedUp_term name attr

end Bundle

/-- The expression stands in the pattern where a run may resolve it, at any depth. -/
def Pattern.Places (p : Pattern) (e : Expression) : Prop :=
  ∃ outer ∈ p.inner, Relation.ReflTransGen (fun outer inner => inner ∈ outer.inner) outer e

theorem Pattern.Places.mem_problems [FormatterSource] {γ : Type} {b : Bundle γ} {p : Pattern}
    {e : Expression}
    (h : p.Places e) {problem : ReferenceProblem} (hproblem : problem ∈ e.problems b) :
    problem ∈ p.problems b := by
  obtain ⟨outer, houter, hpath⟩ := h
  have hmem : problem ∈ outer.problems b := by
    clear houter
    induction hpath using Relation.ReflTransGen.head_induction_on with
    | refl => exact hproblem
    | head hinner _ ih => exact Expression.mem_problems_of_inner hinner ih
  exact Pattern.mem_problems_of_inner houter hmem

namespace Environment

variable [FormatterSource] {γ : Type} [CustomValue γ] {env : Environment γ} {s : Scope γ}
  {e : Expression} {t : Target}

/-- Without a pattern a reference stands for its name, and only that is reported. -/
theorem resolve_of_missing (hd : s.depth < env.bundle.maxDepth) (he : e.target? = some t)
    {err : ResolverError} (ht : env.bundle.targetPattern t = .error err) :
    Agrees (env.resolve e) s (.absent (some t.key)) [err] s := by
  apply resolve_of_form hd
  rw [resolveForm_of_target he, ht]
  let deeper : Scope γ := { s with depth := s.depth + 1 }
  have hreport : Agrees (env.run env.resolve (.report err)) deeper () [err] deeper :=
    agrees_report err deeper
  exact agrees_bind hreport (agrees_pure _ deeper)

/-- A reference that is not open yet stands for a text wherever it leads to a pattern. -/
theorem exists_text_of_found (hd : s.depth < env.bundle.maxDepth) (he : e.target? = some t)
    {p : Pattern} (ht : env.bundle.targetPattern t = .ok p) (hclosed : t.key ∉ s.active) :
    ∃ text added after, Agrees (env.resolve e) s (.text text) added after := by
  obtain ⟨text, added, after, hp⟩ := env.resolvePattern_agreeing p { s with
    depth := s.depth + 1
    localArguments := e.localArguments
    active := s.active ++ [t.key] }
  exact ⟨text, added, _, resolve_of_shown hd he ht hclosed hp⟩

end Environment

namespace Bundle

section

variable [FormatterSource] {γ : Type} [CustomValue γ]

/-- From a new scope that collects errors, a reference without call arguments resolves to a text or
to nothing. It resolves to nothing exactly where the check finds a problem, which is then the only
error and has a warning wherever the reference is registered, and for the value of a message that
has none, which the check does not look at. -/
theorem bare_references_fail_where_warned {b : Bundle γ} (hdepth : 0 < b.maxDepth)
    {e : Expression} {t : Target} (h : e.Bare t) (arguments : Option (Arguments γ))
    (held : List ResolverError) :
    ∃ v after, (Environment.mk b arguments).resolve e (.start b (some held)) = .ok v after ∧
      (v.isAbsent = true ↔ e.problems b ≠ [] ∨ b.LacksValue t) ∧
      (v.isAbsent = false → ∃ text, v = .text text) ∧
      ∀ problem ∈ e.problems b,
        v = .absent (some t.key) ∧ after.errors = some (held ++ [problem.error]) ∧
        ∀ p, b.Holds p → p.Places e → b.Warns problem := by
  let env : Environment γ := ⟨b, arguments⟩
  let start : Scope γ := .start b (some held)
  have hmissing {err : ResolverError} (ht : b.targetPattern t = .error err) :
      env.resolve e start =
        .ok (.absent (some t.key)) (start.withErrors (some (held ++ [err]))) := by
    have hagrees : Agrees (env.resolve e) start (.absent (some t.key)) [err] start :=
      Environment.resolve_of_missing hdepth h.target? ht
    exact hagrees.of_collecting rfl
  have hlookedUp := b.lookedUp h
  generalize hproblems : e.problems b = problems at hlookedUp
  generalize hpattern : b.targetPattern t = pattern at hlookedUp
  cases hlookedUp with
  | found p hvalue =>
      obtain ⟨text, added, after, hagrees⟩ : ∃ text added after,
          Agrees (env.resolve e) start (.text text) added after :=
        Environment.exists_text_of_found hdepth h.target? hpattern List.not_mem_nil
      exact ⟨.text text, _, hagrees.of_collecting rfl, by simp [Value.isAbsent, hvalue],
        fun _ => ⟨text, rfl⟩, by simp⟩
  | missed problem hvalue =>
      refine ⟨_, _, hmissing hpattern, by simp [Value.isAbsent], by simp [Value.isAbsent], ?_⟩
      intro problem' hproblem
      obtain rfl : problem' = problem := List.mem_singleton.1 hproblem
      refine ⟨rfl, rfl, fun p hp hplaced => hp.warns _ (hplaced.mem_problems ?_)⟩
      rw [hproblems]
      exact hproblem
  | valueless id hvalue =>
      exact ⟨_, _, hmissing hpattern, by simp [Value.isAbsent, hvalue], by simp [Value.isAbsent],
        by simp⟩

end

def caselessBundle : Bundle Empty :=
  ((ofOptions {}).addResource false
    ⟨[⟨"-brand", some (.text "Firefly"), .empty⟩,
      ⟨"about", some (.complex [.placeable (.term "brand" (some "case") none)]), .empty⟩]⟩).1

theorem caseless_reference_fails_where_warned :
    let e : Expression := .term "brand" (some "case") none
    0 < caselessBundle.maxDepth ∧ e.Bare (.term "-brand" (some "case")) ∧
    ∃ v after, (Environment.mk caselessBundle none).resolve e (.start caselessBundle (some [])) =
        .ok v after ∧
      v.isAbsent = true ∧ after.errors = some [.unknownTermAttribute "-brand" "case"] ∧
      caselessBundle.Warns (.unknownTermAttribute "-brand" "case") := by
  intro e
  have hdepth : 0 < caselessBundle.maxDepth := by decide
  have hbare : e.Bare (.term "-brand" (some "case")) := .term "brand" (some "case")
  have hproblems : e.problems caselessBundle = [.unknownTermAttribute "-brand" "case"] := by decide
  have hplaced : (Pattern.complex [.placeable e]).Places e := ⟨e, List.mem_singleton.2 rfl, .refl⟩
  obtain ⟨v, after, hresolved, habsent, -, hproblem⟩ :=
    bare_references_fail_where_warned hdepth hbare none []
  obtain ⟨-, herrors, hwarns⟩ := hproblem _ (hproblems ▸ List.mem_singleton.2 rfl)
  exact ⟨hdepth, hbare, v, after, hresolved, habsent.2 (.inl (by simp [hproblems])), herrors,
    hwarns _ ⟨"about", none, .inl rfl⟩ hplaced⟩

/-- The message `m` shows the message `a`, which has an attribute and no value. -/
def valuelessBundle : Bundle Empty :=
  ((ofOptions {}).addResource false
    ⟨[⟨"m", some (.complex [.placeable (.message "a" none)]), .empty⟩,
      ⟨"a", none, .ofList [("x", .text "y")]⟩]⟩).1

theorem valueless_reference_fails_unwarned :
    0 < valuelessBundle.maxDepth ∧
    (Expression.message "a" none).Bare (.message "a" none) ∧
    (Expression.message "a" none).problems valuelessBundle = [] ∧
    valuelessBundle.checkReferences = [] ∧
    (∃ after, (Environment.mk valuelessBundle none).resolve (.message "a" none)
        (.start valuelessBundle (some [])) = .ok (.absent (some "a")) after ∧
      after.errors = some [.missingValue "a"]) ∧
    (valuelessBundle.formatMessage "m" none (some [])).result = .ok "\x7ba\x7d" :=
  ⟨by decide, .message "a" none, by decide, by decide, ⟨_, rfl, rfl⟩, rfl⟩

end Bundle

end Phrasebook
