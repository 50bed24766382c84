import Phrasebook.Proofs.Resolution.Matching
import Phrasebook.Proofs.Resolution.Mirroring
import Phrasebook.Proofs.Resolution.Plain

/-!
# Isolation only adds marks

The text of a reference or of a variant is a value like any other, so the marks in it reach whatever
the value reaches. They never reach a choice or a function as long as what chooses variants, and
what functions are called with, is made of literals, variables and calls. Then a bundle that sets
placeables off shows the same texts as one that does not, apart from the marks.
-/

namespace Phrasebook

def isMark (c : Char) : Bool := c == isolateStart || c == isolateEnd

def unmarked (text : String) : String := .ofList (text.toList.filter fun c => !isMark c)

theorem unmarked_append (a b : String) : unmarked (a ++ b) = unmarked a ++ unmarked b := by
  simp [unmarked, String.ofList_append]

theorem unmarked_isolated (text : String) : unmarked (isolated text) = unmarked text := by
  have hstart : unmarked (String.singleton isolateStart) = "" := by decide
  have hend : unmarked (String.singleton isolateEnd) = "" := by decide
  rw [isolated, unmarked_append, unmarked_append, hstart, hend, String.empty_append,
    String.append_empty]

/-- Neither a reference nor a select expression stands in it, at any depth. -/
inductive Expression.Simple : Expression → Prop where
  | literal (l : Literal) : Simple (.literal l)
  | «variable» (name : String) : Simple (.variable name)
  | call (name : String) {arguments : List Argument} :
      (∀ e ∈ arguments.filterMap Argument.expression?, Simple e) → Simple (.call name arguments)

/-- Wherever it chooses a variant or calls a function, it does so by simple expressions. -/
inductive Expression.Tame : Expression → Prop where
  | literal (l : Literal) : Tame (.literal l)
  | «variable» (name : String) : Tame (.variable name)
  | message (id : String) (attr : Option String) : Tame (.message id attr)
  | term (name : String) (attr : Option String) (arguments : Option (List Argument)) :
      Tame (.term name attr arguments)
  | call (name : String) {arguments : List Argument} :
      (∀ e ∈ arguments.filterMap Argument.expression?, e.Simple) → Tame (.call name arguments)
  | select {selector : Expression} {variants : List Variant} (star : UInt64) :
      selector.Simple → (∀ v ∈ variants, ∀ e ∈ v.value.inner, Tame e) →
        Tame (.select selector variants star)

theorem Expression.Simple.tame {e : Expression} (h : e.Simple) : e.Tame := by
  cases h with
  | literal l => exact .literal l
  | «variable» name => exact .variable name
  | call name harguments => exact .call name harguments

theorem Expression.not_simple_of_target {e : Expression} {t : Target} (he : e.target? = some t) :
    ¬e.Simple := by
  intro h
  cases h <;> cases he

def Pattern.Tame (p : Pattern) : Prop := ∀ e ∈ p.inner, e.Tame

def Bundle.isolating [FormatterSource] {γ : Type} (b : Bundle γ) (on : Bool) : Bundle γ :=
  { b with useIsolating := on }

theorem Bundle.Holds.of_target [FormatterSource] {γ : Type} {b : Bundle γ} {t : Target}
    {p : Pattern} (h : b.targetPattern t = .ok p) : b.Holds p := by
  cases t with
  | message id attr => exact ⟨id, attr, .inl h⟩
  | term id attr => exact ⟨id, attr, .inr h⟩

/-- Tame expressions with and without isolation, where texts count without their marks. -/
def Comparison.marks [FormatterSource] {γ : Type} (b : Bundle γ)
    (arguments : Option (Arguments γ)) :
    Comparison γ where
  env := ⟨b.isolating true, arguments⟩
  env' := ⟨b.isolating false, arguments⟩
  Compares stage e e' := stage.given' = stage.given ∧ e.Tame ∧ e' = e
  TextsAlike a a' := unmarked a = unmarked a'
  Exact := Expression.Simple

namespace Comparison

open Environment Resolving

variable [FormatterSource] {γ : Type} [CustomValue γ] {b : Bundle γ}
  {arguments : Option (Arguments γ)} {stage : Stage γ}

omit [CustomValue γ] in
theorem view_marks (hgiven : stage.given' = stage.given) {s s' : Scope γ}
    (hs : stage.Reached s s') :
    (marks b arguments).env'.view s' =
      { (marks b arguments).env.view s with useIsolating := false } := by
  have hsame : s' = s := by
    rw [hs.same, hgiven, ← hs.given]
  rw [hsame]
  rfl

theorem fair_marks (hformatter : b.formatter = none)
    (hblind : CustomValue.Ignores γ fun view => { view with useIsolating := false }) :
    (marks b arguments).Fair where
  maxDepth := rfl
  function _ := rfl
  transformText _ := rfl
  formatter := rfl
  hook h := by
    have hnone : (marks b arguments).env.bundle.formatter = none := hformatter
    simp [hnone] at h
  format _ _ _ he _ _ hs x := by
    rw [view_marks he.1 hs]
    exact (hblind x _).1
  selects _ _ _ he _ _ hs x key := by
    rw [view_marks he.1 hs]
    exact (hblind x _).2 key
  refl _ := rfl
  append a a' c c' ha hc := by
    have ha : unmarked a = unmarked a' := ha
    have hc : unmarked c = unmarked c' := hc
    change unmarked (a ++ c) = unmarked (a' ++ c')
    rw [unmarked_append, unmarked_append, ha, hc]
  marks several a a' h := by
    have h : unmarked a = unmarked a' := h
    change unmarked (if several then isolated a else a) = unmarked a'
    cases several with
    | true => exact (unmarked_isolated a).trans h
    | false => exact h

/-- The patterns behind a reference are the same in both, and tame. -/
theorem parallel_reference_marks (hc : (marks b arguments).Fair)
    (htame : ∀ p, b.Holds p → p.Tame) {e : Expression} {t : Target} (ht : e.target? = some t) :
    (marks b arguments).Parallel stage (Value.Alike (marks b arguments).TextsAlike)
      ((marks b arguments).env.resolveForm e) ((marks b arguments).env'.resolveForm e) := by
  apply parallel_reference hc ht ht (P := fun e₁ e₂ => e₁.Tame ∧ e₂ = e₁)
  · intro e₁ e₂ h
    exact ⟨rfl, h⟩
  · cases hp : b.targetPattern t with
    | error err => exact .inl ⟨err, hp, hp⟩
    | ok p =>
        have hpattern : p.Tame := htame p (.of_target hp)
        exact .inr ⟨p, p, hp, hp, fun _ => .refl fun e he => ⟨hpattern e he, rfl⟩⟩

theorem sound_marks (hc : (marks b arguments).Fair) (htame : ∀ p, b.Holds p → p.Tame) :
    (marks b arguments).Sound := by
  refine ⟨hc.maxDepth, ?_⟩
  rintro stage _ e ⟨hgiven, he, rfl⟩
  have hinner : ∀ e₁ e₂, e₁.Tame ∧ e₂ = e₁ → (marks b arguments).Compares stage e₁ e₂ :=
    fun _ _ h => ⟨hgiven, h⟩
  cases he with
  | literal l => exact .pure (.of_eq rfl)
  | «variable» name =>
      refine (parallel_resolveVariable fun s s' hs => ?_).weaken fun _ _ => .of_eq
      exact congrArg (fun view => view.argument? name) (view_marks hgiven hs)
  | message | term =>
      refine (parallel_reference_marks hc htame rfl).weaken fun v v' h => ⟨h, fun hsimple => ?_⟩
      exact absurd hsimple (Expression.not_simple_of_target rfl)
  | @call name arguments harguments =>
      have hsame : List.Forall₂ (Argument.Matches fun e₁ e₂ => e₁.Simple ∧ e₂ = e₁)
          arguments arguments := Argument.matches_refl fun e he => ⟨harguments e he, rfl⟩
      refine (parallel_resolveCall hc name (fun e₁ e₂ h => ?_) hsame).weaken fun _ _ => .of_eq
      exact ⟨hinner e₁ e₂ ⟨h.1.tame, h.2⟩, h.1⟩
  | @select selector variants star hselector hvariants =>
      have hsame : List.Forall₂ (Variant.Matches fun e₁ e₂ => e₁.Tame ∧ e₂ = e₁)
          variants variants := Variant.matches_refl fun v hv e he => ⟨hvariants v hv e he, rfl⟩
      -- What chooses has the very same value in both; only the text of the variant may differ.
      have hchosen : (marks b arguments).Compares stage selector selector :=
        hinner _ _ ⟨hselector.tame, rfl⟩
      refine (parallel_resolveSelect hc hinner star hchosen hselector hsame).weaken fun v v' h => ?_
      exact ⟨h, nofun⟩

end Comparison

def Outcome.SameButMarks [FormatterSource] (o o' : Outcome) : Prop :=
  o'.result.map unmarked = o.result.map unmarked ∧ o'.errors = o.errors

theorem Ending.Related.sameButMarks [FormatterSource] {γ : Type} {s : Scope γ}
    {r r' : Ending γ String}
    (h : Related (fun a a' => unmarked a = unmarked a') (Stage.ofScope s).Reached r r') :
    (Outcome.ofEnding r).SameButMarks (.ofEnding r') := by
  cases h with
  | ok htexts hS =>
      rw [hS.eq_of_ofScope]
      exact ⟨congrArg Except.ok htexts.symm, rfl⟩
  | error e hS =>
      rw [hS.eq_of_ofScope]
      exact ⟨rfl, rfl⟩

namespace Bundle

section

variable [FormatterSource] {γ : Type} [CustomValue γ]

/-- Where no hook shows values, and every choice and every function call in the entries is by simple
expressions, isolation only adds marks: a call on a tame pattern reports the same errors with it and
without, and the texts are the same apart from the marks. Values of the host must not look whether
texts are set off. -/
theorem isolation_only_marks {b : Bundle γ} (hformatter : b.formatter = none)
    (htame : ∀ p, b.Holds p → p.Tame)
    (hblind : CustomValue.Ignores γ fun view => { view with useIsolating := false })
    (arguments : Option (Arguments γ)) (errors : Option (List ResolverError)) {p : Pattern}
    (hp : p.Tame) :
    ((b.isolating true).formatPattern p arguments errors).SameButMarks
      ((b.isolating false).formatPattern p arguments errors) := by
  let c : Comparison γ := .marks b arguments
  have hc : c.Fair := Comparison.fair_marks hformatter hblind
  have hsound : c.Sound := Comparison.sound_marks hc htame
  let s : Scope γ := .start b errors
  have hshow : c.Parallel (.ofScope s) c.TextsAlike (c.env.showPattern p) (c.env'.showPattern p) :=
    Comparison.parallel_showPattern hc (fun _ _ h => ⟨rfl, h⟩)
      (.refl (P := fun e e' => e.Tame ∧ e' = e) fun e he => ⟨hp e he, rfl⟩)
  rw [formatPattern_eq_resolved, formatPattern_eq_resolved]
  exact (hsound.resolvePattern_related hshow (Stage.reached_ofScope s)).sameButMarks

end

def nestedBundle : Bundle Badge :=
  ((ofOptions {}).addResource false
    ⟨[⟨"m", some (.complex [.text "by ",
        .placeable (.term "t" none (some [.named "x" (.text "a")]))]), .empty⟩,
      ⟨"-t", some (.complex [.placeable (.variable "x"), .text "!"]), .empty⟩]⟩).1

theorem eq_of_nestedBundle_holds {p : Pattern} (h : nestedBundle.Holds p) :
    p = .complex [.text "by ", .placeable (.term "t" none (some [.named "x" (.text "a")]))] ∨
      p = .complex [.placeable (.variable "x"), .text "!"] := by
  obtain ⟨id, attr, h | h⟩ := h
  · obtain ⟨m, hm, hp⟩ := messagePattern_eq_ok h
    have htable : (id, m) ∈ nestedBundle.entries.messages.toList := NameMap.mem_of_get? hm
    obtain ⟨rfl, rfl⟩ : id = "m" ∧ m = _ := by simpa using List.mem_singleton.1 htable
    rcases hp with hp | ⟨a, ha⟩
    · exact .inl (Option.some.inj hp).symm
    · cases ha
  · obtain ⟨t, ht, hp⟩ := termPattern_eq_ok h
    have htable : (id, t) ∈ nestedBundle.entries.terms.toList := NameMap.mem_of_get? ht
    obtain ⟨rfl, rfl⟩ : id = "-t" ∧ t = _ := by simpa using List.mem_singleton.1 htable
    rcases hp with hp | ⟨a, ha⟩
    · exact .inr hp.symm
    · cases ha

theorem nestedBundle_tame {p : Pattern} (h : nestedBundle.Holds p) : p.Tame := by
  rcases eq_of_nestedBundle_holds h with rfl | rfl
  · intro e he
    obtain rfl := List.mem_singleton.1 he
    exact .term _ _ _
  · intro e he
    obtain rfl := List.mem_singleton.1 he
    exact .variable _

/-- Each text that is set off keeps its own marks when it is set off again. -/
theorem nestedBundle_marks :
    let p : Pattern := .complex [.placeable (.message "m" none), .text "."]
    let call (on : Bool) : Outcome := (nestedBundle.isolating on).formatPattern p none (some [])
    (call true).result = .ok "\u2068by \u2068\u2068a\u2069!\u2069\u2069." ∧
    (call false).result = .ok "by a!." ∧ (call true).SameButMarks (call false) := by
  intro p call
  have hp : p.Tame := by
    intro e he
    obtain rfl := List.mem_singleton.1 he
    exact .message _ _
  refine ⟨rfl, rfl, ?_⟩
  exact isolation_only_marks rfl (fun _ => nestedBundle_tame) (Badge.ignores _) none (some []) hp

end Bundle

end Phrasebook
