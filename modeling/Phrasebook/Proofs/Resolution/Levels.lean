import Phrasebook.Resolver

/-!
# One level of an expression

Resolving an expression goes one of two ways. A reference to a pattern that is registered opens that
pattern, with its own arguments in place. Everything else takes flat steps: it resolves expressions
that stand inside of it, it may report errors of its own, and it neither opens a reference nor
touches the arguments of a term. What the errors are and where the inner expressions stand is said
here once.
-/

namespace Phrasebook

def Element.expression? : Element → Option Expression
  | .text _ => none
  | .placeable e => some e

def Argument.expression? : Argument → Option Expression
  | .positional e => some e
  | .named .. => none

def Pattern.inner : Pattern → List Expression
  | .text _ => []
  | .complex elements => elements.filterMap Element.expression?

/-- The expressions that may be resolved for the value of an expression, apart from those in the
pattern that a reference leads to.  The positional arguments of a term are not among them. -/
def Expression.inner : Expression → List Expression
  | .call _ arguments => arguments.filterMap Argument.expression?
  | .select selector variants _ => selector :: variants.flatMap fun v => v.value.inner
  | _ => []

/-! ## What references lead to -/

inductive Target where
  | message (id : String) (attr : Option String)
  | term (id : String) (attr : Option String)
deriving DecidableEq

/-- The name under which a target is open. -/
def Target.key : Target → String
  | .message id attr => dotted id attr
  | .term id attr => dotted id attr

def Expression.target? : Expression → Option Target
  | .message id attr => some (.message id attr)
  | .term name attr _ => some (.term (termId name) attr)
  | _ => none

/-- The arguments of a term that count in the pattern that a reference leads to. -/
def Expression.localArguments {γ : Type} : Expression → Option (Arguments γ)
  | .term _ _ arguments => some (namedValues (arguments.getD []))
  | _ => none

namespace Bundle

variable [FormatterSource] {γ : Type} (b : Bundle γ)

def targetPattern : Target → Except ResolverError Pattern
  | .message id attr => b.messagePattern id attr
  | .term id attr => b.termPattern id attr

/-- The errors that one level of an expression may report, apart from a reference that is open
already. -/
inductive Reports : Expression → ResolverError → Prop where
  | formatter (e : Expression) (l : Locale) (reason : FormatError) : Reports e (.formatter l reason)
  | «variable» (name : String) : Reports (.variable name) (.unknownVariable name)
  | target {e : Expression} {t : Target} {err : ResolverError} :
      e.target? = some t → b.targetPattern t = .error err → Reports e err
  | function {name : String} {arguments : List Argument} :
      b.function? name = none → Reports (.call name arguments) (.unknownFunction name)
  | invocation (name : String) (arguments : List Argument) (source : FunctionError) :
      Reports (.call name arguments) (.functionInvocation name source)
  | star {selector : Expression} {variants : List Variant} {star : UInt64} :
      variants.length ≤ star.toNat →
        Reports (.select selector variants star) (.invalidDefaultVariant star variants.length)

end Bundle

/-! ## Flat steps -/

namespace Resolving

variable {γ α β : Type} {inner : Expression → Prop} {allowed : ResolverError → Prop}

/-- Steps that open no reference and put no arguments in place; the inner expressions and the
reported errors are among the given ones. -/
def Flat (inner : Expression → Prop) (allowed : ResolverError → Prop) :
    {α : Type} → Resolving γ α → Prop
  | _, .pure _ => True
  | _, .bind m next => m.Flat inner allowed ∧ ∀ a, (next a).Flat inner allowed
  | _, .look => True
  | _, .report e => allowed e
  | _, .ask _ => True
  | _, .inner e => inner e
  | _, .opening .. => False
  | _, .withLocal .. => False

@[simp] theorem flat_pure (a : α) : (pure a : Resolving γ α).Flat inner allowed := trivial

@[simp] theorem flat_look : (look : Resolving γ _).Flat inner allowed := trivial

@[simp] theorem flat_ask (question : Formatting α) :
    (ask question : Resolving γ α).Flat inner allowed := trivial

@[simp] theorem flat_bind (m : Resolving γ β) (next : β → Resolving γ α) :
    (m >>= next).Flat inner allowed ↔
      m.Flat inner allowed ∧ ∀ a, (next a).Flat inner allowed := Iff.rfl

@[simp] theorem flat_map (f : α → β) (m : Resolving γ α) :
    (f <$> m).Flat inner allowed ↔ m.Flat inner allowed :=
  (flat_bind m (pure ∘ f)).trans (and_iff_left fun _ => trivial)

theorem Flat.mono {inner' : Expression → Prop} {allowed' : ResolverError → Prop}
    {m : Resolving γ α} (h : m.Flat inner allowed) (hinner : ∀ e, inner e → inner' e)
    (hallowed : ∀ err, allowed err → allowed' err) : m.Flat inner' allowed' := by
  induction m with
  | bind m next ihm ihnext => exact ⟨ihm h.1, fun a => ihnext a (h.2 a)⟩
  | report e => exact hallowed e h
  | inner e => exact hinner e h
  | opening | withLocal => exact h.elim
  | pure | look | ask => trivial

theorem flat_fallBack {e : ResolverError} (he : allowed e) (fallback : Option String) :
    (fallBack e fallback : Resolving γ _).Flat inner allowed := by
  refine (flat_bind _ _).2 ⟨he, fun _ => ?_⟩
  exact flat_pure _

theorem flat_askOr (ha : ∀ l reason, allowed (.formatter l reason)) (fallback : α)
    (question : Formatting (Except FormatError α)) :
    (askOr fallback question : Resolving γ α).Flat inner allowed := by
  refine (flat_bind _ _).2 ⟨flat_ask question, fun r => ?_⟩
  cases r with
  | ok a => exact flat_pure a
  | error reason => exact ⟨trivial, fun view => ⟨ha view.locale reason, fun _ => trivial⟩⟩

theorem flat_categoryOf (ha : ∀ l reason, allowed (.formatter l reason)) (v : Value γ) :
    (categoryOf v).Flat inner allowed := by
  cases v with
  | number x => exact flat_askOr ha none _
  | text | instant | absent | custom => exact flat_pure none

end Resolving

/-! ## The steps of one level -/

namespace Environment

open Resolving

section

variable {γ : Type} {inner : Expression → Prop} {allowed : ResolverError → Prop}

theorem flat_resolveVariable {name : String} (hname : allowed (.unknownVariable name)) :
    (resolveVariable name : Resolving γ _).Flat inner allowed := by
  refine (flat_bind _ _).2 ⟨flat_look, fun view => ?_⟩
  cases view.argument? name with
  | some v => exact flat_pure v
  | none =>
      cases view.inTerm with
      | true => exact flat_pure _
      | false => exact (flat_bind _ _).2 ⟨hname, fun _ => flat_pure _⟩

theorem flat_resolvePositional {arguments : List Argument}
    (he : ∀ e ∈ arguments.filterMap Argument.expression?, inner e) :
    (resolvePositional arguments : Resolving γ _).Flat inner allowed := by
  induction arguments with
  | nil => exact flat_pure []
  | cons argument rest ih =>
      have hsublist := (List.sublist_cons_self argument rest).filterMap Argument.expression?
      have hrest : ∀ e ∈ rest.filterMap Argument.expression?, inner e :=
        fun e hmem => he e (hsublist.subset hmem)
      cases argument with
      | positional e =>
          have hinner : inner e := he e (List.mem_filterMap.2 ⟨_, List.mem_cons_self, rfl⟩)
          refine (flat_bind _ _).2 ⟨hinner, fun _ => ?_⟩
          exact (flat_bind _ _).2 ⟨ih hrest, fun _ => flat_pure _⟩
      | named name value => exact ih hrest

theorem flat_renderBuiltin [CustomValue γ] (ha : ∀ l reason, allowed (.formatter l reason))
    (v : Value γ) : (renderBuiltin v).Flat inner allowed := by
  cases v with
  | text s => exact flat_pure s
  | number x => exact flat_askOr ha _ _
  | instant t => exact flat_askOr ha _ _
  | absent fallback => exact flat_pure _
  | custom c => exact ⟨trivial, fun _ => trivial⟩

end

variable [FormatterSource] {γ : Type} [CustomValue γ] {env : Environment γ}
  {inner : Expression → Prop} {allowed : ResolverError → Prop}

theorem flat_render (ha : ∀ l reason, allowed (.formatter l reason)) (v : Value γ) :
    (env.render v).Flat inner allowed := by
  unfold render
  cases env.bundle.formatter with
  | none => exact flat_renderBuiltin ha v
  | some formatter =>
      refine (flat_bind _ _).2 ⟨flat_ask _, fun shown => ?_⟩
      cases shown with
      | none => exact flat_renderBuiltin ha v
      | some text => exact flat_pure text

theorem flat_showElements (ha : ∀ l reason, allowed (.formatter l reason)) {isolate : Bool}
    {elements : List Element} (he : ∀ e ∈ (Pattern.complex elements).inner, inner e) :
    (env.showElements isolate elements).Flat inner allowed := by
  induction elements with
  | nil => exact flat_pure ""
  | cons element rest ih =>
      have hsublist := (List.sublist_cons_self element rest).filterMap Element.expression?
      have hrest : ∀ e ∈ (Pattern.complex rest).inner, inner e :=
        fun e hmem => he e (hsublist.subset hmem)
      have hfirst : (env.showElement isolate element).Flat inner allowed := by
        cases element with
        | text s => exact flat_pure _
        | placeable e =>
            have hinner : inner e := he e (List.mem_filterMap.2 ⟨_, List.mem_cons_self, rfl⟩)
            refine (flat_bind _ _).2 ⟨hinner, fun v => ?_⟩
            exact (flat_bind _ _).2 ⟨flat_render ha v, fun _ => flat_pure _⟩
      refine (flat_bind _ _).2 ⟨hfirst, fun _ => ?_⟩
      exact (flat_bind _ _).2 ⟨ih hrest, fun _ => flat_pure _⟩

/-- The text of a pattern. -/
theorem flat_showPattern (ha : ∀ l reason, allowed (.formatter l reason)) {p : Pattern}
    (hp : ∀ e ∈ p.inner, inner e) : (env.showPattern p).Flat inner allowed := by
  cases p with
  | text s => exact flat_pure _
  | complex elements => exact flat_showElements ha hp

omit [CustomValue γ] in
theorem flat_resolveCall {name : String} {arguments : List Argument}
    (hname : env.bundle.function? name = none → allowed (.unknownFunction name))
    (hsource : ∀ source, allowed (.functionInvocation name source))
    (he : ∀ e ∈ arguments.filterMap Argument.expression?, inner e) :
    (env.resolveCall name arguments).Flat inner allowed := by
  unfold resolveCall
  cases hf : env.bundle.function? name with
  | none => exact flat_fallBack (hname hf) _
  | some f =>
      refine (flat_bind _ _).2 ⟨flat_resolvePositional he, fun positional => ?_⟩
      cases f positional (namedValues arguments) with
      | ok v => exact flat_pure v
      | error source => exact flat_fallBack (hsource source) _

theorem flat_resolveVariant (ha : ∀ l reason, allowed (.formatter l reason)) {v : Variant}
    (hv : ∀ e ∈ v.value.inner, inner e) : (env.resolveVariant v).Flat inner allowed :=
  (flat_map _ _).2 (flat_showPattern ha hv)

theorem flat_resolveDefault (ha : ∀ l reason, allowed (.formatter l reason))
    {variants : List Variant} {star : UInt64}
    (hstar : variants.length ≤ star.toNat →
      allowed (.invalidDefaultVariant star variants.length))
    (hv : ∀ v ∈ variants, ∀ e ∈ v.value.inner, inner e) :
    (env.resolveDefault variants star).Flat inner allowed := by
  unfold resolveDefault
  cases hget : variants[star.toNat]? with
  | some v => exact flat_resolveVariant ha (hv v (List.mem_of_getElem? hget))
  | none => exact flat_fallBack (hstar (List.getElem?_eq_none_iff.1 hget)) _

theorem flat_resolveSelect (ha : ∀ l reason, allowed (.formatter l reason)) {selector : Expression}
    {variants : List Variant} {star : UInt64}
    (hstar : variants.length ≤ star.toNat →
      allowed (.invalidDefaultVariant star variants.length))
    (hselector : inner selector) (hv : ∀ v ∈ variants, ∀ e ∈ v.value.inner, inner e) :
    (env.resolveSelect selector variants star).Flat inner allowed := by
  have hdefault : (env.resolveDefault variants star).Flat inner allowed :=
    flat_resolveDefault ha hstar hv
  refine (flat_bind _ _).2 ⟨hselector, fun v => ?_⟩
  split
  · exact hdefault
  · refine (flat_bind _ _).2 ⟨flat_look, fun view => ?_⟩
    split
    · next hfound => exact flat_resolveVariant ha (hv _ (List.mem_of_find?_eq_some hfound))
    · refine (flat_bind _ _).2 ⟨flat_categoryOf ha v, fun category => ?_⟩
      split
      · next hfound =>
        obtain ⟨category, -, hfound⟩ := Option.bind_eq_some_iff.1 hfound
        exact flat_resolveVariant ha (hv _ (List.mem_of_find?_eq_some hfound))
      · exact hdefault

/-- What is no reference takes flat steps. -/
theorem flat_resolveForm {e : Expression} (he : e.target? = none) :
    (env.resolveForm e).Flat (· ∈ e.inner) (env.bundle.Reports e) := by
  cases e with
  | literal l => exact flat_pure _
  | «variable» name => exact flat_resolveVariable (.variable name)
  | message id attr => simp [Expression.target?] at he
  | term name attr arguments => simp [Expression.target?] at he
  | call name arguments =>
      exact flat_resolveCall .function (.invocation name arguments) fun _ he => he
  | select selector variants star =>
      refine flat_resolveSelect (.formatter _) .star List.mem_cons_self fun v hv e he => ?_
      exact List.mem_cons_of_mem _ (List.mem_flatMap.2 ⟨v, hv, he⟩)

/-- A reference opens the pattern that it leads to, with its own arguments in place. -/
theorem resolveForm_of_target {e : Expression} {t : Target} (he : e.target? = some t) :
    env.resolveForm e =
      match env.bundle.targetPattern t with
      | .error err => fallBack err (some t.key)
      | .ok p => withLocal e.localArguments (env.resolveEntry t.key p) := by
  cases e with
  | message id attr =>
      cases he
      rfl
  | term name attr arguments =>
      cases he
      rfl
  | literal | «variable» | call | select => simp [Expression.target?] at he

end Environment

end Phrasebook
