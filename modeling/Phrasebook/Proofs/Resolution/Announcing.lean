import Phrasebook.Proofs.Resolution.Mirroring

/-!
# Absent values are announced

Inside a term a variable without a value is passed over in silence, since the arguments of a term
are optional. The silence ends with the term: what a reference stands for is a text, also when a
variable is missing in it. So outside of terms an expression is absent only if an error was added
while it was resolved, as long as functions make no absent value out of values that are there.
-/

namespace Phrasebook

section Announces

variable [FormatterSource] {γ α β : Type}

/-- The run ends with a value, whether errors are collected or not, and what is claimed of the value
and of the scope behind it holds unless the run adds an error. -/
def Announces (run : Scope γ → Ending γ α) (s : Scope γ) (claimed : α → Scope γ → Prop) : Prop :=
  ∃ a added t, Agrees run s a added t ∧ (added = [] → claimed a t)

variable {run : Scope γ → Ending γ α} {s : Scope γ} {claimed : α → Scope γ → Prop}

theorem announces_of_forall (h : Agreeing run) (hall : ∀ a t, claimed a t) :
    Announces run s claimed := by
  obtain ⟨a, added, t, hrun⟩ := h s
  exact ⟨a, added, t, hrun, fun _ => hall a t⟩

theorem announces_within {enter : Scope γ → Except ResolverError (Scope γ)}
    {leave : Scope γ → Scope γ} {fallback : Option String} {body : Scope γ → Ending γ (Value γ)}
    {P : Value γ → Prop} (hblind : ErrorBlind enter)
    (hleave : ∀ (u : Scope γ) errors, leave (u.withErrors errors) = (leave u).withErrors errors)
    (hbody : ∀ t, enter s = .ok t → Announces body t fun v _ => P v) :
    Announces (Scope.within enter leave fallback body) s fun v _ => P v := by
  cases hs : enter s with
  | error e => exact ⟨_, [e], s, agrees_within_error hblind hs, by simp⟩
  | ok t =>
      obtain ⟨v, added, u, hrun, hv⟩ := hbody t hs
      exact ⟨v, added, leave u, hrun.within_ok hblind hleave hs, hv⟩

end Announces

namespace Environment

variable [FormatterSource] {γ α β : Type} {env : Environment γ} {resolver : Resolver γ}
  {s : Scope γ}

theorem announces_pure {a : α} {claimed : α → Scope γ → Prop} (h : claimed a s) :
    Announces (env.run resolver (.pure a)) s claimed :=
  ⟨a, [], s, agrees_pure a s, fun _ => h⟩

/-- What the first steps claim may be used for the next ones: if it fails there was an error. -/
theorem announces_bind {m : Resolving γ β} {next : β → Resolving γ α}
    {P : β → Scope γ → Prop} {claimed : α → Scope γ → Prop}
    (hr : ∀ e, Agreeing (resolver e)) (hm : Announces (env.run resolver m) s P)
    (hnext : ∀ b t, P b t → Announces (env.run resolver (next b)) t claimed) :
    Announces (env.run resolver (m.bind next)) s claimed := by
  obtain ⟨b, added, t, hfirst, hb⟩ := hm
  cases added with
  | nil =>
      obtain ⟨a, more, u, hsecond, ha⟩ := hnext b t (hb rfl)
      exact ⟨a, [] ++ more, u, agrees_bind hfirst hsecond, ha⟩
  | cons e rest =>
      -- There is an error already, so nothing need be known of the next steps but that they end.
      have hagree : Agreeing (env.run resolver (next b)) := run_agreeing hr (next b)
      obtain ⟨a, more, u, hsecond⟩ := hagree t
      exact ⟨a, e :: rest ++ more, u, agrees_bind hfirst hsecond, by simp⟩

theorem announces_fallBack (e : ResolverError) (fallback : Option String)
    {claimed : Value γ → Scope γ → Prop} :
    Announces (env.run resolver (Resolving.fallBack e fallback)) s claimed :=
  ⟨_, [e] ++ [], s, agrees_bind (agrees_report e s) (agrees_pure _ s), by simp⟩

def Present (v : Value γ) (_ : Scope γ) : Prop := v.isAbsent = false

theorem announces_text (hr : ∀ e, Agreeing (resolver e)) (m : Resolving γ String) (s : Scope γ) :
    Announces (env.run resolver (Value.text <$> m)) s Present := by
  refine announces_bind hr (P := fun _ _ => True) ?_ fun text t _ => ?_
  · exact announces_of_forall (run_agreeing hr m) fun _ _ => trivial
  · exact announces_pure rfl

end Environment

/-! ## Values that are there -/

/-- A function that gives an absent value only for an absent one. -/
def Function.KeepsPresence {γ : Type} (f : Function γ) : Prop :=
  ∀ positional named v, f positional named = .ok v → v.isAbsent = true →
    ∃ p ∈ positional, p.isAbsent = true

theorem Functions.builtins_eq {γ : Type} {name : String} {f : Function γ}
    (hf : NameMap.get? (builtins : Functions γ) name = some f) :
    f = numberFunction ∨ f = instantFunction := by
  simp only [builtins, NameMap.ofList, NameMap.insertAll, List.foldl, NameMap.get?_insert] at hf
  split at hf
  · exact .inr (Option.some.inj hf).symm
  · split at hf
    · exact .inl (Option.some.inj hf).symm
    · cases hf

/-- The functions of the library give a number, an instant, or for an absent value their own
name. -/
theorem Functions.builtins_ok {γ : Type} {name : String} {f : Function γ}
    (hf : NameMap.get? (builtins : Functions γ) name = some f) {positional : List (Value γ)}
    {named : Arguments γ} {v : Value γ} (hv : f positional named = .ok v) :
    (∃ n, v = .number n) ∨ (∃ t, v = .instant t) ∨
      (v = .absent (some "NUMBER()") ∨ v = .absent (some "DATETIME()")) ∧
        ∃ p ∈ positional, p.isAbsent = true := by
  cases positional with
  | nil => rcases builtins_eq hf with rfl | rfl <;> cases hv
  | cons first rest =>
      rcases builtins_eq hf with rfl | rfl
      · cases first with
        | number | instant =>
            cases hv
            exact .inl ⟨_, rfl⟩
        | absent fallback =>
            cases hv
            exact .inr (.inr ⟨.inl rfl, _, List.mem_cons_self, rfl⟩)
        | text | custom => cases hv
      · cases first with
        | instant t =>
            cases hv
            exact .inr (.inl ⟨_, rfl⟩)
        | number n =>
            by_cases hfinite : n.value.isFinite
            · simp only [instantFunction, List.head?_cons, if_pos hfinite] at hv
              cases hv
              exact .inr (.inl ⟨_, rfl⟩)
            · simp [instantFunction, hfinite] at hv
        | absent fallback =>
            cases hv
            exact .inr (.inr ⟨.inr rfl, _, List.mem_cons_self, rfl⟩)
        | text | custom => cases hv

theorem Functions.builtins_keepPresence {γ : Type} (name : String) (f : Function γ)
    (hf : NameMap.get? (builtins : Functions γ) name = some f) : Function.KeepsPresence f := by
  intro positional named v hv habsent
  rcases builtins_ok hf hv with ⟨n, rfl⟩ | ⟨t, rfl⟩ | ⟨-, hpositional⟩
  · cases habsent
  · cases habsent
  · exact hpositional

/-- No absent value comes from a caller, or from a function without one being handed to it. -/
structure Environment.Provides [FormatterSource] {γ : Type} (env : Environment γ) : Prop where
  functions : ∀ name f, env.bundle.function? name = some f → Function.KeepsPresence f
  arguments : ∀ given name v, env.arguments = some given → given.get? name = some v →
    v.isAbsent = false

/-! ## Expressions outside of terms -/

/-- Outside of terms a value is there unless an error is added, and what comes next is outside
again. -/
def AnnouncesOutside [FormatterSource] {γ : Type} (resolver : Resolver γ) : Prop :=
  ∀ e (s : Scope γ), s.localArguments = none →
    Announces (resolver e) s fun v t => v.isAbsent = false ∧ t.localArguments = none

namespace Environment

open Resolving

section

variable [FormatterSource] {γ : Type} {env : Environment γ} {resolver : Resolver γ} {s : Scope γ}

theorem announces_resolveVariable (hr : ∀ e, Agreeing (resolver e)) (henv : env.Provides)
    (hs : s.localArguments = none) (name : String) :
    Announces (env.run resolver (resolveVariable name)) s Present := by
  refine announces_bind hr (P := fun view t => t = s ∧ view = env.view s) ?_ ?_
  · exact ⟨env.view s, [], s, .of_silent fun _ => rfl, fun _ => ⟨rfl, rfl⟩⟩
  · rintro view t ⟨rfl, rfl⟩
    have hinTerm : (env.view t).inTerm = false := by simp [view, Scope.inTerm, hs]
    cases hv : (env.view t).argument? name with
    | none =>
        simp only [hinTerm]
        exact announces_fallBack _ _
    | some v =>
        apply announces_pure
        have hgiven : (env.arguments.bind fun given => given.get? name) = some v := by
          simpa [view, argument?, hs] using hv
        obtain ⟨given, harguments, hget⟩ := Option.bind_eq_some_iff.1 hgiven
        exact henv.arguments given name v harguments hget

/-- Each argument is resolved outside of terms, as the one before it was. -/
theorem announces_resolvePositional (hr : ∀ e, Agreeing (resolver e))
    (houtside : AnnouncesOutside resolver) (hs : s.localArguments = none)
    (arguments : List Argument) :
    Announces (env.run resolver (resolvePositional arguments)) s
      fun vs _ => ∀ v ∈ vs, v.isAbsent = false := by
  induction arguments generalizing s with
  | nil => exact announces_pure (by simp)
  | cons argument rest ih =>
      cases argument with
      | named name value => exact ih hs
      | positional e =>
          refine announces_bind hr (houtside e s hs) fun v t hv => ?_
          refine announces_bind hr (ih hv.2) fun vs u hvs => ?_
          exact announces_pure (List.forall_mem_cons.2 ⟨hv.1, hvs⟩)

theorem announces_resolveCall (hr : ∀ e, Agreeing (resolver e)) (henv : env.Provides)
    (houtside : AnnouncesOutside resolver) (hs : s.localArguments = none) (name : String)
    (arguments : List Argument) :
    Announces (env.run resolver (env.resolveCall name arguments)) s Present := by
  unfold resolveCall
  cases hf : env.bundle.function? name with
  | none => exact announces_fallBack _ _
  | some f =>
      refine announces_bind hr (announces_resolvePositional hr houtside hs arguments) ?_
      intro positional t hpositional
      cases hv : f positional (namedValues arguments) with
      | error source => exact announces_fallBack _ _
      | ok v =>
          apply announces_pure
          refine Bool.eq_false_iff.2 fun habsent => ?_
          obtain ⟨p, hp, hpabsent⟩ := henv.functions name f hf positional _ v hv habsent
          simp [hpositional p hp] at hpabsent

variable [CustomValue γ]

theorem announces_resolveDefault (hr : ∀ e, Agreeing (resolver e)) (variants : List Variant)
    (star : UInt64) :
    Announces (env.run resolver (env.resolveDefault variants star)) s Present := by
  unfold resolveDefault
  cases variants[star.toNat]? with
  | none => exact announces_fallBack _ _
  | some v => exact announces_text hr _ s

/-- Whatever the selector is, a select expression ends with the text of a variant. -/
theorem announces_resolveSelect (hr : ∀ e, Agreeing (resolver e)) (selector : Expression)
    (variants : List Variant) (star : UInt64) :
    Announces (env.run resolver (env.resolveSelect selector variants star)) s Present := by
  have hany {α : Type} (m : Resolving γ α) (t : Scope γ) :
      Announces (env.run resolver m) t fun _ _ => True :=
    announces_of_forall (run_agreeing hr m) fun _ _ => trivial
  refine announces_bind hr (hany _ s) fun v t _ => ?_
  cases v.isAbsent with
  | true => exact announces_resolveDefault hr variants star
  | false =>
      refine announces_bind hr (hany _ t) fun view u _ => ?_
      cases exactVariant? view v variants with
      | some variant => exact announces_text hr _ u
      | none =>
          refine announces_bind hr (hany _ u) fun category w _ => ?_
          cases category.bind (categoryVariant? · variants) with
          | some variant => exact announces_text hr _ w
          | none => exact announces_resolveDefault hr variants star

/-- A reference stands for a text, also when it leads into a term. -/
theorem announces_reference (hr : ∀ e, Agreeing (resolver e)) {e : Expression} {target : Target}
    (he : e.target? = some target) :
    Announces (env.run resolver (env.resolveForm e)) s Present := by
  rw [resolveForm_of_target he]
  cases env.bundle.targetPattern target with
  | error err => exact announces_fallBack err _
  | ok p =>
      have hopening : Announces (env.run resolver (env.resolveEntry target.key p))
          { s with localArguments := e.localArguments } Present :=
        announces_within (errorBlind_pushEntry _) (fun _ _ => rfl)
          fun t _ => announces_text hr _ t
      obtain ⟨v, added, t, hrun, hv⟩ := hopening
      exact ⟨v, added, _, agrees_withLocal hrun, hv⟩

theorem announces_resolveForm (hr : ∀ e, Agreeing (resolver e)) (henv : env.Provides)
    (houtside : AnnouncesOutside resolver) (hs : s.localArguments = none) (e : Expression) :
    Announces (env.run resolver (env.resolveForm e)) s Present := by
  cases e with
  | literal l =>
      apply announces_pure
      cases l <;> rfl
  | «variable» name => exact announces_resolveVariable hr henv hs name
  | message | term => exact announces_reference hr rfl
  | call name arguments => exact announces_resolveCall hr henv houtside hs name arguments
  | select selector variants star => exact announces_resolveSelect hr selector variants star

/-- The arguments of a term that count behind a run are those that counted before. -/
theorem localArguments_of_agrees {level : Nat} {e : Expression} {v : Value γ}
    {added : List ResolverError} {t : Scope γ} (h : Agrees (env.resolveAt level e) s v added t) :
    t.localArguments = s.localArguments := by
  have hkept : (s.withErrors (some [])).SamePlace
      (env.resolveAt level e (s.withErrors (some []))).scope :=
    (resolveAt_keeps level e _).toSamePlace
  rw [h.collects] at hkept
  exact hkept.localArguments

theorem announces_resolveAt (henv : env.Provides) (level : Nat) (e : Expression)
    (hs : s.localArguments = none) : Announces (env.resolveAt level e) s Present := by
  induction level generalizing e s with
  | zero => exact ⟨_, _, s, agrees_fallBack _ none s, by simp⟩
  | succ level ih =>
      have houtside : AnnouncesOutside (env.resolveAt level) := by
        intro e t ht
        obtain ⟨v, added, u, hrun, hv⟩ := ih e ht
        exact ⟨v, added, u, hrun, fun h => ⟨hv h, (localArguments_of_agrees hrun).trans ht⟩⟩
      refine announces_within (errorBlind_descend _) (fun _ _ => rfl) ?_
      intro t ht
      obtain ⟨-, rfl⟩ := Scope.descend_eq_ok_iff.1 ht
      have hinside : ({ s with depth := s.depth + 1 } : Scope γ).localArguments = none := hs
      exact announces_resolveForm (resolveAt_agreeing level) henv houtside hinside e

/-- Outside of terms, where errors are collected, an expression always has a value, and behind an
absent value there is an error that was added while the expression was resolved, be it inside of
terms, messages, arguments or variants. It takes that the functions give absent values only for
absent ones, as those of the library do, and that the caller hands over none. -/
theorem absent_values_are_announced (henv : env.Provides) (e : Expression) (s : Scope γ)
    (hs : s.localArguments = none) {held : List ResolverError} (hheld : s.errors = some held) :
    ∃ v t added, env.resolve e s = .ok v t ∧ t.errors = some (held ++ added) ∧
      (v.isAbsent = true → added ≠ []) := by
  obtain ⟨v, added, t, hrun, hv⟩ := announces_resolveAt henv (env.bundle.maxDepth - s.depth) e hs
  refine ⟨v, t.withErrors (some (held ++ added)), added, hrun.of_collecting hheld, rfl, ?_⟩
  rintro habsent rfl
  simp [Present, habsent] at hv

end

def echoBundle : Bundle Badge :=
  ((Bundle.ofOptions {}).addResource false
    ⟨[⟨"-t", some (.complex [.placeable (.variable "x")]), .empty⟩]⟩).1

/-- The variable is missing in silence in the term, whose text is then no number. -/
theorem echoBundle_announces :
    let env : Environment Badge := ⟨echoBundle, some (.ofList [("y", .custom ⟨"Ada"⟩)])⟩
    let e : Expression := .call "NUMBER" [.positional (.term "t" none none)]
    let s : Scope Badge := .start echoBundle (some [.unknownVariable "z"])
    env.Provides ∧ (env.resolve e s).result = .ok (.absent (some "NUMBER()")) ∧
    ∃ v t added, env.resolve e s = .ok v t ∧
      t.errors = some ([.unknownVariable "z"] ++ added) ∧ (v.isAbsent = true → added ≠ []) := by
  intro env e s
  have henv : env.Provides := by
    refine ⟨Functions.builtins_keepPresence, ?_⟩
    rintro given name v hgiven hv
    cases hgiven
    have hpair : (name, v) ∈ [("y", (.custom ⟨"Ada"⟩ : Value Badge))] := NameMap.mem_of_get? hv
    obtain ⟨-, rfl⟩ : name = "y" ∧ v = .custom ⟨"Ada"⟩ := by simpa using hpair
    rfl
  exact ⟨henv, rfl, absent_values_are_announced henv e s rfl rfl⟩

end Environment

end Phrasebook
