import Phrasebook.Proofs.Formatters.MarkFree
import Phrasebook.Proofs.Resolution.Announcing
import Phrasebook.Proofs.Resolution.Marks

/-!
# Isolation marks are balanced

Marked text becomes a value that is set off again, chosen by, dropped or replaced by a fallback.
What holds all the way is that every value shows as a balanced text: where no mark comes from texts
and names, from the caller or from the host, the only marks are those that set a balanced text
off.
-/

namespace Phrasebook

/-! ## Balanced values -/

section Values

variable {γ : Type} [CustomValue γ]

def Value.Balanced : Value γ → Prop
  | .text s => Phrasebook.Balanced s
  | .number _ => True
  | .instant _ => True
  | .absent fallback => ∀ s, fallback = some s → Phrasebook.Balanced s
  | .custom c => ∀ view, Phrasebook.Balanced (CustomValue.format c view)

def Arguments.Balanced (given : Arguments γ) : Prop :=
  ∀ name v, given.get? name = some v → v.Balanced

/-- A function that gives balanced values for balanced ones. -/
def Function.KeepsBalance (f : Function γ) : Prop :=
  ∀ positional named v, (∀ p ∈ positional, p.Balanced) → Arguments.Balanced named →
    f positional named = .ok v → v.Balanced

theorem balanced_absentText {fallback : Option String}
    (h : ∀ s, fallback = some s → Balanced s) : Balanced (Value.absentText fallback) := by
  have hopen : Balanced "\x7b" := MarkFree.balanced (by decide)
  have hclose : Balanced "\x7d" := MarkFree.balanced (by decide)
  cases fallback with
  | none => exact MarkFree.balanced (by decide)
  | some s => exact (hopen.append (h s rfl)).append hclose

/-- The functions of the library make no text but their names. -/
theorem Functions.builtins_keepBalance (name : String) (f : Function γ)
    (hf : NameMap.get? (builtins : Functions γ) name = some f) : f.KeepsBalance := by
  intro positional named v _ _ hv
  rcases builtins_ok hf hv with ⟨n, rfl⟩ | ⟨t, rfl⟩ | ⟨rfl | rfl, -⟩
  · trivial
  · trivial
  · rintro _ ⟨⟩
    exact MarkFree.balanced (by decide)
  · rintro _ ⟨⟩
    exact MarkFree.balanced (by decide)

end Values

/-! ## Balanced patterns -/

def Literal.Balanced : Literal → Prop
  | .text s => Phrasebook.Balanced s
  | .number .. => True

def Argument.ListBalanced (arguments : List Argument) : Prop :=
  ∀ name l, Argument.named name l ∈ arguments → l.Balanced

/-- The pieces of text of a pattern, apart from those inside of its placeables. -/
def Pattern.pieces : Pattern → List String
  | .text s => [s]
  | .complex elements => elements.filterMap Element.text?

/-- The literals, the names and the pieces of text in an expression are all balanced, the pieces as
the bundle shows them.  What a reference leads to does not matter here. -/
inductive Expression.Balanced [FormatterSource] {γ : Type} (b : Bundle γ) : Expression → Prop where
  | literal {l : Literal} : l.Balanced → Balanced b (.literal l)
  | «variable» {name : String} : Phrasebook.Balanced name → Balanced b (.variable name)
  | message {id : String} {attr : Option String} :
      Phrasebook.Balanced (dotted id attr) → Balanced b (.message id attr)
  | term {name : String} {attr : Option String} {arguments : Option (List Argument)} :
      Phrasebook.Balanced (dotted (termId name) attr) →
        Argument.ListBalanced (arguments.getD []) → Balanced b (.term name attr arguments)
  | call {name : String} {arguments : List Argument} :
      Phrasebook.Balanced name → Argument.ListBalanced arguments →
        (∀ e ∈ arguments.filterMap Argument.expression?, Balanced b e) →
          Balanced b (.call name arguments)
  | select {selector : Expression} {variants : List Variant} (star : UInt64) :
      Balanced b selector →
        (∀ v ∈ variants, ∀ s ∈ v.value.pieces, Phrasebook.Balanced (b.transformText s)) →
        (∀ v ∈ variants, ∀ e ∈ v.value.inner, Balanced b e) →
          Balanced b (.select selector variants star)

structure Pattern.Balanced [FormatterSource] {γ : Type} (b : Bundle γ) (p : Pattern) : Prop where
  pieces : ∀ s ∈ p.pieces, Phrasebook.Balanced (b.transformText s)
  inner : ∀ e ∈ p.inner, e.Balanced b

/-- Without its first element a pattern is as balanced. -/
theorem Pattern.Balanced.tail [FormatterSource] {γ : Type} {b : Bundle γ} {element : Element}
    {rest : List Element}
    (h : (complex (element :: rest)).Balanced b) : (complex rest).Balanced b := by
  have hsublist := List.sublist_cons_self element rest
  constructor
  · exact fun s hs => h.pieces s ((hsublist.filterMap Element.text?).subset hs)
  · exact fun e he => h.inner e ((hsublist.filterMap Element.expression?).subset he)

/-- No marks but balanced ones come from the entries, from the caller, or from what the host has in
the bundle: its functions, and the hook, whatever the formatters of the locale answer to it. What
the formatters show has no marks. -/
structure Environment.Balanced [source : FormatterSource] {γ : Type} [CustomValue γ]
    (env : Environment γ) : Prop where
  entries : ∀ p, env.bundle.Holds p → p.Balanced env.bundle
  arguments : ∀ given, env.arguments = some given → given.Balanced
  functions : ∀ name f, env.bundle.function? name = some f → f.KeepsBalance
  hook : ∀ hook, env.bundle.formatter = some hook → ∀ v : Value γ, v.Balanced →
    ∀ c : Formatters, c.locale = env.bundle.formatters.locale →
      ∀ text, ((hook v).run c).1 = some text → Phrasebook.Balanced text
  locale : source.MarkFree env.bundle.formatters.locale

section Named

variable {γ : Type} [CustomValue γ]

theorem balanced_toValue {l : Literal} (h : l.Balanced) : (l.toValue : Value γ).Balanced := by
  cases l with
  | text s => exact h
  | number x precision => trivial

omit [CustomValue γ] in
theorem mem_insertAll {m : NameMap α} {pairs : List (String × α)} {p : String × α}
    (h : p ∈ (m.insertAll pairs).toList) : p ∈ m.toList ∨ p ∈ pairs := by
  induction pairs generalizing m with
  | nil => exact .inl h
  | cons first rest ih =>
      rcases ih (m := m.insert first.1 first.2) h with h | h
      · rcases Pairs.mem_insert h with rfl | h
        · exact .inr List.mem_cons_self
        · exact .inl h
      · exact .inr (List.mem_cons_of_mem _ h)

theorem balanced_namedValues {arguments : List Argument} (h : Argument.ListBalanced arguments) :
    Arguments.Balanced (namedValues arguments : Arguments γ) := by
  intro name v hv
  rcases mem_insertAll (NameMap.mem_of_get? hv) with hmem | hmem
  · cases hmem
  · obtain ⟨argument, hargument, hnamed⟩ := List.mem_filterMap.1 hmem
    cases argument with
    | positional e => cases hnamed
    | named name' l =>
        cases hnamed
        exact balanced_toValue (h _ l hargument)

end Named

/-! ## Runs that guarantee -/

section Guarantees

variable [FormatterSource] {γ α β : Type} [CustomValue γ] {l : Locale}

structure Scope.Balanced (l : Locale) (s : Scope γ) : Prop where
  localArguments : ∀ given, s.localArguments = some given → Arguments.Balanced given
  locale : s.formatters.locale = l

/-- Taken in a balanced scope, the steps end, if not with an error, with what is claimed and in a
balanced scope again. -/
def Guarantees (l : Locale) (run : Scope γ → Ending γ α) (P : α → Prop) : Prop :=
  ∀ s a t, s.Balanced l → run s = .ok a t → P a ∧ t.Balanced l

variable {env : Environment γ} {resolver : Resolver γ} {P : α → Prop}

theorem guarantees_pure {a : α} (h : P a) : Guarantees l (env.run resolver (pure a)) P := by
  intro s _ _ hs hrun
  cases hrun
  exact ⟨h, hs⟩

theorem guarantees_bind {m : Resolving γ β} {next : β → Resolving γ α} {Q : β → Prop}
    (hm : Guarantees l (env.run resolver m) Q)
    (hnext : ∀ b, Q b → Guarantees l (env.run resolver (next b)) P) :
    Guarantees l (env.run resolver (m.bind next)) P := by
  intro s a t hs hrun
  rw [Environment.run] at hrun
  cases hfirst : env.run resolver m s with
  | error e u => simp [hfirst] at hrun
  | ok b u =>
      simp only [hfirst] at hrun
      obtain ⟨hb, hu⟩ := hm s b u hs hfirst
      exact hnext b hb u a t hu hrun

theorem guarantees_look : Guarantees l (env.run resolver .look)
    fun view => ∃ s : Scope γ, s.Balanced l ∧ view = env.view s := by
  intro s _ _ hs hrun
  cases hrun
  exact ⟨⟨s, hs, rfl⟩, hs⟩

theorem guarantees_report (e : ResolverError) :
    Guarantees l (Scope.report e : Scope γ → _) fun _ => True := by
  intro s _ t hs hrun
  unfold Scope.report at hrun
  cases herrors : s.errors with
  | none => simp [herrors] at hrun
  | some errors =>
      simp only [herrors] at hrun
      cases hrun
      exact ⟨trivial, hs.localArguments, hs.locale⟩

theorem guarantees_ask {question : Formatting α}
    (h : ∀ c : Formatters, c.locale = l → P (question.run c).1) :
    Guarantees l (env.run resolver (.ask question)) P := by
  intro s _ _ hs hrun
  cases hrun
  refine ⟨h s.formatters hs.locale, hs.localArguments, ?_⟩
  exact (question.run_locale s.formatters).trans hs.locale

theorem guarantees_fallBack (e : ResolverError) {fallback : Option String}
    (h : ∀ s, fallback = some s → Balanced s) :
    Guarantees l (Scope.fallBack e fallback : Scope γ → _) Value.Balanced := by
  intro s v t hs hrun
  unfold Scope.fallBack at hrun
  cases hreport : s.report e with
  | error e' u => simp [hreport] at hrun
  | ok reported u =>
      simp only [hreport, EStateM.Result.ok.injEq] at hrun
      obtain ⟨rfl, rfl⟩ := hrun
      exact ⟨h, (guarantees_report e s reported u hs hreport).2⟩

theorem guarantees_fallingBack (e : ResolverError) {fallback : Option String}
    (h : ∀ s, fallback = some s → Balanced s) :
    Guarantees l (env.run resolver (Resolving.fallBack e fallback)) Value.Balanced :=
  guarantees_bind (guarantees_report e) fun _ _ => guarantees_pure h

theorem guarantees_askOr {fallback : α} {question : Formatting (Except FormatError α)}
    (hfallback : P fallback)
    (h : ∀ c : Formatters, c.locale = l → ∀ a, (question.run c).1 = .ok a → P a) :
    Guarantees l (env.run resolver (Resolving.askOr fallback question)) P := by
  have hask : Guarantees l (env.run resolver (.ask question)) fun r => ∀ a, r = .ok a → P a :=
    guarantees_ask h
  apply guarantees_bind hask
  intro r hr
  cases r with
  | ok a => exact guarantees_pure (hr a rfl)
  | error reason =>
      apply guarantees_bind guarantees_look
      intro view _
      apply guarantees_bind (guarantees_report _)
      intro _ _
      exact guarantees_pure hfallback

/-- The same place with more or fewer references and levels open is as balanced. -/
theorem guarantees_within {enter : Scope γ → Except ResolverError (Scope γ)}
    {leave : Scope γ → Scope γ} {fallback : Option String} {body : Scope γ → Ending γ (Value γ)}
    (henter : ∀ s t, s.Balanced l → enter s = .ok t → t.Balanced l)
    (hleave : ∀ s : Scope γ, s.Balanced l → (leave s).Balanced l)
    (hfallback : ∀ s, fallback = some s → Balanced s)
    (hbody : Guarantees l body Value.Balanced) :
    Guarantees l (Scope.within enter leave fallback body) Value.Balanced := by
  intro s v t hs hrun
  unfold Scope.within at hrun
  cases hs' : enter s with
  | error e =>
      simp only [hs'] at hrun
      exact guarantees_fallBack e hfallback s v t hs hrun
  | ok u =>
      simp only [hs'] at hrun
      cases hend : body u with
      | error e w => simp [hend, Ending.leave] at hrun
      | ok v' w =>
          simp only [hend, Ending.leave, EStateM.Result.ok.injEq] at hrun
          obtain ⟨rfl, rfl⟩ := hrun
          obtain ⟨hv, hw⟩ := hbody u v' w (henter s u hs hs') hend
          exact ⟨hv, hleave w hw⟩

theorem guarantees_opening {key : String} {body : Resolving γ (Value γ)} (hkey : Balanced key)
    (hbody : Guarantees l (env.run resolver body) Value.Balanced) :
    Guarantees l (env.run resolver (.opening key body)) Value.Balanced := by
  apply guarantees_within _ _ _ hbody
  · intro s t hs hpush
    obtain ⟨-, rfl⟩ := Scope.pushEntry_eq_ok_iff.1 hpush
    exact ⟨hs.localArguments, hs.locale⟩
  · intro s hs
    exact ⟨hs.localArguments, hs.locale⟩
  · intro s hs
    cases hs
    exact hkey

theorem guarantees_withLocal {given : Option (Arguments γ)} {body : Resolving γ (Value γ)}
    (hgiven : ∀ arguments, given = some arguments → Arguments.Balanced arguments)
    (hbody : Guarantees l (env.run resolver body) Value.Balanced) :
    Guarantees l (env.run resolver (.withLocal given body)) Value.Balanced := by
  intro s v t hs hrun
  have hsteps : (env.run resolver body { s with localArguments := given }).leave
      (fun after => { after with localArguments := s.localArguments }) = .ok v t := hrun
  cases hend : env.run resolver body { s with localArguments := given } with
  | error e u => simp [hend, Ending.leave] at hsteps
  | ok v' u =>
      simp only [hend, Ending.leave, EStateM.Result.ok.injEq] at hsteps
      obtain ⟨rfl, rfl⟩ := hsteps
      have hinside : ({ s with localArguments := given } : Scope γ).Balanced l :=
        ⟨hgiven, hs.locale⟩
      obtain ⟨hv, hu⟩ := hbody _ v' u hinside hend
      exact ⟨hv, hs.localArguments, hu.locale⟩

end Guarantees

/-! ## The steps of one level -/

namespace Environment

open Resolving

variable [source : FormatterSource] {γ : Type} [CustomValue γ] {env : Environment γ}
  {resolver : Resolver γ} {l : Locale}

def Resolver.KeepsBalance (env : Environment γ) (resolver : Resolver γ) : Prop :=
  ∀ e, e.Balanced env.bundle →
    Guarantees env.bundle.formatters.locale (resolver e) Value.Balanced

theorem guarantees_renderBuiltin (hl : source.MarkFree l) {v : Value γ} (hv : v.Balanced) :
    Guarantees l (env.run resolver (renderBuiltin v)) Phrasebook.Balanced := by
  cases v with
  | text s => exact guarantees_pure hv
  | number n =>
      apply guarantees_askOr (markFree_plainText _).balanced
      rintro c rfl text htext
      exact (FormatterTables.markFree_formatNumber hl htext).balanced
  | instant t =>
      apply guarantees_askOr (markFree_integerText _).balanced
      rintro c rfl text htext
      exact (FormatterTables.markFree_formatInstant hl htext).balanced
  | absent fallback => exact guarantees_pure (balanced_absentText hv)
  | custom c =>
      apply guarantees_bind guarantees_look
      intro view _
      exact guarantees_pure (hv view)

variable (henv : env.Balanced)
include henv

theorem guarantees_render {v : Value γ} (hv : v.Balanced) :
    Guarantees env.bundle.formatters.locale (env.run resolver (env.render v))
      Phrasebook.Balanced := by
  unfold render
  cases hformatter : env.bundle.formatter with
  | none => exact guarantees_renderBuiltin henv.locale hv
  | some hook =>
      have hshown : Guarantees env.bundle.formatters.locale (env.run resolver (.ask (hook v)))
          fun shown => ∀ text, shown = some text → Phrasebook.Balanced text :=
        guarantees_ask fun c hc => henv.hook hook hformatter v hv c hc
      apply guarantees_bind hshown
      intro shown hshown
      cases shown with
      | none => exact guarantees_renderBuiltin henv.locale hv
      | some text => exact guarantees_pure (hshown text rfl)

variable (hr : Resolver.KeepsBalance env resolver)
include hr

theorem guarantees_showElement {isolate : Bool} {element : Element} {rest : List Element}
    (hp : (Pattern.complex (element :: rest)).Balanced env.bundle) :
    Guarantees env.bundle.formatters.locale (env.run resolver (env.showElement isolate element))
      Phrasebook.Balanced := by
  cases element with
  | text s => exact guarantees_pure (hp.pieces s List.mem_cons_self)
  | placeable e =>
      apply guarantees_bind (hr e (hp.inner e List.mem_cons_self))
      intro v hv
      apply guarantees_bind (guarantees_render henv hv)
      intro text htext
      apply guarantees_pure
      cases isolate with
      | true => exact balanced_isolated htext
      | false => exact htext

/-- Each element shows as a balanced text, set off or not. -/
theorem guarantees_showElements {isolate : Bool} {elements : List Element}
    (hp : (Pattern.complex elements).Balanced env.bundle) :
    Guarantees env.bundle.formatters.locale (env.run resolver (env.showElements isolate elements))
      Phrasebook.Balanced := by
  induction elements with
  | nil => exact guarantees_pure (MarkFree.balanced markFree_empty)
  | cons element rest ih =>
      apply guarantees_bind (guarantees_showElement henv hr hp)
      intro text htext
      apply guarantees_bind (ih hp.tail)
      intro after hafter
      exact guarantees_pure (htext.append hafter)

theorem guarantees_showPattern {p : Pattern} (hp : p.Balanced env.bundle) :
    Guarantees env.bundle.formatters.locale (env.run resolver (env.showPattern p))
      Phrasebook.Balanced := by
  cases p with
  | text s => exact guarantees_pure (hp.pieces s List.mem_cons_self)
  | complex elements => exact guarantees_showElements henv hr hp

/-- The text of a pattern as a value. -/
theorem guarantees_textValue {p : Pattern} (hp : p.Balanced env.bundle) :
    Guarantees env.bundle.formatters.locale
      (env.run resolver (Value.text <$> env.showPattern p : Resolving γ (Value γ)))
      Value.Balanced := by
  refine guarantees_bind (guarantees_showPattern henv hr hp) ?_
  intro text htext
  exact guarantees_pure htext

omit hr in
theorem guarantees_resolveVariable {name : String} (hname : Phrasebook.Balanced name) :
    Guarantees env.bundle.formatters.locale (env.run resolver (resolveVariable name))
      Value.Balanced := by
  apply guarantees_bind guarantees_look
  rintro view ⟨s, hs, rfl⟩
  cases hv : (env.view s).argument? name with
  | some v =>
      apply guarantees_pure
      cases hlocal : s.localArguments with
      | some given =>
          have hget : given.get? name = some v := by simpa [view, argument?, hlocal] using hv
          exact hs.localArguments given hlocal name v hget
      | none =>
          have hgiven : (env.arguments.bind fun given => given.get? name) = some v := by
            simpa [view, argument?, hlocal] using hv
          obtain ⟨given, harguments, hget⟩ := Option.bind_eq_some_iff.1 hgiven
          exact henv.arguments given harguments name v hget
  | none =>
      have hfallback : Value.Balanced (.absent (some ("$" ++ name)) : Value γ) := by
        rintro _ ⟨⟩
        exact (MarkFree.balanced (by decide)).append hname
      dsimp only
      split
      · apply guarantees_bind (guarantees_report _)
        intro _ _
        exact guarantees_pure hfallback
      · exact guarantees_pure hfallback

omit henv in
theorem guarantees_resolvePositional {arguments : List Argument}
    (he : ∀ e ∈ arguments.filterMap Argument.expression?, e.Balanced env.bundle) :
    Guarantees env.bundle.formatters.locale (env.run resolver (resolvePositional arguments))
      fun vs => ∀ v ∈ vs, v.Balanced := by
  induction arguments with
  | nil => exact guarantees_pure (by simp)
  | cons argument rest ih =>
      cases argument with
      | named name value => exact ih he
      | positional e =>
          apply guarantees_bind (hr e (he e List.mem_cons_self))
          intro v hv
          apply guarantees_bind (ih fun e' he' => he e' (List.mem_cons_of_mem _ he'))
          intro vs hvs
          exact guarantees_pure (List.forall_mem_cons.2 ⟨hv, hvs⟩)

theorem guarantees_resolveCall {name : String} {arguments : List Argument}
    (hname : Phrasebook.Balanced name) (hnamed : Argument.ListBalanced arguments)
    (he : ∀ e ∈ arguments.filterMap Argument.expression?, e.Balanced env.bundle) :
    Guarantees env.bundle.formatters.locale (env.run resolver (env.resolveCall name arguments))
      Value.Balanced := by
  have hfallback : ∀ s, some (name ++ "()") = some s → Phrasebook.Balanced s := by
    rintro _ ⟨⟩
    exact hname.append (MarkFree.balanced (by decide))
  unfold resolveCall
  cases hf : env.bundle.function? name with
  | none => exact guarantees_fallingBack _ hfallback
  | some f =>
      apply guarantees_bind (guarantees_resolvePositional hr he)
      intro positional hpositional
      cases hv : f positional (namedValues arguments) with
      | error source => exact guarantees_fallingBack _ hfallback
      | ok v =>
          apply guarantees_pure
          exact henv.functions name f hf positional _ v hpositional (balanced_namedValues hnamed) hv

omit henv hr in
theorem guarantees_categoryOf (v : Value γ) :
    Guarantees l (env.run resolver (categoryOf v)) fun _ => True := by
  cases v with
  | number n => exact guarantees_askOr trivial fun _ _ _ _ => trivial
  | text | instant | absent | custom => exact guarantees_pure trivial

theorem guarantees_resolveSelect {selector : Expression} {variants : List Variant} (star : UInt64)
    (hselector : selector.Balanced env.bundle)
    (hv : ∀ v ∈ variants, v.value.Balanced env.bundle) :
    Guarantees env.bundle.formatters.locale
      (env.run resolver (env.resolveSelect selector variants star)) Value.Balanced := by
  have hvariant : ∀ v ∈ variants, Guarantees env.bundle.formatters.locale
      (env.run resolver (env.resolveVariant v)) Value.Balanced := by
    intro v hmem
    exact guarantees_textValue henv hr (hv v hmem)
  have hdefault : Guarantees env.bundle.formatters.locale
      (env.run resolver (env.resolveDefault variants star)) Value.Balanced := by
    unfold resolveDefault
    cases hstar : variants[star.toNat]? with
    | some v => exact hvariant v (List.mem_of_getElem? hstar)
    | none => exact guarantees_fallingBack _ (by simp)
  apply guarantees_bind (hr selector hselector)
  intro v _
  split
  · exact hdefault
  · apply guarantees_bind guarantees_look
    intro view _
    split
    · next hfound => exact hvariant _ (List.mem_of_find?_eq_some hfound)
    · apply guarantees_bind (guarantees_categoryOf v)
      intro category _
      split
      · next hfound =>
        obtain ⟨found, -, hfound⟩ := Option.bind_eq_some_iff.1 hfound
        exact hvariant _ (List.mem_of_find?_eq_some hfound)
      · exact hdefault

/-- A reference shows the pattern that it leads to, with its own arguments in place. -/
theorem guarantees_reference {e : Expression} {t : Target} (ht : e.target? = some t)
    (hkey : Phrasebook.Balanced t.key)
    (hgiven : ∀ given, e.localArguments = some given → Arguments.Balanced (γ := γ) given) :
    Guarantees env.bundle.formatters.locale (env.run resolver (env.resolveForm e))
      Value.Balanced := by
  rw [resolveForm_of_target ht]
  cases hp : env.bundle.targetPattern t with
  | error err =>
      apply guarantees_fallingBack
      rintro _ ⟨⟩
      exact hkey
  | ok p =>
      apply guarantees_withLocal hgiven
      apply guarantees_opening hkey
      exact guarantees_textValue henv hr (henv.entries p (.of_target hp))

theorem guarantees_resolveForm {e : Expression} (he : e.Balanced env.bundle) :
    Guarantees env.bundle.formatters.locale (env.run resolver (env.resolveForm e))
      Value.Balanced := by
  cases he with
  | literal hl => exact guarantees_pure (balanced_toValue hl)
  | «variable» hname => exact guarantees_resolveVariable henv hname
  | message hkey => exact guarantees_reference henv hr rfl hkey nofun
  | @term name attr _ hkey hnamed =>
      apply guarantees_reference henv hr (t := .term (Expression.termId name) attr) rfl hkey
      rintro _ ⟨⟩
      exact balanced_namedValues hnamed
  | call hname hnamed hinner => exact guarantees_resolveCall henv hr hname hnamed hinner
  | select star hselector hpieces hinner =>
      apply guarantees_resolveSelect henv hr star hselector
      intro v hv
      exact ⟨hpieces v hv, hinner v hv⟩

omit hr in
/-- Whatever is cut by the guards is replaced by a balanced fallback. -/
theorem keepsBalance_resolveAt (level : Nat) : Resolver.KeepsBalance env (env.resolveAt level) := by
  induction level with
  | zero =>
      intro e _
      exact guarantees_fallBack _ (by simp)
  | succ level ih =>
      intro e he
      apply guarantees_within _ _ _ (guarantees_resolveForm henv ih he)
      · intro s t hs hdescend
        obtain ⟨-, rfl⟩ := Scope.descend_eq_ok_iff.1 hdescend
        exact ⟨hs.localArguments, hs.locale⟩
      · intro s hs
        exact ⟨hs.localArguments, hs.locale⟩
      · simp

omit hr in
theorem guarantees_resolvePattern {p : Pattern} (hp : p.Balanced env.bundle) :
    Guarantees env.bundle.formatters.locale (env.resolvePattern p) Phrasebook.Balanced := by
  apply guarantees_showPattern henv _ hp
  -- How many levels are left depends on the scope, and for none of them does it matter.
  intro e he s
  exact keepsBalance_resolveAt henv (env.bundle.maxDepth - s.depth) e he s

end Environment

namespace Bundle

section

variable [FormatterSource] {γ : Type} [CustomValue γ]

/-- For every bundle, also where placeables are set off: as long as the texts and names in the
entries and in the pattern, the arguments, and what the host gives hold no marks but balanced ones,
the marks in a formatted text are balanced. A call that collects its errors has a text, whatever
goes wrong, and one that does not has a balanced one if it has any. -/
theorem isolation_marks_balanced {b : Bundle γ} {arguments : Option (Arguments γ)}
    (h : (Environment.mk b arguments).Balanced) {p : Pattern} (hp : p.Balanced b) :
    (∀ held, ∃ text, (b.formatPattern p arguments (some held)).result = .ok text ∧ Balanced text) ∧
      ∀ errors text, (b.formatPattern p arguments errors).result = .ok text → Balanced text := by
  let env : Environment γ := ⟨b, arguments⟩
  have hstart (errors : Option (List ResolverError)) :
      (Scope.start b errors : Scope γ).Balanced b.formatters.locale := ⟨nofun, rfl⟩
  have hbalanced : ∀ errors text, (b.formatPattern p arguments errors).result = .ok text →
      Balanced text := by
    intro errors text hresult
    rw [formatPattern_eq_resolved, Outcome.result_ofEnding] at hresult
    cases hrun : env.resolvePattern p (.start b errors) with
    | error e t => simp [env, hrun, Ending.result] at hresult
    | ok shown t =>
        simp only [env, hrun, Ending.result, Except.ok.injEq] at hresult
        rw [← hresult]
        exact (env.guarantees_resolvePattern h hp _ shown t (hstart errors) hrun).1
  refine ⟨?_, hbalanced⟩
  intro held
  obtain ⟨text, added, t, hrun⟩ := env.resolvePattern_agreeing p (.start b (some held))
  have hresult : (b.formatPattern p arguments (some held)).result = .ok text := by
    rw [formatPattern_eq_resolved, Outcome.result_ofEnding, hrun.of_collecting rfl]
    rfl
  exact ⟨text, hresult, hbalanced _ _ hresult⟩

end

theorem nestedBundle_balanced {p : Pattern} (h : nestedBundle.Holds p) :
    p.Balanced nestedBundle := by
  have htext (s : String) (hs : MarkFree s) : Balanced (nestedBundle.transformText s) := hs.balanced
  rcases eq_of_nestedBundle_holds h with rfl | rfl
  · constructor
    · intro s hs
      obtain rfl := List.mem_singleton.1 hs
      exact htext _ (by decide)
    · intro e he
      obtain rfl := List.mem_singleton.1 he
      apply Expression.Balanced.term
      · exact MarkFree.balanced (by decide)
      · intro name l hl
        cases List.mem_singleton.1 hl
        exact MarkFree.balanced (by decide)
  · constructor
    · intro s hs
      obtain rfl := List.mem_singleton.1 hs
      exact htext _ (by decide)
    · intro e he
      obtain rfl := List.mem_singleton.1 he
      exact .variable (MarkFree.balanced (by decide))

/-- The argument chooses the variant in which the message is shown next to it. -/
theorem nestedBundle_balanced_marks :
    let p : Pattern := .complex [.placeable (.select (.variable "y")
      [.mk (.text "Ada") (.complex [.placeable (.message "m" none), .placeable (.variable "y")])]
      0), .text "."]
    let given : Arguments Badge := .ofList [("y", .custom ⟨"Ada"⟩)]
    (nestedBundle.formatPattern p (some given) (some [])).result =
      .ok "\u2068\u2068by \u2068\u2068a\u2069!\u2069\u2069\u2068Ada\u2069\u2069." ∧
    Balanced "\u2068\u2068by \u2068\u2068a\u2069!\u2069\u2069\u2068Ada\u2069\u2069." := by
  intro p given
  have henv : (Environment.mk nestedBundle (some given)).Balanced := by
    refine ⟨fun _ => nestedBundle_balanced, ?_, Functions.builtins_keepBalance, nofun,
      FormatterSource.markFree_library _⟩
    rintro _ ⟨⟩ name v hv
    have hpair : (name, v) ∈ [("y", (.custom ⟨"Ada"⟩ : Value Badge))] := NameMap.mem_of_get? hv
    obtain ⟨-, rfl⟩ : name = "y" ∧ v = .custom ⟨"Ada"⟩ := by simpa using hpair
    have hname : MarkFree "Ada" := by decide
    exact fun _ => hname.balanced
  have hy : Expression.Balanced nestedBundle (.variable "y") :=
    .variable (MarkFree.balanced (by decide))
  have hm : Expression.Balanced nestedBundle (.message "m" none) :=
    .message (MarkFree.balanced (by decide))
  have hp : p.Balanced nestedBundle := by
    constructor
    · intro s hs
      obtain rfl := List.mem_singleton.1 hs
      exact MarkFree.balanced (by decide)
    · intro e he
      obtain rfl := List.mem_singleton.1 he
      apply Expression.Balanced.select 0 hy
      · intro v hv s hs
        obtain rfl := List.mem_singleton.1 hv
        cases hs
      · intro v hv e he
        obtain rfl := List.mem_singleton.1 hv
        rcases List.mem_pair.1 he with rfl | rfl
        · exact hm
        · exact hy
  have hresult : (nestedBundle.formatPattern p (some given) (some [])).result =
      .ok "\u2068\u2068by \u2068\u2068a\u2069!\u2069\u2069\u2068Ada\u2069\u2069." := by
    decide +kernel
  exact ⟨hresult, (isolation_marks_balanced henv hp).2 _ _ hresult⟩

end Bundle

end Phrasebook
