import Phrasebook.Proofs.Pattern.Texts
import Phrasebook.Proofs.Resolution.Following
import Phrasebook.Proofs.Resolution.Isolation

/-!
# Bundles that mirror each other

A bundle mirrors another if it shows changed texts as the other shows the texts that they came from,
and finds, with its texts changed, what the other finds. Then the steps for an expression with
changed texts mirror those for the expression: keys of variants, literals and arguments are no
texts and stay the same.
-/

namespace Phrasebook

/-- The second bundle is the first one with its texts changed by `f`, as far as the first one finds
what it looks for; where it does not, that may be excused. -/
structure Bundle.Mirrored [FormatterSource] {γ : Type} (f : String → String)
    (excused : ResolverError → Prop) (b b' : Bundle γ) : Prop where
  text : ∀ s, b'.transformText (f s) = b.transformText s
  useIsolating : b'.useIsolating = b.useIsolating
  formatter : b'.formatter = b.formatter
  function : ∀ name, b'.function? name = b.function? name ∨
    b.function? name = none ∧ excused (.unknownFunction name)
  pattern : ∀ t, b'.targetPattern t = (b.targetPattern t).map (Pattern.mapText f) ∨
    ∃ e, b.targetPattern t = .error e ∧ excused e

section Forms

variable (f : String → String)

@[simp] theorem Expression.target?_mapText (e : Expression) :
    (e.mapText f).target? = e.target? := by
  cases e with
  | term name attr arguments => cases arguments <;> rfl
  | literal | «variable» | message | call | select => rfl

theorem namedValues_mapText {γ : Type} (arguments : List Argument) :
    (namedValues (Argument.listMapText f arguments) : Arguments γ) = namedValues arguments := by
  unfold namedValues
  rw [Argument.listMapText_eq, List.filterMap_map]
  congr 2
  funext a
  cases a <;> rfl

theorem Expression.localArguments_mapText {γ : Type} (e : Expression) :
    ((e.mapText f).localArguments : Option (Arguments γ)) = e.localArguments := by
  cases e with
  | term name attr arguments =>
      cases arguments with
      | none => rfl
      | some arguments => exact congrArg some (namedValues_mapText f arguments)
  | literal | «variable» | message | call | select => rfl

end Forms

/-! ## The steps of one level -/

namespace Environment

open Resolving

def Changed (f : String → String) (e e' : Expression) : Prop := e' = e.mapText f

section Steps

variable {γ α : Type} [CustomValue γ] {f : String → String} {excused : ResolverError → Prop}
  {inner : Expression → Expression → Prop}

theorem mirrors_askOr (fallback : α) (question : Formatting (Except FormatError α)) :
    Mirrors excused inner (askOr fallback question : Resolving γ α) (askOr fallback question) := by
  refine .bind (.ask question) fun answer => ?_
  cases answer with
  | ok a => exact .pure a
  | error reason =>
      refine .look fun view view' h => ?_
      rw [h.locale]
      exact .bind (.report _) fun _ => .pure fallback

theorem mirrors_renderBuiltin (v : Value γ) :
    Mirrors excused inner (renderBuiltin v) (renderBuiltin v) := by
  cases v with
  | text s => exact .pure s
  | number n => exact mirrors_askOr _ _
  | instant t => exact mirrors_askOr _ _
  | absent fallback => exact .pure _
  | custom c =>
      refine .look fun view view' h => ?_
      rw [h.format]
      exact .pure _

theorem mirrors_resolveVariable (name : String) :
    Mirrors excused inner (resolveVariable name : Resolving γ _) (resolveVariable name) := by
  refine .look fun view view' h => ?_
  rw [h.argument?, h.inTerm]
  cases view.argument? name with
  | some v => exact .pure v
  | none =>
      cases view.inTerm with
      | true => exact .pure _
      | false => exact .bind (.report _) fun _ => .pure _

theorem mirrors_categoryOf (v : Value γ) :
    Mirrors excused inner (categoryOf v) (categoryOf v) := by
  cases v with
  | number n => exact mirrors_askOr none _
  | text | instant | absent | custom => exact .pure none

theorem mirrors_resolvePositional (arguments : List Argument) :
    Mirrors excused (Changed f) (resolvePositional arguments : Resolving γ _)
      (resolvePositional (Argument.listMapText f arguments)) := by
  induction arguments with
  | nil => exact .pure []
  | cons a rest ih =>
      cases a with
      | positional e => exact .bind (.inner rfl) fun v => .bind ih fun vs => .pure (v :: vs)
      | named name value => exact ih

/-! Keys choose a variant before its text is shown. -/

theorem exactVariant?_mapText {view view' : ScopeView γ} (h : view.LooksLike view')
    (selector : Value γ) (variants : List Variant) :
    exactVariant? view' selector (Variant.listMapText f variants) =
      (exactVariant? view selector variants).map (Variant.mapText f) := by
  have hkey (v : Variant) :
      matchesExactly view' selector (v.mapText f).key = matchesExactly view selector v.key := by
    rw [Variant.key_mapText]
    cases selector with
    | custom c => simp only [matchesExactly, h.selects]
    | text | number | instant | absent => cases v.key <;> rfl
  unfold exactVariant?
  rw [Variant.listMapText_eq, List.find?_map]
  congr 2
  funext v
  exact hkey v

theorem categoryVariant?_mapText (category : PluralCategory) (variants : List Variant) :
    categoryVariant? category (Variant.listMapText f variants) =
      (categoryVariant? category variants).map (Variant.mapText f) := by
  unfold categoryVariant?
  rw [Variant.listMapText_eq, List.find?_map]
  congr 2
  funext v
  simp

theorem bind_categoryVariant?_mapText (category : Option PluralCategory)
    (variants : List Variant) :
    category.bind (categoryVariant? · (Variant.listMapText f variants)) =
      (category.bind (categoryVariant? · variants)).map (Variant.mapText f) := by
  cases category with
  | none => rfl
  | some c => exact categoryVariant?_mapText c variants

end Steps

variable [FormatterSource] {γ α : Type} [CustomValue γ] {env env' : Environment γ}
  {f : String → String} {excused : ResolverError → Prop}

theorem mirrors_render {inner : Expression → Expression → Prop}
    (hformatter : env'.bundle.formatter = env.bundle.formatter) (v : Value γ) :
    Mirrors excused inner (env.render v) (env'.render v) := by
  unfold render
  rw [hformatter]
  cases env.bundle.formatter with
  | none => exact mirrors_renderBuiltin v
  | some formatter =>
      refine .bind (.ask _) fun shown => ?_
      cases shown with
      | none => exact mirrors_renderBuiltin v
      | some text => exact .pure text

section Mirrored

variable (hb : Bundle.Mirrored f excused env.bundle env'.bundle)
include hb

theorem mirrors_showElements (isolate : Bool) (elements : List Element) :
    Mirrors excused (Changed f) (env.showElements isolate elements)
      (env'.showElements isolate (Element.listMapText f elements)) := by
  induction elements with
  | nil => exact .pure ""
  | cons element rest ih =>
      have hfirst : Mirrors excused (Changed f) (env.showElement isolate element)
          (env'.showElement isolate (element.mapText f)) := by
        cases element with
        | text s =>
            simp only [showElement, Element.mapText, hb.text]
            exact .pure _
        | placeable e =>
            refine .bind (.inner rfl) fun v => ?_
            exact .bind (mirrors_render hb.formatter v) fun text => .pure _
      exact .bind hfirst fun text => .bind ih fun rest => .pure (text ++ rest)

theorem mirrors_showPattern (p : Pattern) :
    Mirrors excused (Changed f) (env.showPattern p) (env'.showPattern (p.mapText f)) := by
  cases p with
  | text s =>
      simp only [showPattern, Pattern.mapText, hb.text]
      exact .pure _
  | complex elements =>
      simp only [showPattern, Pattern.mapText, hb.useIsolating]
      have hlength : (Element.listMapText f elements).length = elements.length := by
        simp [Element.listMapText_eq]
      rw [hlength]
      exact mirrors_showElements hb _ elements

theorem mirrors_resolveVariant (v : Variant) :
    Mirrors excused (Changed f) (env.resolveVariant v) (env'.resolveVariant (v.mapText f)) := by
  unfold resolveVariant
  rw [Variant.value_mapText]
  exact (mirrors_showPattern hb v.value).map Value.text

theorem mirrors_resolveDefault (variants : List Variant) (star : UInt64) :
    Mirrors excused (Changed f) (env.resolveDefault variants star)
      (env'.resolveDefault (Variant.listMapText f variants) star) := by
  unfold resolveDefault
  simp only [Variant.listMapText_eq, List.getElem?_map, List.length_map]
  cases variants[star.toNat]? with
  | some v => exact mirrors_resolveVariant hb v
  | none => exact mirrors_fallBack _ none

theorem mirrors_resolveSelect (selector : Expression) (variants : List Variant) (star : UInt64) :
    Mirrors excused (Changed f) (env.resolveSelect selector variants star)
      (env'.resolveSelect (selector.mapText f) (Variant.listMapText f variants) star) := by
  have hdefault := mirrors_resolveDefault hb variants star
  refine .bind (.inner rfl) fun v => ?_
  cases v.isAbsent with
  | true => exact hdefault
  | false =>
      refine .look fun view view' h => ?_
      simp only [exactVariant?_mapText h]
      cases exactVariant? view v variants with
      | some variant => exact mirrors_resolveVariant hb variant
      | none =>
          refine .bind (mirrors_categoryOf v) fun category => ?_
          simp only [bind_categoryVariant?_mapText]
          cases category.bind (categoryVariant? · variants) with
          | some variant => exact mirrors_resolveVariant hb variant
          | none => exact hdefault

theorem mirrors_resolveCall (name : String) (arguments : List Argument) :
    Mirrors excused (Changed f) (env.resolveCall name arguments)
      (env'.resolveCall name (Argument.listMapText f arguments)) := by
  unfold resolveCall
  rcases hb.function name with hsame | ⟨hnone, hexcused⟩
  · rw [hsame]
    cases env.bundle.function? name with
    | none => exact mirrors_fallBack _ _
    | some call =>
        refine .bind (mirrors_resolvePositional arguments) fun positional => ?_
        rw [namedValues_mapText]
        cases call positional (namedValues arguments) with
        | ok v => exact .pure v
        | error source => exact mirrors_fallBack _ _
  · rw [hnone]
    exact mirrors_of_excused hexcused _ _

/-- The steps for an expression with changed texts. -/
theorem mirrors_resolveForm {e e' : Expression} (he : Changed f e e') :
    Mirrors excused (Changed f) (env.resolveForm e) (env'.resolveForm e') := by
  obtain rfl : e' = e.mapText f := he
  cases htarget : e.target? with
  | none =>
      cases e with
      | literal l => exact .pure _
      | «variable» name => exact mirrors_resolveVariable name
      | call name arguments => exact mirrors_resolveCall hb name arguments
      | select selector variants star => exact mirrors_resolveSelect hb selector variants star
      | message | term => simp [Expression.target?] at htarget
  | some t =>
      have htarget' : (e.mapText f).target? = some t := (e.target?_mapText f).trans htarget
      rw [resolveForm_of_target htarget, resolveForm_of_target htarget',
        Expression.localArguments_mapText]
      rcases hb.pattern t with hsame | ⟨err, herr, hexcused⟩
      · rw [hsame]
        cases env.bundle.targetPattern t with
        | error err => exact mirrors_fallBack err _
        | ok p => exact .withLocal _ (.opening _ ((mirrors_showPattern hb p).map Value.text))
      · rw [herr]
        exact mirrors_of_excused hexcused _ _

/-- In paired scopes, an expression with changed texts follows the expression. -/
theorem resolve_mapText_follows (pairing : Pairing env env' excused) (e : Expression)
    {s s' : Scope γ} (hs : pairing.Paired s s') :
    Follows excused (env.resolve e) (env'.resolve (e.mapText f)) s s' :=
  resolve_follows pairing (fun _ _ => mirrors_resolveForm hb) rfl hs

theorem resolvePattern_mapText_follows (pairing : Pairing env env' excused) (p : Pattern)
    {s s' : Scope γ} (hs : pairing.Paired s s') :
    Follows excused (env.resolvePattern p) (env'.resolvePattern (p.mapText f)) s s' :=
  resolvePattern_follows pairing (fun _ _ => mirrors_resolveForm hb) (mirrors_showPattern hb p) hs

end Mirrored

end Environment

/-! ## Scopes with the same in sight -/

/-- Changing what values of the host see of a scope makes no difference to them. -/
def CustomValue.Ignores (γ : Type) [CustomValue γ] (change : ScopeView γ → ScopeView γ) : Prop :=
  ∀ (c : γ) (view : ScopeView γ), CustomValue.format c (change view) = CustomValue.format c view ∧
    ∀ key, CustomValue.selects c key (change view) = CustomValue.selects c key view

theorem CustomValue.Ignores.looksLike {γ : Type} [CustomValue γ]
    {change : ScopeView γ → ScopeView γ} (h : Ignores γ change) {view : ScopeView γ}
    (hargument : (change view).argument? = view.argument?)
    (hinTerm : (change view).inTerm = view.inTerm) (hlocale : (change view).locale = view.locale) :
    view.LooksLike (change view) :=
  ⟨hargument, hinTerm, hlocale, fun c => (h c view).1, fun c key => (h c view).2 key⟩

/-- Arguments are found alike, whatever the bundles are. -/
theorem Environment.argument?_mk [FormatterSource] {γ : Type} (b b' : Bundle γ)
    (arguments : Option (Arguments γ)) {s s' : Scope γ} (h : s'.localArguments = s.localArguments) :
    (Environment.mk b' arguments).argument? s' = (Environment.mk b arguments).argument? s := by
  funext name
  unfold argument?
  rw [h]

/-- A value of a host that shows its name and is chosen by it, wherever it stands. -/
structure Badge where
  name : String

instance : CustomValue Badge where
  format b _ := b.name
  selects b key _ :=
    match key with
    | .text s => s == b.name
    | .number .. => false

theorem Badge.ignores (change : ScopeView Badge → ScopeView Badge) :
    CustomValue.Ignores Badge change :=
  fun _ _ => ⟨rfl, fun _ => rfl⟩

/-- A value of a host that shows the text of a message as it stands there. -/
structure Quotation where
  id : String

instance : CustomValue Quotation where
  format q view :=
    match (view.messages.get? q.id).bind (·.value) with
    | some (.text s) => s
    | some (.complex _) => "(in pieces)"
    | none => "(none)"

theorem Quotation.ignores_transformText (t : String → String) :
    CustomValue.Ignores Quotation fun view => { view with transformText := t } :=
  fun _ _ => ⟨rfl, fun _ => rfl⟩

def Bundle.quoting (p : Pattern) : Bundle Quotation :=
  ((ofOptions {}).addResource false
    ⟨[⟨"m", some (.complex [.placeable (.variable "q")]), .empty⟩, ⟨"n", some p, .empty⟩]⟩).1

structure Scope.Twin [FormatterSource] {γ : Type} (s s' : Scope γ) : Prop extends Beside s s' where
  localArguments : s'.localArguments = s.localArguments

/-- Two environments with one ceiling, in which scopes with the same in sight look alike. -/
def Pairing.twins [FormatterSource] {γ : Type} [CustomValue γ] {env env' : Environment γ}
    {excused : ResolverError → Prop} (hdepth : env'.bundle.maxDepth = env.bundle.maxDepth)
    (hlooks : ∀ s s' : Scope γ, s.Twin s' → (env.view s).LooksLike (env'.view s')) :
    Pairing env env' excused where
  Paired := Scope.Twin
  stays h hs hs' := by
    refine ⟨⟨?_, ?_, ?_⟩, ?_⟩
    · rw [hs'.depth, hs.depth, h.depth]
    · rw [hs'.active, hs.active, h.active]
    · rw [hs'.locale, hs.locale, h.locale]
    · rw [hs'.localArguments, hs.localArguments, h.localArguments]
  looks h := hlooks _ _ h
  descend {s s'} h := by
    rw [hdepth]
    rcases h.toBeside.descend env.bundle.maxDepth with ⟨t, t', ht, ht', hstay⟩ | ⟨e, he, he'⟩
    · have hlocals : t'.localArguments = t.localArguments := by
        rw [hstay.localArguments', hstay.localArguments, h.localArguments]
      exact .inl ⟨t, t', ht, ht', hstay.beside, hlocals⟩
    · exact .inr ⟨e, he, .inr he'⟩
  pushEntry key {s s'} h := by
    rcases h.toBeside.pushEntry key with ⟨t, t', ht, ht', hstay⟩ | ⟨e, he, he'⟩
    · have hlocals : t'.localArguments = t.localArguments := by
        rw [hstay.localArguments', hstay.localArguments, h.localArguments]
      exact .inl ⟨t, t', ht, ht', hstay.beside, hlocals⟩
    · exact .inr ⟨e, he, .inr he'⟩
  withLocal _ {s s'} h := ⟨⟨h.depth, h.active, h.locale⟩, rfl⟩

/-! ## What is given back -/

def Ending.Reports [FormatterSource] {γ α : Type} (s : Scope γ) (r : Ending γ α)
    (e : ResolverError) : Prop :=
  r.result = .error e ∨
    ∃ old added, s.errors = some old ∧ r.scope.errors = some (old ++ added) ∧ e ∈ added

theorem Ending.Reports.mem [FormatterSource] {γ α : Type} {s : Scope γ} {r : Ending γ α}
    {e : ResolverError} {a : α}
    {held added : List ResolverError} (h : r.Reports s e) (hs : s.errors = some held)
    (hresult : r.result = .ok a) (herrors : r.scope.errors = some (held ++ added)) :
    e ∈ added := by
  rcases h with h | ⟨old, added', hold, hadded, he⟩
  · rw [hresult] at h
    cases h
  · obtain rfl : held = old := by simpa [hs] using hold
    have hsame : added = added' := by simpa [herrors] using hadded
    exact hsame ▸ he

/-- Two runs that follow each other, both collecting errors or both not, give the same back and add
the same errors, unless the first reports an excused one. -/
theorem Follows.sameFrom [FormatterSource] {γ α : Type} {excused : ResolverError → Prop}
    {run run' : Scope γ → Ending γ α} {s s' : Scope γ} (h : Follows excused run run' s s')
    (hcollect : s'.errors.isSome = s.errors.isSome)
    (hkept : s.errors = none → (run s).scope.errors = none)
    (hkept' : s'.errors = none → (run' s').scope.errors = none)
    (hclear : ∀ e, (run s).Reports s e → ¬excused e) :
    Ending.SameFrom s s' (run s) (run' s') := by
  obtain ⟨a, added, t, a', added', t', hrun, hrun', hrest⟩ := h
  rcases hrest with ⟨before, e, he, hfirst, hsecond⟩ | ⟨rfl, rfl, -, -⟩
  · cases hs : s.errors with
    | some held =>
        have hmem : e ∈ added := hfirst.subset (List.mem_append_right before List.mem_cons_self)
        have hadded : (run s).scope.errors = some (held ++ added) := by
          rw [hrun.of_collecting hs]
          rfl
        exact absurd he (hclear e (.inr ⟨held, added, hs, hadded, hmem⟩))
    | none =>
        have hs' : s'.errors = none := by simpa [hs] using hcollect
        have hstops := hrun.of_not_collecting hs
        have hstops' := hrun'.of_not_collecting hs'
        cases before with
        | nil =>
            -- The first run stops with the excused error itself.
            obtain ⟨rest, rfl⟩ := hfirst
            exact absurd he (hclear e (.inl hstops.result))
        | cons first more =>
            obtain ⟨rest, rfl⟩ := hfirst
            obtain ⟨rest', rfl⟩ := hsecond
            refine Ending.sameFrom_of_not_collecting hs hs' (hkept hs) (hkept' hs') ?_
            exact hstops'.result.trans hstops.result.symm
  · exact hrun.sameFrom hrun' hcollect hkept hkept'

def Outcome.SameAnswer [FormatterSource] (o o' : Outcome) : Prop :=
  o'.result = o.result ∧ o'.errors = o.errors

theorem Ending.SameFrom.sameAnswer [FormatterSource] {γ : Type} {s s' : Scope γ}
    {r r' : Ending γ String} (h : SameFrom s s' r r') (herrors : s'.errors = s.errors) :
    (Outcome.ofEnding r).SameAnswer (.ofEnding r') := by
  obtain ⟨hresult, added, hadded, hadded'⟩ := h
  refine ⟨?_, ?_⟩
  · rw [Outcome.result_ofEnding, Outcome.result_ofEnding, hresult]
  · rw [Outcome.errors_ofEnding, Outcome.errors_ofEnding, hadded, hadded', herrors]

theorem Ending.Reports.ofEnding [FormatterSource] {γ : Type} {s : Scope γ} {r : Ending γ String}
    {e : ResolverError} (h : r.Reports s e) : (Outcome.ofEnding r).Reports s.errors e := by
  unfold Outcome.Reports
  rw [Outcome.result_ofEnding, Outcome.errors_ofEnding]
  exact h

section Environments

variable [FormatterSource] {γ : Type} [CustomValue γ] {env env' : Environment γ}
  {excused : ResolverError → Prop} {f : String → String} {s s' : Scope γ}

/-- An expression with changed texts gives the same as the expression in a paired scope, unless that
reports an excused error. -/
theorem Environment.resolve_mapText_sameFrom (hb : env.bundle.Mirrored f excused env'.bundle)
    (pairing : Pairing env env' excused) (hs : pairing.Paired s s')
    (hcollect : s'.errors.isSome = s.errors.isSome) (e : Expression)
    (hclear : ∀ err, (env.resolve e s).Reports s err → ¬excused err) :
    Ending.SameFrom s s' (env.resolve e s) (env'.resolve (e.mapText f) s') :=
  (resolve_mapText_follows hb pairing e hs).sameFrom hcollect resolve_errors_none
    resolve_errors_none hclear

theorem Environment.resolvePattern_mapText_sameFrom
    (hb : env.bundle.Mirrored f excused env'.bundle) (pairing : Pairing env env' excused)
    (hs : pairing.Paired s s') (hcollect : s'.errors.isSome = s.errors.isSome) (p : Pattern)
    (hclear : ∀ err, (env.resolvePattern p s).Reports s err → ¬excused err) :
    Ending.SameFrom s s' (env.resolvePattern p s) (env'.resolvePattern (p.mapText f) s') :=
  (resolvePattern_mapText_follows hb pairing p hs).sameFrom hcollect resolvePattern_errors_none
    resolvePattern_errors_none hclear

end Environments

namespace Bundle

variable [FormatterSource] {γ : Type} [CustomValue γ] {b b' : Bundle γ} {f : String → String}
  {excused : ResolverError → Prop} {arguments arguments' : Option (Arguments γ)}

/-- A call on a mirrored bundle shows a pattern with changed texts as the other bundle shows the
pattern, unless that reports an excused error. -/
theorem formatPattern_mapText (hb : b.Mirrored f excused b')
    (pairing : Pairing (Environment.mk b arguments) (Environment.mk b' arguments') excused)
    {errors : Option (List ResolverError)}
    (hstart : pairing.Paired (.start b errors) (.start b' errors)) (p : Pattern)
    (hclear : ∀ e, (b.formatPattern p arguments errors).Reports errors e → ¬excused e) :
    (b.formatPattern p arguments errors).SameAnswer
      (b'.formatPattern (p.mapText f) arguments' errors) := by
  rw [formatPattern_eq_resolved] at hclear ⊢
  rw [formatPattern_eq_resolved]
  exact (Environment.resolvePattern_mapText_sameFrom hb pairing hstart rfl p
    fun e he => hclear e he.ofEnding).sameAnswer rfl

end Bundle

end Phrasebook
