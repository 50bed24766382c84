import Mathlib.Data.List.Forall2
import Phrasebook.Proofs.Resolution.Levels
import Phrasebook.Proofs.Resolution.Lockstep

/-!
# Expressions that match

Two expressions of one form, on two bundles that have the same to offer, go in lockstep if the
parts match that stand in the same places: element by element, argument by argument, variant by
variant. What matching parts are is left open; a reference matches another to the same target, and
there it is the patterns behind them that have to match.
-/

namespace Phrasebook

/-! ## Matching parts -/

section Parts

variable (P : Expression → Expression → Prop)

inductive Element.Matches : Element → Element → Prop where
  | text (s : String) : Matches (.text s) (.text s)
  | placeable {e e' : Expression} : P e e' → Matches (.placeable e) (.placeable e')

inductive Argument.Matches : Argument → Argument → Prop where
  | positional {e e' : Expression} : P e e' → Matches (.positional e) (.positional e')
  | named (name : String) (value : Literal) : Matches (.named name value) (.named name value)

inductive Pattern.Matches : Pattern → Pattern → Prop where
  | text (s : String) : Matches (.text s) (.text s)
  | complex {elements elements' : List Element} :
      List.Forall₂ (Element.Matches P) elements elements' →
        Matches (.complex elements) (.complex elements')

structure Variant.Matches (v v' : Variant) : Prop where
  key : v'.key = v.key
  value : v.value.Matches P v'.value

end Parts

section Parts

variable {P : Expression → Expression → Prop}

theorem namedValues_of_matches {γ : Type} {arguments arguments' : List Argument}
    (h : List.Forall₂ (Argument.Matches P) arguments arguments') :
    (namedValues arguments' : Arguments γ) = namedValues arguments := by
  unfold namedValues
  congr 1
  induction h with
  | nil => rfl
  | cons ha _ ih =>
      cases ha with
      | positional _ => exact ih
      | named name value => simpa using ih

theorem find?_of_matches {variants variants' : List Variant}
    (h : List.Forall₂ (Variant.Matches P) variants variants') (q : Literal → Bool) :
    Option.Rel (Variant.Matches P) (variants.find? fun v => q v.key)
      (variants'.find? fun v => q v.key) := by
  induction h with
  | nil => exact .none
  | @cons v v' _ _ hv _ ih =>
      rw [List.find?_cons, List.find?_cons, hv.key]
      cases q v.key with
      | true => exact .some hv
      | false => exact ih

theorem getElem?_of_matches {variants variants' : List Variant}
    (h : List.Forall₂ (Variant.Matches P) variants variants') (i : Nat) :
    Option.Rel (Variant.Matches P) variants[i]? variants'[i]? := by
  induction h generalizing i with
  | nil => exact .none
  | cons hv _ ih =>
      cases i with
      | zero => exact .some hv
      | succ i => simpa using ih i

theorem Pattern.Matches.refl {p : Pattern} (h : ∀ e ∈ p.inner, P e e) : p.Matches P p := by
  cases p with
  | text s => exact .text s
  | complex elements =>
      refine .complex (List.forall₂_same.2 fun element helement => ?_)
      cases element with
      | text s => exact .text s
      | placeable e => exact .placeable (h e (List.mem_filterMap.2 ⟨_, helement, rfl⟩))

theorem Argument.matches_refl {arguments : List Argument}
    (h : ∀ e ∈ arguments.filterMap Argument.expression?, P e e) :
    List.Forall₂ (Argument.Matches P) arguments arguments := by
  refine List.forall₂_same.2 fun a ha => ?_
  cases a with
  | positional e => exact .positional (h e (List.mem_filterMap.2 ⟨_, ha, rfl⟩))
  | named name value => exact .named name value

theorem Variant.matches_refl {variants : List Variant}
    (h : ∀ v ∈ variants, ∀ e ∈ v.value.inner, P e e) :
    List.Forall₂ (Variant.Matches P) variants variants :=
  List.forall₂_same.2 fun v hv => ⟨rfl, .refl (h v hv)⟩

end Parts

def Target.isTerm : Target → Bool
  | .message .. => false
  | .term .. => true

/-- References to terms hand over arguments, and only they do. -/
theorem Expression.isSome_localArguments {γ : Type} {e : Expression} {t : Target}
    (he : e.target? = some t) : (e.localArguments : Option (Arguments γ)).isSome = t.isTerm := by
  cases e with
  | message | term =>
      cases he
      rfl
  | literal | «variable» | call | select => cases he

theorem Expression.sameTerm_of_target {γ : Type} {e e' : Expression} {t : Target}
    (he : e.target? = some t) (he' : e'.target? = some t) :
    (e'.localArguments : Option (Arguments γ)).isSome =
      (e.localArguments : Option (Arguments γ)).isSome :=
  (isSome_localArguments he').trans (isSome_localArguments he).symm

/-- Apart from their entries and from how they set texts off, the environments of a comparison have
the same to offer. A hook that shows values could tell texts apart that are alike, so there is one
only if alike texts are equal. -/
structure Comparison.Fair [FormatterSource] {γ : Type} [CustomValue γ] (c : Comparison γ) :
    Prop where
  maxDepth : c.env'.bundle.maxDepth = c.env.bundle.maxDepth
  function : ∀ name, c.env'.bundle.function? name = c.env.bundle.function? name
  transformText : ∀ s, c.env'.bundle.transformText s = c.env.bundle.transformText s
  formatter : c.env'.bundle.formatter = c.env.bundle.formatter
  hook : c.env.bundle.formatter.isSome → ∀ a b, c.TextsAlike a b → a = b
  format : ∀ stage e e', c.Compares stage e e' → ∀ s s', stage.Reached s s' → ∀ x,
    CustomValue.format x (c.env'.view s') = CustomValue.format x (c.env.view s)
  selects : ∀ stage e e', c.Compares stage e e' → ∀ s s', stage.Reached s s' → ∀ x key,
    CustomValue.selects x key (c.env'.view s') = CustomValue.selects x key (c.env.view s)
  refl : ∀ s, c.TextsAlike s s
  append : ∀ a a' b b', c.TextsAlike a a' → c.TextsAlike b b' → c.TextsAlike (a ++ b) (a' ++ b')
  marks : ∀ several a a', c.TextsAlike a a' →
    c.TextsAlike (if c.env.bundle.useIsolating && several then isolated a else a)
      (if c.env'.bundle.useIsolating && several then isolated a' else a')

/-! ## The steps of one level -/

namespace Comparison

open Environment Resolving

variable [FormatterSource] {γ α : Type} {c : Comparison γ} {stage : Stage γ}

theorem parallel_fallBack (e : ResolverError) (fallback : Option String) :
    c.Parallel stage (· = ·) (fallBack e fallback : Resolving γ _) (fallBack e fallback) :=
  .bind (.report e) fun _ _ _ => .pure rfl

theorem parallel_askOr (fallback : α) (question : Formatting (Except FormatError α)) :
    c.Parallel stage (· = ·) (askOr fallback question : Resolving γ α)
      (askOr fallback question) := by
  refine .bind (.ask question) fun answer answer' h => ?_
  subst h
  cases answer with
  | ok a => exact .pure rfl
  | error reason =>
      have hlocale : ∀ s s' : Scope γ, stage.Reached s s' →
          (c.env.view s).locale = (c.env'.view s').locale := by
        rintro s s' ⟨-, -, rfl⟩
        rfl
      refine .bind (.look (R := fun view view' => view.locale = view'.locale) hlocale) ?_
      intro view view' h
      rw [h]
      exact .bind (.report _) fun _ _ _ => .pure rfl

/-- A variable that is found in both or in neither, with the same value. -/
theorem parallel_resolveVariable {name : String}
    (hfound : ∀ s s', stage.Reached s s' → c.env'.argument? s' name = c.env.argument? s name) :
    c.Parallel stage (· = ·) (resolveVariable name) (resolveVariable name) := by
  refine .bind (.look (R := fun view view' =>
    view'.argument? name = view.argument? name ∧ view'.inTerm = view.inTerm) ?_) ?_
  · intro s s' hs
    refine ⟨hfound s s' hs, ?_⟩
    simp only [view, Scope.inTerm, hs.same, hs.given, stage.inTerm]
  · rintro view view' ⟨hargument, hinTerm⟩
    rw [hargument, hinTerm]
    cases view.argument? name with
    | some v => exact .pure rfl
    | none =>
        cases view.inTerm with
        | true => exact .pure rfl
        | false => exact .bind (.report _) fun _ _ _ => .pure rfl

theorem parallel_categoryOf (v : Value γ) :
    c.Parallel stage (· = ·) (categoryOf v) (categoryOf v) := by
  cases v with
  | number n => exact parallel_askOr none _
  | text | instant | absent | custom => exact .pure rfl

theorem parallel_inner {e e' : Expression} (he : c.Compares stage e e') (hexact : c.Exact e) :
    c.Parallel stage (· = ·) (.inner e) (.inner e') :=
  (Parallel.inner he).weaken fun _ _ h => h.exact hexact

/-- Where arguments come to the same values, so do the lists of them. -/
theorem parallel_resolvePositional {P : Expression → Expression → Prop}
    (hP : ∀ e e', P e e' → c.Compares stage e e' ∧ c.Exact e) {arguments arguments' : List Argument}
    (h : List.Forall₂ (Argument.Matches P) arguments arguments') :
    c.Parallel stage (· = ·) (resolvePositional arguments) (resolvePositional arguments') := by
  induction h with
  | nil => exact .pure rfl
  | cons ha _ ih =>
      cases ha with
      | named name value => exact ih
      | positional he =>
          refine .bind (parallel_inner (hP _ _ he).1 (hP _ _ he).2) fun v v' hv => ?_
          refine .bind ih fun vs vs' hvs => ?_
          subst hv hvs
          exact .pure rfl

variable [CustomValue γ] (hc : c.Fair)
include hc

section Values

variable {e e' : Expression} (he : c.Compares stage e e')
include he

theorem parallel_renderBuiltin (v : Value γ) :
    c.Parallel stage (· = ·) (renderBuiltin v) (renderBuiltin v) := by
  cases v with
  | text s => exact .pure rfl
  | number n => exact parallel_askOr _ _
  | instant t => exact parallel_askOr _ _
  | absent fallback => exact .pure rfl
  | custom x =>
      refine .bind (.look (R := fun view view' =>
        CustomValue.format x view' = CustomValue.format x view) ?_) fun view view' h => ?_
      · exact fun s s' hs => hc.format stage e e' he s s' hs x
      · exact .pure h.symm

theorem parallel_render_same (v : Value γ) :
    c.Parallel stage (· = ·) (c.env.render v) (c.env'.render v) := by
  unfold render
  rw [hc.formatter]
  cases c.env.bundle.formatter with
  | none => exact parallel_renderBuiltin hc he v
  | some hook =>
      refine .bind (.ask _) fun shown shown' h => ?_
      subst h
      cases shown with
      | none => exact parallel_renderBuiltin hc he v
      | some text => exact .pure rfl

/-- Alike texts are shown alike: a hook would be shown the same ones. -/
theorem parallel_render {v v' : Value γ} (h : v.Alike c.TextsAlike v') :
    c.Parallel stage c.TextsAlike (c.env.render v) (c.env'.render v') := by
  cases h with
  | same =>
      refine (parallel_render_same hc he v).weaken ?_
      rintro text _ rfl
      exact hc.refl text
  | @text a b htexts =>
      cases hhook : c.env.bundle.formatter with
      | some hook =>
          obtain rfl : a = b := hc.hook (by simp [hhook]) a b htexts
          refine (parallel_render_same hc he (.text a)).weaken ?_
          rintro text _ rfl
          exact hc.refl text
      | none =>
          unfold render
          rw [hc.formatter, hhook]
          exact .pure htexts

end Values

section Patterns

variable {P : Expression → Expression → Prop}
  (hP : ∀ e e', P e e' → c.Compares stage e e')
include hP

theorem parallel_showElements (several : Bool) {elements elements' : List Element}
    (h : List.Forall₂ (Element.Matches P) elements elements') :
    c.Parallel stage c.TextsAlike
      (c.env.showElements (c.env.bundle.useIsolating && several) elements)
      (c.env'.showElements (c.env'.bundle.useIsolating && several) elements') := by
  induction h with
  | nil => exact .pure (hc.refl "")
  | @cons element element' _ _ helement _ ih =>
      have hfirst : c.Parallel stage c.TextsAlike
          (c.env.showElement (c.env.bundle.useIsolating && several) element)
          (c.env'.showElement (c.env'.bundle.useIsolating && several) element') := by
        cases helement with
        | text s =>
            simp only [showElement, hc.transformText]
            exact .pure (hc.refl _)
        | placeable he =>
            refine .bind (.inner (hP _ _ he)) fun v v' hv => ?_
            refine .bind (parallel_render hc (hP _ _ he) hv.alike) fun text text' htext => ?_
            exact .pure (hc.marks several text text' htext)
      refine .bind hfirst fun a a' ha => .bind ih fun b b' hb => ?_
      exact .pure (hc.append a a' b b' ha hb)

theorem parallel_showPattern {p p' : Pattern} (h : p.Matches P p') :
    c.Parallel stage c.TextsAlike (c.env.showPattern p) (c.env'.showPattern p') := by
  cases h with
  | text s =>
      simp only [showPattern, hc.transformText]
      exact .pure (hc.refl _)
  | complex h =>
      simp only [showPattern, ← h.length_eq]
      exact parallel_showElements hc hP _ h

theorem parallel_textOf {p p' : Pattern} (h : p.Matches P p') :
    c.Parallel stage (Value.Alike c.TextsAlike)
      (Value.text <$> c.env.showPattern p : Resolving γ (Value γ))
      (Value.text <$> c.env'.showPattern p') :=
  (parallel_showPattern hc hP h).map fun _ _ => .text

theorem parallel_resolveDefault {variants variants' : List Variant} (star : UInt64)
    (h : List.Forall₂ (Variant.Matches P) variants variants') :
    c.Parallel stage (Value.Alike c.TextsAlike) (c.env.resolveDefault variants star)
      (c.env'.resolveDefault variants' star) := by
  have hget := getElem?_of_matches h star.toNat
  unfold resolveDefault
  rw [← h.length_eq]
  generalize variants[star.toNat]? = found at hget
  generalize variants'[star.toNat]? = found' at hget
  cases hget with
  | none => exact (parallel_fallBack _ none).weaken fun _ _ => .of_eq
  | some hv => exact parallel_textOf hc hP hv.value

/-- A select expression whose selector has the same value in both. -/
theorem parallel_resolveSelect {selector selector' : Expression} {variants variants' : List Variant}
    (star : UInt64) (hselector : c.Compares stage selector selector') (hexact : c.Exact selector)
    (h : List.Forall₂ (Variant.Matches P) variants variants') :
    c.Parallel stage (Value.Alike c.TextsAlike) (c.env.resolveSelect selector variants star)
      (c.env'.resolveSelect selector' variants' star) := by
  have hdefault := parallel_resolveDefault hc hP star h
  refine .bind (parallel_inner hselector hexact) fun v v' hv => ?_
  subst hv
  cases v.isAbsent with
  | true => exact hdefault
  | false =>
      have hexactly : ∀ s s', stage.Reached s s' →
          matchesExactly (c.env'.view s') v = matchesExactly (c.env.view s) v := by
        intro s s' hs
        funext key
        cases v with
        | custom x => exact hc.selects stage _ _ hselector s s' hs x key
        | text | number | instant | absent => cases key <;> rfl
      -- The selector is the same in both, so the keys choose variants in the same place.
      refine .bind (.look (R := fun view view' =>
        matchesExactly view' v = matchesExactly view v) hexactly) fun view view' hview => ?_
      have hexact : Option.Rel (Variant.Matches P) (exactVariant? view v variants)
          (exactVariant? view' v variants') := by
        unfold exactVariant?
        rw [hview]
        exact find?_of_matches h (matchesExactly view v)
      generalize exactVariant? view v variants = found at hexact
      generalize exactVariant? view' v variants' = found' at hexact
      cases hexact with
      | some hvariant => exact parallel_textOf hc hP hvariant.value
      | none =>
          refine .bind (parallel_categoryOf v) fun category category' hcategory => ?_
          subst hcategory
          have hfound : Option.Rel (Variant.Matches P)
              (category.bind (categoryVariant? · variants))
              (category.bind (categoryVariant? · variants')) := by
            cases category with
            | none => exact .none
            | some category => exact find?_of_matches h (matchesCategory category)
          generalize category.bind (categoryVariant? · variants) = found at hfound
          generalize category.bind (categoryVariant? · variants') = found' at hfound
          cases hfound with
          | some hvariant => exact parallel_textOf hc hP hvariant.value
          | none => exact hdefault

end Patterns

/-- A call whose arguments have the same values in both has the same value itself. -/
theorem parallel_resolveCall {P : Expression → Expression → Prop} (name : String)
    {arguments arguments' : List Argument}
    (hP : ∀ e e', P e e' → c.Compares stage e e' ∧ c.Exact e)
    (h : List.Forall₂ (Argument.Matches P) arguments arguments') :
    c.Parallel stage (· = ·) (c.env.resolveCall name arguments)
      (c.env'.resolveCall name arguments') := by
  unfold resolveCall
  rw [hc.function, namedValues_of_matches h]
  cases c.env.bundle.function? name with
  | none => exact parallel_fallBack _ _
  | some f =>
      refine .bind (parallel_resolvePositional hP h) fun positional positional' hsame => ?_
      subst hsame
      cases f positional (namedValues arguments) with
      | ok v => exact .pure rfl
      | error source => exact parallel_fallBack _ _

/-- Two references to one target, where there is no pattern for the same reason in both bundles, or
two patterns that match if they are entered at all. -/
theorem parallel_reference {P : Expression → Expression → Prop} {e e' : Expression} {t : Target}
    (he : e.target? = some t) (he' : e'.target? = some t)
    (hP : ∀ e₁ e₂, P e₁ e₂ →
      c.Compares ((stage.withLocal e.localArguments e'.localArguments
        (Expression.sameTerm_of_target he he')).push t.key) e₁ e₂)
    (hpattern : (∃ err, c.env.bundle.targetPattern t = .error err ∧
        c.env'.bundle.targetPattern t = .error err) ∨
      ∃ p p', c.env.bundle.targetPattern t = .ok p ∧ c.env'.bundle.targetPattern t = .ok p' ∧
        (t.key ∉ stage.active → p.Matches P p')) :
    c.Parallel stage (Value.Alike c.TextsAlike) (c.env.resolveForm e) (c.env'.resolveForm e') := by
  rw [resolveForm_of_target he, resolveForm_of_target he']
  rcases hpattern with ⟨err, herr, herr'⟩ | ⟨p, p', hp, hp', hmatches⟩
  · rw [herr, herr']
    exact (parallel_fallBack err _).weaken fun _ _ => .of_eq
  · rw [hp, hp']
    refine .withLocal (Expression.sameTerm_of_target he he') (.opening (.same _) fun hclosed => ?_)
    exact parallel_textOf hc hP (hmatches hclosed)

end Comparison

end Phrasebook
