import Phrasebook.Proofs.Pattern.Rebuilding
import Phrasebook.Proofs.Registration.Patterns
import Phrasebook.Proofs.Resolution.Mirroring

/-!
# Ways past the resolution

Plain text is shown without a resolution, in two ways: a call shows a pattern without placeables at
once, and a pattern that is built from texts alone is one text from then on. Neither makes a
difference. A call gives what resolving its pattern in a new scope gives, and where the transform
of a bundle may be applied to texts in pieces, a bundle whose patterns were all built anew answers
every call as before.
-/

namespace Phrasebook

/-- There is no transform, or it may be applied to the parts of a text one by one. -/
def Bundle.TransformsPiecewise [FormatterSource] {γ : Type} (b : Bundle γ) : Prop :=
  ∀ t, b.transform = some t → ∀ x y, t (x ++ y) = t x ++ t y

namespace Bundle.TransformsPiecewise

variable [FormatterSource] {γ : Type} {b : Bundle γ}

theorem append (h : b.TransformsPiecewise) (x y : String) :
    b.transformText (x ++ y) = b.transformText x ++ b.transformText y := by
  unfold transformText
  cases ht : b.transform with
  | none => rfl
  | some t => exact h t ht x y

theorem empty (h : b.TransformsPiecewise) : b.transformText "" = "" := by
  have htwice : b.transformText "" ++ b.transformText "" = b.transformText "" := by
    rw [← h.append, String.empty_append]
  have hlength := congrArg String.length htwice
  rw [String.length_append] at hlength
  exact String.length_eq_zero_iff.1 (by omega)

theorem join (h : b.TransformsPiecewise) (texts : List String) :
    b.transformText (String.join texts) = String.join (texts.map b.transformText) := by
  induction texts with
  | nil => exact h.empty
  | cons text rest ih => rw [List.map_cons, String.join_cons, String.join_cons, h.append, ih]

end Bundle.TransformsPiecewise

@[simp] theorem Expression.target?_rebuilt (e : Expression) : e.rebuilt.target? = e.target? := by
  cases e with
  | term name attr arguments => cases arguments <;> rfl
  | literal | «variable» | message | call | select => rfl

theorem Expression.localArguments_rebuilt {γ : Type} (e : Expression) :
    (e.rebuilt.localArguments : Option (Arguments γ)) = e.localArguments := by
  cases e with
  | term name attr arguments =>
      cases arguments with
      | none => rfl
      | some arguments => exact congrArg some (namedValues_rebuilt arguments)
  | literal | «variable» | message | call | select => rfl

/-! ## Steps with one ending -/

namespace Environment

open Resolving

section Endings

variable [FormatterSource] {γ α β : Type} {env env' : Environment γ}
  {resolver resolver' : Resolver γ}

/-- From every scope, the second steps on the second environment end as the first do on the
first. -/
def EndsAlike (env env' : Environment γ) (resolver resolver' : Resolver γ) (m m' : Resolving γ α) :
    Prop :=
  ∀ s, env'.run resolver' m' s = env.run resolver m s

theorem EndsAlike.bind {m m' : Resolving γ β} {next next' : β → Resolving γ α}
    (hm : EndsAlike env env' resolver resolver' m m')
    (hnext : ∀ b, EndsAlike env env' resolver resolver' (next b) (next' b)) :
    EndsAlike env env' resolver resolver' (.bind m next) (.bind m' next') := by
  intro s
  simp only [run, hm s]
  cases env.run resolver m s with
  | ok b t => exact hnext b t
  | error e t => rfl

theorem EndsAlike.map (f : β → α) {m m' : Resolving γ β}
    (hm : EndsAlike env env' resolver resolver' m m') :
    EndsAlike env env' resolver resolver' (f <$> m) (f <$> m') :=
  .bind hm fun _ _ => rfl

theorem EndsAlike.look {next next' : ScopeView γ → Resolving γ α}
    (hnext : ∀ s, EndsAlike env env' resolver resolver' (next (env.view s)) (next' (env'.view s))) :
    EndsAlike env env' resolver resolver' (.bind .look next) (.bind .look next') :=
  fun s => hnext s s

theorem EndsAlike.opening (key : String) {body body' : Resolving γ (Value γ)}
    (h : EndsAlike env env' resolver resolver' body body') :
    EndsAlike env env' resolver resolver' (.opening key body) (.opening key body') := by
  intro s
  simp only [run, funext h]

theorem EndsAlike.withLocal (arguments : Option (Arguments γ)) {body body' : Resolving γ (Value γ)}
    (h : EndsAlike env env' resolver resolver' body body') :
    EndsAlike env env' resolver resolver' (.withLocal arguments body)
      (.withLocal arguments body') := by
  intro s
  simp only [run, h _]

variable [CustomValue γ] {inner : Expression → Expression → Prop}

/-- Steps that mirror each other end alike where the same scope looks alike in both environments. -/
theorem endsAlike_of_mirrors (hlooks : ∀ s, (env.view s).LooksLike (env'.view s))
    (hr : ∀ e e', inner e e' → resolver' e' = resolver e) {m m' : Resolving γ α}
    (hm : Mirrors (fun _ => False) inner m m') : EndsAlike env env' resolver resolver' m m' := by
  induction hm with
  | pure | report | ask => exact fun _ => rfl
  | bind _ _ ihm ihnext => exact ihm.bind ihnext
  | look _ ih => exact fun s => ih _ _ (hlooks s) s
  | excuse _ hfalse => exact hfalse.elim
  | inner he => exact fun s => congrFun (hr _ _ he) s
  | opening key _ ih => exact ih.opening key
  | withLocal arguments _ ih => exact ih.withLocal arguments

end Endings

/-! ## The steps of one level -/

structure Rebuilds [FormatterSource] {γ : Type} [CustomValue γ] (env env' : Environment γ) :
    Prop where
  bundle : env'.bundle = env.bundle.mapPatterns Pattern.rebuilt
  piecewise : env.bundle.TransformsPiecewise
  looks : ∀ s, (env.view s).LooksLike (env'.view s)

/-- Moreover the second resolver gives for expressions that were built anew what the first gives for
the expressions. -/
structure RebuildsWith [FormatterSource] {γ : Type} [CustomValue γ] (env env' : Environment γ)
    (resolver resolver' : Resolver γ) : Prop extends Rebuilds env env' where
  resolver : ∀ e, resolver' e.rebuilt = resolver e

theorem exactVariant?_rebuilt {γ : Type} [CustomValue γ] {view view' : ScopeView γ}
    (h : view.LooksLike view') (selector : Value γ) (variants : List Variant) :
    exactVariant? view' selector (Variant.listRebuilt variants) =
      (exactVariant? view selector variants).map Variant.rebuilt := by
  have hkey : matchesExactly view' selector = matchesExactly view selector := by
    funext key
    cases selector with
    | custom c => exact h.selects c key
    | text | number | instant | absent => cases key <;> rfl
  unfold exactVariant?
  rw [hkey]
  exact Variant.find?_listRebuilt (matchesExactly view selector) variants

theorem bind_categoryVariant?_rebuilt (category : Option PluralCategory) (variants : List Variant) :
    category.bind (categoryVariant? · (Variant.listRebuilt variants)) =
      (category.bind (categoryVariant? · variants)).map Variant.rebuilt := by
  cases category with
  | none => rfl
  | some c => exact Variant.find?_listRebuilt (matchesCategory c) variants

section Steps

variable [FormatterSource] {γ : Type} [CustomValue γ] {env env' : Environment γ}
  {resolver resolver' : Resolver γ} (h : RebuildsWith env env' resolver resolver')
include h

theorem RebuildsWith.of_mirrors {α : Type} {m m' : Resolving γ α}
    (hm : Mirrors (fun _ => False) (fun e e' => e' = e.rebuilt) m m') :
    EndsAlike env env' resolver resolver' m m' :=
  endsAlike_of_mirrors h.looks (fun e _ he => he ▸ h.resolver e) hm

theorem endsAlike_inner (e : Expression) :
    EndsAlike env env' resolver resolver' (.inner e) (.inner e.rebuilt) :=
  fun s => congrFun (h.resolver e) s

theorem endsAlike_render (v : Value γ) :
    EndsAlike env env' resolver resolver' (env.render v) (env'.render v) := by
  refine h.of_mirrors (mirrors_render ?_ v)
  rw [h.bundle]
  rfl

theorem transformText_rebuilt (s : String) :
    env'.bundle.transformText s = env.bundle.transformText s := by
  rw [h.bundle]
  rfl

theorem endsAlike_showElements (isolate : Bool) (elements : List Element) :
    EndsAlike env env' resolver resolver' (env.showElements isolate elements)
      (env'.showElements isolate (Element.listRebuilt elements)) := by
  induction elements with
  | nil => exact fun _ => rfl
  | cons element rest ih =>
      have hfirst : EndsAlike env env' resolver resolver' (env.showElement isolate element)
          (env'.showElement isolate element.rebuilt) := by
        cases element with
        | text s =>
            simp only [showElement, Element.rebuilt, transformText_rebuilt h]
            exact fun _ => rfl
        | placeable e =>
            exact .bind (endsAlike_inner h e) fun v =>
              .bind (endsAlike_render h v) fun text _ => rfl
      exact .bind hfirst fun text => .bind ih fun after _ => rfl

theorem endsAlike_showPattern (p : Pattern) :
    EndsAlike env env' resolver resolver' (env.showPattern p) (env'.showPattern p.rebuilt) := by
  cases p with
  | text s =>
      simp only [showPattern, Pattern.rebuilt, transformText_rebuilt h]
      exact fun _ => rfl
  | complex elements =>
      cases hp : (Pattern.complex elements).isPlain with
      | true =>
          -- One text now: it is transformed as a whole, and was piece by piece.
          intro s
          have hshown : env.run resolver (env.showPattern (.complex elements)) s =
              .ok (env.bundle.plainText (.complex elements)) s :=
            run_showElements_plain _ (List.all_eq_true.1 hp) s
          rw [Pattern.rebuilt_of_plain hp, hshown, Bundle.plainText, ← h.piecewise.join]
          simp only [showPattern, transformText_rebuilt h]
          rfl
      | false =>
          rw [Pattern.rebuilt_of_not_plain hp]
          have hisolating : env'.bundle.useIsolating = env.bundle.useIsolating := by
            rw [h.bundle]
            rfl
          have hlength : (Element.listRebuilt elements).length = elements.length := by
            simp [Element.listRebuilt_eq]
          simp only [showPattern, hisolating, hlength]
          exact endsAlike_showElements h _ elements

theorem endsAlike_resolveVariant (v : Variant) :
    EndsAlike env env' resolver resolver' (env.resolveVariant v)
      (env'.resolveVariant v.rebuilt) := by
  unfold resolveVariant
  rw [Variant.value_rebuilt]
  exact (endsAlike_showPattern h v.value).map Value.text

theorem endsAlike_resolveDefault (variants : List Variant) (star : UInt64) :
    EndsAlike env env' resolver resolver' (env.resolveDefault variants star)
      (env'.resolveDefault (Variant.listRebuilt variants) star) := by
  unfold resolveDefault
  simp only [Variant.listRebuilt_eq, List.getElem?_map, List.length_map]
  cases variants[star.toNat]? with
  | some v => exact endsAlike_resolveVariant h v
  | none => exact h.of_mirrors (mirrors_fallBack _ none)

theorem endsAlike_resolveSelect (selector : Expression) (variants : List Variant) (star : UInt64) :
    EndsAlike env env' resolver resolver' (env.resolveSelect selector variants star)
      (env'.resolveSelect selector.rebuilt (Variant.listRebuilt variants) star) := by
  have hdefault := endsAlike_resolveDefault h variants star
  refine .bind (endsAlike_inner h selector) fun v => ?_
  cases v.isAbsent with
  | true => exact hdefault
  | false =>
      refine .look fun s => ?_
      simp only [exactVariant?_rebuilt (h.looks s)]
      cases exactVariant? (env.view s) v variants with
      | some variant => exact endsAlike_resolveVariant h variant
      | none =>
          refine .bind (h.of_mirrors (mirrors_categoryOf v)) fun category => ?_
          simp only [bind_categoryVariant?_rebuilt]
          cases category.bind (categoryVariant? · variants) with
          | some variant => exact endsAlike_resolveVariant h variant
          | none => exact hdefault

theorem endsAlike_resolvePositional (arguments : List Argument) :
    EndsAlike env env' resolver resolver' (resolvePositional arguments)
      (resolvePositional (Argument.listRebuilt arguments)) := by
  induction arguments with
  | nil => exact fun _ => rfl
  | cons a rest ih =>
      cases a with
      | positional e => exact .bind (endsAlike_inner h e) fun v => .bind ih fun _ _ => rfl
      | named name value => exact ih

theorem endsAlike_resolveCall (name : String) (arguments : List Argument) :
    EndsAlike env env' resolver resolver' (env.resolveCall name arguments)
      (env'.resolveCall name (Argument.listRebuilt arguments)) := by
  have hfunction : env'.bundle.function? name = env.bundle.function? name := by
    rw [h.bundle]
    rfl
  unfold resolveCall
  rw [hfunction, namedValues_rebuilt]
  cases env.bundle.function? name with
  | none => exact h.of_mirrors (mirrors_fallBack _ _)
  | some f =>
      refine .bind (endsAlike_resolvePositional h arguments) fun positional => ?_
      cases f positional (namedValues arguments) with
      | ok v => exact fun _ => rfl
      | error source => exact h.of_mirrors (mirrors_fallBack _ _)

/-- The steps for an expression that was built anew. -/
theorem endsAlike_resolveForm (e : Expression) :
    EndsAlike env env' resolver resolver' (env.resolveForm e) (env'.resolveForm e.rebuilt) := by
  cases htarget : e.target? with
  | none =>
      cases e with
      | literal l => exact fun _ => rfl
      | «variable» name => exact h.of_mirrors (mirrors_resolveVariable name)
      | call name arguments => exact endsAlike_resolveCall h name arguments
      | select selector variants star => exact endsAlike_resolveSelect h selector variants star
      | message | term => simp [Expression.target?] at htarget
  | some t =>
      have htarget' : e.rebuilt.target? = some t := e.target?_rebuilt.trans htarget
      rw [resolveForm_of_target htarget, resolveForm_of_target htarget',
        Expression.localArguments_rebuilt, h.bundle, Bundle.targetPattern_mapPatterns]
      cases env.bundle.targetPattern t with
      | error err => exact h.of_mirrors (mirrors_fallBack err _)
      | ok p => exact .withLocal _ (.opening _ ((endsAlike_showPattern h p).map Value.text))

end Steps

section Levels

variable [FormatterSource] {γ : Type} [CustomValue γ] {env env' : Environment γ}
  (h : Rebuilds env env')
include h

theorem resolveAt_rebuilt (level : Nat) (e : Expression) :
    env'.resolveAt level e.rebuilt = env.resolveAt level e := by
  have hdepth : env'.bundle.maxDepth = env.bundle.maxDepth := by
    rw [h.bundle]
    rfl
  induction level generalizing e with
  | zero => simp only [resolveAt, hdepth]
  | succ level ih =>
      have hform := funext (endsAlike_resolveForm ⟨h, ih⟩ e)
      simp only [resolveAt, resolveBy, hdepth, hform]

theorem resolve_rebuilt (e : Expression) : env'.resolve e.rebuilt = env.resolve e := by
  funext s
  unfold resolve
  rw [h.bundle]
  exact congrFun (resolveAt_rebuilt h _ e) s

theorem resolvePattern_rebuilt (p : Pattern) :
    env'.resolvePattern p.rebuilt = env.resolvePattern p :=
  funext (endsAlike_showPattern ⟨h, resolve_rebuilt h⟩ p)

end Levels

end Environment

/-! ## Calls -/

/-- A view in which the patterns of messages were built anew. -/
def ScopeView.rebuilt {γ : Type} (view : ScopeView γ) : ScopeView γ :=
  { view with messages := view.messages.mapValues (Message.mapPatterns Pattern.rebuilt) }

namespace Bundle

section

variable [FormatterSource] {γ : Type}

def rebuilt (b : Bundle γ) : Bundle γ := b.mapPatterns Pattern.rebuilt

theorem view_rebuilt (b : Bundle γ) (arguments : Option (Arguments γ)) (s : Scope γ) :
    (Environment.mk b.rebuilt arguments).view s =
      ((Environment.mk b arguments).view s).rebuilt := by
  simp only [Environment.view, ScopeView.rebuilt]
  rfl

variable [CustomValue γ]

/-- The ways past the resolution make no difference. A call gives what resolving the pattern in a
new scope gives. And if the transform of a bundle, where it has one, may be applied to texts in
pieces, every call on the bundle with all patterns built anew gives what it gave before, errors and
formatters included. A value of the host could tell the bundles apart if it looked at the patterns
of messages, so it must not. -/
theorem plain_ways_agree (b : Bundle γ) :
    (∀ p arguments errors, b.formatPattern p arguments errors =
      .ofEnding ((Environment.mk b arguments).resolvePattern p (.start b errors))) ∧
    (b.TransformsPiecewise → CustomValue.Ignores γ ScopeView.rebuilt → ∀ arguments errors,
      (∀ id, b.rebuilt.formatMessage id arguments errors = b.formatMessage id arguments errors) ∧
      (∀ id attr, b.rebuilt.formatAttribute id attr arguments errors =
        b.formatAttribute id attr arguments errors) ∧
      ∀ p, b.rebuilt.formatPattern p.rebuilt arguments errors =
        b.formatPattern p arguments errors) := by
  refine ⟨b.formatPattern_eq_resolved, fun hpiecewise hblind arguments errors => ?_⟩
  have hlooks (s : Scope γ) : ((Environment.mk b arguments).view s).LooksLike
      ((Environment.mk b.rebuilt arguments).view s) := by
    rw [view_rebuilt]
    exact hblind.looksLike rfl rfl rfl
  have hrebuilds : Environment.Rebuilds ⟨b, arguments⟩ ⟨b.rebuilt, arguments⟩ :=
    ⟨rfl, hpiecewise, hlooks⟩
  have hpattern (p : Pattern) : b.rebuilt.formatPattern p.rebuilt arguments errors =
      b.formatPattern p arguments errors := by
    rw [formatPattern_eq_resolved, formatPattern_eq_resolved,
      Environment.resolvePattern_rebuilt hrebuilds]
    rfl
  have hentry (id : String) (attr : Option String) :
      b.rebuilt.formatEntry id attr arguments errors = b.formatEntry id attr arguments errors := by
    unfold formatEntry
    have hfound : b.rebuilt.messagePattern id attr =
        (b.messagePattern id attr).map Pattern.rebuilt :=
      b.messagePattern_mapPatterns Pattern.rebuilt id attr
    rw [hfound]
    cases b.messagePattern id attr with
    | error e => rfl
    | ok p => exact hpattern p
  exact ⟨fun id => hentry id none, fun id attr => hentry id (some attr), hpattern⟩

end

/-- Texts are shown with every character twice; the message `m` chooses a text by the text of `n`,
and both texts are in pieces. -/
def stutterBundle : Bundle Badge :=
  ((ofOptions { transform := some fun s => .ofList (s.toList.flatMap fun c => [c, c]) }).addResource
    false
    ⟨[⟨"m", some (.complex [.text "a", .placeable (.select (.message "n" none)
        [.mk (.text "xxyy") (.complex [.text "o", .text "k"]), .mk (.text "xy") (.text "no")] 1)]),
        .empty⟩,
      ⟨"n", some (.complex [.text "x", .text "y"]), .empty⟩]⟩).1

theorem stutterBundle_rebuilt :
    stutterBundle.TransformsPiecewise ∧
    (stutterBundle.messagePattern "n" none).toOption = some (.complex [.text "x", .text "y"]) ∧
    (stutterBundle.rebuilt.messagePattern "n" none).toOption = some (.text "xy") ∧
    (stutterBundle.formatMessage "m" none (some [])).result = .ok "aa\u2068ookk\u2069" ∧
    stutterBundle.rebuilt.formatMessage "m" none (some []) =
      stutterBundle.formatMessage "m" none (some []) := by
  have hpiecewise : stutterBundle.TransformsPiecewise := by
    rintro t ⟨⟩ x y
    simp
  exact ⟨hpiecewise, rfl, rfl, rfl,
    ((plain_ways_agree stutterBundle).2 hpiecewise (Badge.ignores _) none (some [])).1 "m"⟩

/-- A value that shows whether a message is in pieces tells the bundle that was built anew from the
one it was built from. -/
theorem quotation_shows_pieces :
    let given : Arguments Quotation := .ofList [("q", .custom ⟨"n"⟩)]
    let b : Bundle Quotation := quoting (.complex [.text "x", .text "y"])
    b.TransformsPiecewise ∧
    (b.formatMessage "m" given (some [])).result = .ok "(in pieces)" ∧
    (b.rebuilt.formatMessage "m" given (some [])).result = .ok "xy" ∧
    b.rebuilt.formatMessage "m" given (some []) ≠ b.formatMessage "m" given (some []) := by
  intro given b
  have hpieces : (b.formatMessage "m" given (some [])).result = .ok "(in pieces)" := rfl
  have hjoined : (b.rebuilt.formatMessage "m" given (some [])).result = .ok "xy" := rfl
  refine ⟨nofun, hpieces, hjoined, fun hsame => ?_⟩
  have htexts := hjoined.symm.trans ((congrArg Outcome.result hsame).trans hpieces)
  exact absurd (Except.ok.inj htexts) (by decide)

end Bundle

end Phrasebook
