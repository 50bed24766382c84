import Phrasebook.Proofs.Registration.Patterns
import Phrasebook.Proofs.Resolution.Mirroring

/-!
# Texts are transformed once

A bundle with a transform answers like a bundle without one whose literal texts were transformed
beforehand. So every literal text is transformed exactly once wherever it is shown, also when the
text of a message has become a value that is shown again, chosen by, or handed to a function; and
what is no literal text is never transformed.
-/

namespace Phrasebook

def Message.mapText (f : String → String) (m : Message) : Message where
  id := m.id
  value := m.value.map (Pattern.mapText f)
  attributes := m.attributes.mapValues (Pattern.mapText f)

def Term.mapText (f : String → String) (t : Term) : Term where
  id := t.id
  value := t.value.mapText f
  attributes := t.attributes.mapValues (Pattern.mapText f)

def Entries.mapText (f : String → String) (es : Entries) : Entries where
  messages := es.messages.mapValues (Message.mapText f)
  terms := es.terms.mapValues (Term.mapText f)

namespace Bundle

variable [FormatterSource] {γ : Type} (b : Bundle γ) (f : String → String)

def transformedBy : Bundle γ := { b with transform := some f }

def withTexts : Bundle γ := { b with transform := none, entries := b.entries.mapText f }

theorem messagePattern_withTexts (id : String) (attr : Option String) :
    (b.withTexts f).messagePattern id attr =
      (b.messagePattern id attr).map (Pattern.mapText f) :=
  b.messagePattern_mapPatterns (Pattern.mapText f) id attr

theorem termPattern_withTexts (id : String) (attr : Option String) :
    (b.withTexts f).termPattern id attr = (b.termPattern id attr).map (Pattern.mapText f) :=
  b.termPattern_mapPatterns (Pattern.mapText f) id attr

/-- Nothing has to be excused. -/
theorem mirrored_withTexts : (b.transformedBy f).Mirrored f (fun _ => False) (b.withTexts f) where
  text _ := rfl
  useIsolating := rfl
  formatter := rfl
  function _ := .inl rfl
  pattern t :=
    match t with
    | .message id attr => .inl (messagePattern_withTexts b f id attr)
    | .term id attr => .inl (termPattern_withTexts b f id attr)

end Bundle

/-- A view in which texts are not transformed, but were changed in the messages. -/
def ScopeView.withTexts {γ : Type} (f : String → String) (view : ScopeView γ) : ScopeView γ :=
  { view with
    transformText := id
    messages := view.messages.mapValues (Message.mapText f) }

namespace Bundle

section

variable [FormatterSource] {γ : Type} [CustomValue γ]

omit [CustomValue γ] in
theorem view_withTexts (b : Bundle γ) (f : String → String) (arguments : Option (Arguments γ))
    {s s' : Scope γ} (h : s.Twin s') :
    (Environment.mk (b.withTexts f) arguments).view s' =
      ((Environment.mk (b.transformedBy f) arguments).view s).withTexts f := by
  have hargument : (Environment.mk (b.withTexts f) arguments).argument? s' =
      (Environment.mk (b.transformedBy f) arguments).argument? s :=
    Environment.argument?_mk _ _ arguments h.localArguments
  simp only [Environment.view, ScopeView.withTexts, hargument, h.locale, Scope.inTerm,
    h.localArguments]
  rfl

/-- Where the values of the host do not look at texts, a bundle with a transform answers every call
like the bundle without it whose texts were all transformed beforehand. That goes for patterns that
are handed in, transformed likewise, for messages, and for attributes, whether errors are collected
or not. A value that transforms a text itself, or shows a text that it finds in a message, could
tell the two bundles apart. -/
theorem transform_applies_once {f : String → String}
    (hblind : CustomValue.Ignores γ (ScopeView.withTexts f)) (b : Bundle γ)
    (arguments : Option (Arguments γ)) (errors : Option (List ResolverError)) :
    (∀ p, ((b.transformedBy f).formatPattern p arguments errors).SameAnswer
      ((b.withTexts f).formatPattern (p.mapText f) arguments errors)) ∧
    ∀ id attr, ((b.transformedBy f).formatEntry id attr arguments errors).SameAnswer
      ((b.withTexts f).formatEntry id attr arguments errors) := by
  let env : Environment γ := ⟨b.transformedBy f, arguments⟩
  let env' : Environment γ := ⟨b.withTexts f, arguments⟩
  have hlooks (s s' : Scope γ) (h : s.Twin s') : (env.view s).LooksLike (env'.view s') := by
    rw [view_withTexts b f arguments h]
    exact hblind.looksLike rfl rfl rfl
  let pairing : Pairing env env' (fun _ => False) := .twins rfl hlooks
  have hpattern (p : Pattern) : ((b.transformedBy f).formatPattern p arguments errors).SameAnswer
      ((b.withTexts f).formatPattern (p.mapText f) arguments errors) := by
    have hstart : pairing.Paired (.start (b.transformedBy f) errors)
        (.start (b.withTexts f) errors) :=
      ⟨⟨rfl, rfl, rfl⟩, rfl⟩
    exact formatPattern_mapText (b.mirrored_withTexts f) pairing hstart p fun _ _ => id
  refine ⟨hpattern, fun id attr => ?_⟩
  unfold formatEntry
  rw [messagePattern_withTexts]
  have hfound : (b.transformedBy f).messagePattern id attr = b.messagePattern id attr := rfl
  rw [hfound]
  cases b.messagePattern id attr with
  | error e => exact ⟨rfl, rfl⟩
  | ok p => exact hpattern p

end

def chooserBundle : Bundle Badge :=
  ((ofOptions {}).addResource false
    ⟨[⟨"m", some (.complex [.placeable (.select (.message "n" none)
        [.mk (.text "b") (.text "plain"), .mk (.text "b!") (.text "loud")] 0)]), .empty⟩,
      ⟨"n", some (.text "b"), .empty⟩]⟩).1

/-- The key that chooses is compared with the transformed text, and is not transformed itself. -/
theorem chooserBundle_transforms_once :
    let shout : String → String := (· ++ "!")
    let call (b : Bundle Badge) : Outcome := b.formatEntry "m" none none (some [])
    (call (chooserBundle.transformedBy shout)).result = .ok "loud!" ∧
    (call (chooserBundle.transformedBy shout)).SameAnswer (call (chooserBundle.withTexts shout)) :=
  ⟨rfl, (transform_applies_once (Badge.ignores _) chooserBundle none (some [])).2 "m" none⟩

/-- A value that shows the text of a message as it stands there tells the two bundles apart,
although it transforms nothing. -/
theorem quotation_shows_plain_text :
    let shout : String → String := (· ++ "!")
    let given : Arguments Quotation := .ofList [("q", .custom ⟨"n"⟩)]
    let call (b : Bundle Quotation) : Outcome := b.formatEntry "m" none given (some [])
    (∀ t, CustomValue.Ignores Quotation fun view => { view with transformText := t }) ∧
    (call ((quoting (.text "b")).transformedBy shout)).result = .ok "b" ∧
    (call ((quoting (.text "b")).withTexts shout)).result = .ok "b!" ∧
    ¬(call ((quoting (.text "b")).transformedBy shout)).SameAnswer
      (call ((quoting (.text "b")).withTexts shout)) := by
  intro shout given call
  have hplain : (call ((quoting (.text "b")).transformedBy shout)).result = .ok "b" := rfl
  have hchanged : (call ((quoting (.text "b")).withTexts shout)).result = .ok "b!" := rfl
  refine ⟨Quotation.ignores_transformText, hplain, hchanged, fun hsame => ?_⟩
  have htexts := hchanged.symm.trans (hsame.1.trans hplain)
  exact absurd (Except.ok.inj htexts) (by decide)

end Bundle

end Phrasebook
