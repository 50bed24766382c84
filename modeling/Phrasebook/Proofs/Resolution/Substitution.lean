import Phrasebook.Proofs.Pattern.Substituting
import Phrasebook.Proofs.Resolution.Matching
import Phrasebook.Proofs.Resolution.Mirroring

/-!
# Calling a term is substitution

A term that is called with named arguments has the value that it has without any on the bundle
where the arguments stand in its pattern, in place of the variables they are called by. The
pattern is compared with the other only where it is open: there it cannot be entered again, so no
other reference can tell the two bundles apart. Behind a reference the same patterns are resolved
with the same arguments.
-/

namespace Phrasebook

def Argument.named? : Argument → Option (String × Literal)
  | .named name value => some (name, value)
  | .positional _ => none

/-- The literals of the named arguments of a call; of two with one name the later counts. -/
def namedLiterals (arguments : List Argument) : NameMap Literal :=
  NameMap.ofList (arguments.filterMap Argument.named?)

theorem NameMap.get?_insertAll_map {α β : Type} (f : α → β) {pairs : List (String × α)}
    {m : NameMap α} {m' : NameMap β} (h : ∀ name, m'.get? name = (m.get? name).map f)
    (name : String) :
    (m'.insertAll (pairs.map fun p => (p.1, f p.2))).get? name =
      ((m.insertAll pairs).get? name).map f := by
  induction pairs generalizing m m' with
  | nil => exact h name
  | cons p rest ih =>
      have hfirst (k : String) :
          (m'.insert p.1 (f p.2)).get? k = ((m.insert p.1 p.2).get? k).map f := by
        rw [get?_insert, get?_insert]
        by_cases hk : p.1 = k
        · simp [hk]
        · simp [hk, h k]
      exact ih hfirst

/-- The values of the named arguments are those of their literals. -/
theorem get?_namedValues {γ : Type} (arguments : List Argument) (name : String) :
    (namedValues arguments : Arguments γ).get? name =
      ((namedLiterals arguments).get? name).map Literal.toValue := by
  let valued (p : String × Literal) : String × Value γ := (p.1, p.2.toValue)
  have hpairs : namedValues arguments =
      NameMap.ofList ((arguments.filterMap Argument.named?).map valued) := by
    unfold namedValues
    rw [List.map_filterMap]
    congr 2
    funext a
    cases a <;> rfl
  rw [hpairs]
  exact NameMap.get?_insertAll_map Literal.toValue (fun _ => rfl) name

/-! ## A term with another pattern -/

def Term.replace (t : Term) (attr : Option String) (p : Pattern) : Term :=
  match attr with
  | none => { t with value := p }
  | some attr => { t with attributes := t.attributes.insert attr p }

namespace Bundle

variable [FormatterSource] {γ : Type} (b : Bundle γ) (id : String) (attr : Option String)
  (p : Pattern)

/-- The bundle with another pattern for a term or for one of its attributes, if it is there. -/
def replaceTerm : Bundle γ :=
  match b.term? id with
  | none => b
  | some t =>
    { b with entries :=
        { b.entries with terms := b.entries.terms.insert id (t.replace attr p) } }

theorem term?_replaceTerm (other : String) :
    (b.replaceTerm id attr p).term? other =
      if id = other then (b.term? other).map (Term.replace · attr p) else b.term? other := by
  unfold replaceTerm
  cases hterm : b.term? id with
  | none =>
      by_cases hid : id = other
      · subst hid
        simp [hterm]
      · simp [hid]
  | some t =>
      have hget := NameMap.get?_insert b.entries.terms id other (t.replace attr p)
      by_cases hid : id = other
      · subst hid
        rw [if_pos rfl, hterm]
        exact hget.trans (if_pos rfl)
      · rw [if_neg hid]
        exact hget.trans (if_neg hid)

theorem termPattern_replaceTerm_self {q : Pattern} (h : b.termPattern id attr = .ok q) :
    (b.replaceTerm id attr p).termPattern id attr = .ok p := by
  unfold termPattern at h ⊢
  rw [term?_replaceTerm, if_pos rfl]
  cases hterm : b.term? id with
  | none => simp [hterm] at h
  | some t =>
      cases attr with
      | none => rfl
      | some attr => simp [Term.replace, NameMap.get?_insert]

theorem termPattern_replaceTerm_of_ne {other : String} {otherAttr : Option String}
    (h : Target.term other otherAttr ≠ .term id attr) :
    (b.replaceTerm id attr p).termPattern other otherAttr = b.termPattern other otherAttr := by
  unfold termPattern
  rw [term?_replaceTerm]
  by_cases hid : id = other
  · subst hid
    have hattr : otherAttr ≠ attr := fun hsame => h (hsame ▸ rfl)
    rw [if_pos rfl]
    cases b.term? id with
    | none => rfl
    | some t =>
        cases otherAttr with
        | none =>
            cases attr with
            | none => exact absurd rfl hattr
            | some a => rfl
        | some a' =>
            cases attr with
            | none => rfl
            | some a =>
                have hne : a ≠ a' := fun hsame => hattr (hsame ▸ rfl)
                simp [Term.replace, NameMap.get?_insert, hne]
  · rw [if_neg hid]

/-- Whatever else is referred to is as it was. -/
theorem targetPattern_replaceTerm {t : Target} (ht : t ≠ .term id attr) :
    (b.replaceTerm id attr p).targetPattern t = b.targetPattern t := by
  cases t with
  | term other otherAttr => exact termPattern_replaceTerm_of_ne b id attr p ht
  | message other otherAttr =>
      change (b.replaceTerm id attr p).messagePattern other otherAttr =
        b.messagePattern other otherAttr
      unfold messagePattern replaceTerm
      cases b.term? id <;> rfl

/-- Only entries are replaced, and none of them is a message. -/
theorem replaceTerm_eq :
    ∃ entries, b.replaceTerm id attr p = { b with entries := entries } ∧
      entries.messages = b.entries.messages := by
  unfold replaceTerm
  cases b.term? id with
  | none => exact ⟨b.entries, rfl, rfl⟩
  | some t => exact ⟨_, rfl, rfl⟩

end Bundle

/-! ## Matching after substitution -/

section Matching

variable {σ : String → Option Literal}

def Expression.Substituted (σ : String → Option Literal) (e e' : Expression) : Prop :=
  e' = e.subst σ

theorem Element.listSubst_matches (elements : List Element) :
    List.Forall₂ (Element.Matches (Expression.Substituted σ)) elements
      (Element.listSubst σ elements) := by
  induction elements with
  | nil => exact .nil
  | cons element rest ih =>
      refine .cons ?_ ih
      cases element with
      | text s => exact .text s
      | placeable e => exact .placeable rfl

theorem Pattern.subst_matches (p : Pattern) :
    p.Matches (Expression.Substituted σ) (p.subst σ) := by
  cases p with
  | text s => exact .text s
  | complex elements => exact .complex (Element.listSubst_matches elements)

theorem Argument.listSubst_matches (arguments : List Argument) :
    List.Forall₂ (Argument.Matches (Expression.Substituted σ)) arguments
      (Argument.listSubst σ arguments) := by
  induction arguments with
  | nil => exact .nil
  | cons a rest ih =>
      refine .cons ?_ ih
      cases a with
      | positional e => exact .positional rfl
      | named name value => exact .named name value

theorem Variant.listSubst_matches (variants : List Variant) :
    List.Forall₂ (Variant.Matches (Expression.Substituted σ)) variants
      (Variant.listSubst σ variants) := by
  induction variants with
  | nil => exact .nil
  | cons v rest ih =>
      refine .cons ?_ ih
      cases v with
      | mk key value => exact ⟨rfl, value.subst_matches⟩

end Matching

/-! ## The two runs -/

/-- At a stage of both runs, either no call is compared, or the variables with literals are those
that the arguments of the call give the same values, while the other run has no arguments. -/
inductive Stage.Binds [FormatterSource] {γ : Type} (stage : Stage γ) (σ : String → Option Literal) :
    Prop where
  | apart : σ = noLiteral → stage.given' = stage.given → Binds stage σ
  | called {arguments : Arguments γ} :
      stage.given = some arguments → stage.given' = some (namedValues []) →
        (∀ name, arguments.get? name = (σ name).map Literal.toValue) → Binds stage σ

/-- Where the pattern of a term is open, it is compared with what was substituted in it, and
everything else with itself. -/
def Comparison.substituted [FormatterSource] {γ : Type} (b : Bundle γ)
    (arguments : Option (Arguments γ))
    (id : String) (attr : Option String) (p : Pattern) : Comparison γ where
  env := ⟨b, arguments⟩
  env' := ⟨b.replaceTerm id attr p, arguments⟩
  Compares stage e e' := dotted id attr ∈ stage.active ∧
    ∃ σ, stage.Binds σ ∧ e.Substituted σ e'
  TextsAlike := (· = ·)
  Exact _ := True

namespace Comparison

open Environment Resolving

variable [FormatterSource] {γ : Type} {b : Bundle γ} {arguments : Option (Arguments γ)}
  {id : String} {attr : Option String} {p : Pattern} {stage : Stage γ} {σ : String → Option Literal}

theorem view_substituted {s s' : Scope γ} (hs : stage.Reached s s') :
    (substituted b arguments id attr p).env'.view s' =
      { (substituted b arguments id attr p).env.view s with
        argument? := (substituted b arguments id attr p).env'.argument? s' } := by
  obtain ⟨entries, hentries, hmessages⟩ := b.replaceTerm_eq id attr p
  obtain ⟨-, hgiven, rfl⟩ := hs
  have hinTerm : stage.given'.isSome = s.localArguments.isSome := by
    rw [hgiven]
    exact stage.inTerm
  simp only [substituted, view, hentries, hmessages, Scope.inTerm, hinTerm]
  rfl

variable [CustomValue γ]

theorem fair_substituted
    (hblind : ∀ found, CustomValue.Ignores γ fun view => { view with argument? := found }) :
    (substituted b arguments id attr p).Fair := by
  obtain ⟨entries, hentries, -⟩ := b.replaceTerm_eq id attr p
  have hb : (substituted b arguments id attr p).env'.bundle = { b with entries := entries } :=
    hentries
  exact {
    maxDepth := by rw [hb]; rfl
    function := fun _ => by rw [hb]; rfl
    transformText := fun _ => by rw [hb]; rfl
    formatter := by rw [hb]; rfl
    hook := fun _ _ _ h => h
    format := fun _ _ _ _ _ _ hs x => by
      rw [view_substituted hs]
      exact (hblind _ x _).1
    selects := fun _ _ _ _ _ _ hs x key => by
      rw [view_substituted hs]
      exact (hblind _ x _).2 key
    refl := fun _ => rfl
    append := by
      rintro a _ b _ rfl rfl
      rfl
    marks := by
      rintro several a _ rfl
      rw [hb]
      rfl }

/-- A variable that is replaced has its literal for a value. Any other is found in both runs or in
neither. -/
theorem parallel_variable (h : stage.Binds σ) (name : String) :
    (substituted b arguments id attr p).Parallel stage (· = ·)
      ((substituted b arguments id attr p).env.resolveForm (.variable name))
      ((substituted b arguments id attr p).env'.resolveForm
        ((Expression.variable name).subst σ)) := by
  cases hσ : σ name with
  | some l =>
      rw [Expression.subst, hσ]
      have hfound : ∀ s s' : Scope γ, stage.Reached s s' →
          (substituted b arguments id attr p).env.argument? s name = some l.toValue := by
        intro s s' hs
        cases h with
        | apart hnone _ => simp [hnone, noLiteral] at hσ
        | called hgiven _ hvalues =>
            simp only [argument?, hs.given, hgiven]
            rw [hvalues, hσ]
            rfl
      refine .lookFirst fun s s' hs => ?_
      simp only [view, hfound s s' hs]
      exact .pure rfl
  | none =>
      rw [Expression.subst, hσ]
      refine parallel_resolveVariable fun s s' hs => ?_
      rw [hs.same]
      cases h with
      | apart _ hgiven => simp only [argument?, hs.given, hgiven, substituted]
      | called hgiven hgiven' hvalues =>
          simp only [argument?, hs.given, hgiven, hgiven', hvalues, hσ]
          rfl

/-- References are as they were, and what is behind them is compared with itself: the pattern in
which literals were put cannot be behind them, for it is open. -/
theorem parallel_reference_substituted {q : Pattern} (hq : b.termPattern id attr = .ok q)
    (hc : (substituted b arguments id attr p).Fair) (hopen : dotted id attr ∈ stage.active)
    {e : Expression} {t : Target} (ht : e.target? = some t) :
    (substituted b arguments id attr p).Parallel stage (· = ·)
      ((substituted b arguments id attr p).env.resolveForm e)
      ((substituted b arguments id attr p).env'.resolveForm e) := by
  refine (parallel_reference hc ht ht (P := Expression.Substituted noLiteral) ?_ ?_).weaken
    fun _ _ => Value.Alike.eq
  · intro e₁ e₂ he
    exact ⟨List.mem_append_left _ hopen, noLiteral, .apart rfl rfl, he⟩
  · by_cases hself : t = .term id attr
    · -- Only here do the patterns not match, and here they are not entered.
      subst hself
      refine .inr ⟨q, p, hq, b.termPattern_replaceTerm_self id attr p hq, fun hclosed => ?_⟩
      exact absurd hopen hclosed
    · have hsame : (substituted b arguments id attr p).env'.bundle.targetPattern t =
          b.targetPattern t := b.targetPattern_replaceTerm id attr p hself
      cases hfound : b.targetPattern t with
      | error err => exact .inl ⟨err, hfound, hsame.trans hfound⟩
      | ok r =>
          refine .inr ⟨r, r, hfound, hsame.trans hfound, fun _ => .refl fun e _ => ?_⟩
          exact e.subst_noLiteral.symm

theorem sound_substituted {q : Pattern} (hq : b.termPattern id attr = .ok q)
    (hc : (substituted b arguments id attr p).Fair) :
    (substituted b arguments id attr p).Sound := by
  refine ⟨hc.maxDepth, ?_⟩
  rintro stage e _ ⟨hopen, σ, hσ, rfl⟩
  have hinner : ∀ e e', e.Substituted σ e' →
      (substituted b arguments id attr p).Compares stage e e' :=
    fun e e' he => ⟨hopen, σ, hσ, he⟩
  have hform : (substituted b arguments id attr p).Parallel stage (· = ·)
      ((substituted b arguments id attr p).env.resolveForm e)
      ((substituted b arguments id attr p).env'.resolveForm (e.subst σ)) := by
    cases e with
    | literal l => exact .pure rfl
    | «variable» name => exact parallel_variable hσ name
    | message | term => exact parallel_reference_substituted hq hc hopen rfl
    | call name given =>
        exact parallel_resolveCall hc name (fun e e' he => ⟨hinner e e' he, trivial⟩)
          (Argument.listSubst_matches given)
    | select selector variants star =>
        exact (parallel_resolveSelect hc hinner star (hinner _ _ rfl) trivial
          (Variant.listSubst_matches variants)).weaken fun _ _ => Value.Alike.eq
  exact hform.weaken fun _ _ => .of_eq

end Comparison

namespace Environment

section

variable [FormatterSource] {γ : Type} [CustomValue γ]

/-- Calling a term, or an attribute of one, with named arguments ends like referring to it without
any on the bundle where the literals of the arguments stand in its pattern, in place of the
variables: with the same value, the same errors, and all of the scope the same. That holds in every
scope, if values of the host do not ask a scope for arguments. -/
theorem term_call_is_substitution
    (hblind : ∀ found, CustomValue.Ignores γ fun view => { view with argument? := found })
    {b : Bundle γ} {name : String} {attr : Option String} {p : Pattern}
    (hp : b.termPattern (Expression.termId name) attr = .ok p) (given : List Argument)
    (arguments : Option (Arguments γ)) (s : Scope γ) :
    let b' := b.replaceTerm (Expression.termId name) attr (p.subst (namedLiterals given).get?)
    (mk b' arguments).resolve (.term name attr none) s =
      (mk b arguments).resolve (.term name attr (some given)) s := by
  intro b'
  let id := Expression.termId name
  let q := p.subst (namedLiterals given).get?
  let c : Comparison γ := .substituted b arguments id attr q
  have hc : c.Fair := Comparison.fair_substituted hblind
  -- The stage changes with the reference: behind it, and only there, a call is compared.
  have hform : c.Parallel (.ofScope s) (· = ·)
      (c.env.resolveForm (.term name attr (some given)))
      (c.env'.resolveForm (.term name attr none)) := by
    refine (Comparison.parallel_reference hc (t := .term id attr) rfl rfl
      (P := Expression.Substituted (namedLiterals given).get?) ?_ ?_).weaken
      fun _ _ => Value.Alike.eq
    · intro e e' he
      refine ⟨List.mem_append_right _ List.mem_cons_self, _, ?_, he⟩
      exact .called rfl rfl (get?_namedValues given)
    · exact .inr ⟨p, q, hp, b.termPattern_replaceTerm_self id attr q hp, fun _ => p.subst_matches⟩
  exact ((Comparison.sound_substituted hp hc).resolve_related rfl hform
    (Stage.reached_ofScope s)).eq

def pickPattern : Pattern :=
  .complex [.placeable (.select (.variable "x")
    [.mk (.text "a") (.text "first"), .mk (.text "b") (.complex [.placeable (.variable "x")])] 0)]

end

def pickBundle : Bundle Badge :=
  ((Bundle.ofOptions {}).addResource false ⟨[⟨"-t", some pickPattern, .empty⟩]⟩).1

/-- Of the two arguments the later one chooses and is shown. -/
theorem pickBundle_substitutes :
    let given : List Argument := [.named "x" (.text "a"), .named "x" (.text "b")]
    let p := pickPattern.subst (namedLiterals given).get?
    let s : Scope Badge := .start pickBundle (some [])
    pickBundle.termPattern (Expression.termId "t") none = .ok pickPattern ∧
    ((mk pickBundle none).resolve (.term "t" none (some given)) s).result = .ok (.text "b") ∧
    (mk (pickBundle.replaceTerm (Expression.termId "t") none p) none).resolve
      (.term "t" none none) s =
        (mk pickBundle none).resolve (.term "t" none (some given)) s := by
  intro given p s
  have hp : pickBundle.termPattern (Expression.termId "t") none = .ok pickPattern := rfl
  refine ⟨hp, rfl, ?_⟩
  exact term_call_is_substitution (fun _ => Badge.ignores _) hp given none s

end Environment

end Phrasebook
