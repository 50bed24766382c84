import Phrasebook.Proofs.Formatters.Answers
import Phrasebook.Proofs.Resolution.Descent
import Phrasebook.Proofs.Resolution.Collecting

/-!
# Runs that follow one another

Two resolutions, perhaps of different expressions on different bundles, are compared step by step.
Either the first one reports an error of a kind that is excused, or the second one follows it: it
comes to the same value and adds the same errors. For this the steps of the second have to mirror
those of the first, and the two scopes have to stay paired, each entered where the other is.
-/

namespace Phrasebook

/-! ## Scopes that stay where they are -/

namespace Scope

variable [FormatterSource] {γ : Type} {s t u : Scope γ}

structure StaysAs (s t : Scope γ) : Prop extends SamePlace s t where
  locale : t.formatters.locale = s.formatters.locale

theorem StaysAs.refl (s : Scope γ) : s.StaysAs s := ⟨.refl s, rfl⟩

theorem StaysAs.trans (h₁ : s.StaysAs t) (h₂ : t.StaysAs u) : s.StaysAs u :=
  ⟨h₁.toSamePlace.trans h₂.toSamePlace, h₂.locale.trans h₁.locale⟩

theorem staysAs_ask {α : Type} (question : Formatting α) (s : Scope γ) :
    s.StaysAs { s with formatters := (question.run s.formatters).2 } :=
  ⟨⟨rfl, rfl, rfl⟩, question.run_locale s.formatters⟩

/-- What is entered and left again stays as it was, if its inside does. -/
def Restores (leave : Scope γ → Scope γ) (enter : Scope γ → Except ResolverError (Scope γ)) :
    Prop :=
  ∀ s t u : Scope γ, enter s = .ok t → t.StaysAs u → s.StaysAs (leave u)

theorem restores_descend (maxDepth : Nat) :
    Restores Scope.ascend (Scope.descend maxDepth : Scope γ → _) := by
  intro s t u hd h
  have hplace : s.SamePlace u.ascend := (undoes_descend maxDepth s t u hd h.toSamePlace).1
  obtain ⟨-, rfl⟩ := descend_eq_ok_iff.1 hd
  exact ⟨hplace, h.locale⟩

theorem restores_pushEntry (key : String) :
    Restores Scope.popEntry (Scope.pushEntry key : Scope γ → _) := by
  intro s t u hp h
  have hplace : s.SamePlace u.popEntry := (undoes_pushEntry key s t u hp h.toSamePlace).1
  obtain ⟨-, rfl⟩ := pushEntry_eq_ok_iff.1 hp
  exact ⟨hplace, h.locale⟩

/-- Both scopes can be entered and are then related again, or the first cannot and that is excused,
or the second fails in the same way. -/
def EnterRelated (excused : ResolverError → Prop) (related : Scope γ → Scope γ → Prop)
    (enter enter' : Scope γ → Except ResolverError (Scope γ)) (s s' : Scope γ) : Prop :=
  (∃ t t', enter s = .ok t ∧ enter' s' = .ok t' ∧ related t t') ∨
    ∃ e, enter s = .error e ∧ (excused e ∨ enter' s' = .error e)

end Scope

/-! ## Following -/

/-- The first errors go on with an excused one where the second errors are the same so far. -/
def CutShort (excused : ResolverError → Prop) (added added' : List ResolverError) : Prop :=
  ∃ before e, excused e ∧ before ++ [e] <+: added ∧ before <+: added'

theorem cutShort_cons {excused : ResolverError → Prop} {e : ResolverError} (he : excused e)
    (rest added' : List ResolverError) : CutShort excused (e :: rest) added' :=
  ⟨[], e, he, List.prefix_append [e] rest, List.nil_prefix⟩

theorem CutShort.append {excused : ResolverError → Prop} {added added' : List ResolverError}
    (h : CutShort excused added added') (more more' : List ResolverError) :
    CutShort excused (added ++ more) (added' ++ more') := by
  obtain ⟨before, e, he, hfirst, hsecond⟩ := h
  exact ⟨before, e, he, hfirst.trans (List.prefix_append ..), hsecond.trans (List.prefix_append ..)⟩

theorem CutShort.append_left {excused : ResolverError → Prop} {added added' : List ResolverError}
    (h : CutShort excused added added') (first : List ResolverError) :
    CutShort excused (first ++ added) (first ++ added') := by
  obtain ⟨before, e, he, hfirst, hsecond⟩ := h
  refine ⟨first ++ before, e, he, ?_, (List.prefix_append_right_inj first).2 hsecond⟩
  rw [List.append_assoc]
  exact (List.prefix_append_right_inj first).2 hfirst

section Follows

variable [FormatterSource] {γ α : Type} {excused : ResolverError → Prop} {s s' t t' : Scope γ}

/-- From the two scopes, both runs come to one value and add the same errors, or both add the same
errors until the first run adds an excused one. That goes whether errors are collected or not. -/
def Follows (excused : ResolverError → Prop) (run run' : Scope γ → Ending γ α) (s s' : Scope γ) :
    Prop :=
  ∃ a added t a' added' t', Agrees run s a added t ∧ Agrees run' s' a' added' t' ∧
    (CutShort excused added added' ∨ a' = a ∧ added' = added ∧ s.StaysAs t ∧ s'.StaysAs t')

theorem Agrees.follows {run run' : Scope γ → Ending γ α} {a : α} {added : List ResolverError}
    (h : Agrees run s a added t) (h' : Agrees run' s' a added t') (hstay : s.StaysAs t)
    (hstay' : s'.StaysAs t') : Follows excused run run' s s' :=
  ⟨a, added, t, a, added, t', h, h', .inr ⟨rfl, rfl, hstay, hstay'⟩⟩

theorem Agrees.cut {run run' : Scope γ → Ending γ α} {a a' : α} {added added' : List ResolverError}
    (h : Agrees run s a added t) (h' : Agrees run' s' a' added' t')
    (hcut : CutShort excused added added') : Follows excused run run' s s' :=
  ⟨a, added, t, a', added', t', h, h', .inl hcut⟩

theorem follows_within {enter enter' : Scope γ → Except ResolverError (Scope γ)}
    {leave : Scope γ → Scope γ} {related : Scope γ → Scope γ → Prop} {fallback : Option String}
    {body body' : Scope γ → Ending γ (Value γ)} (hblind : ErrorBlind enter)
    (hblind' : ErrorBlind enter')
    (hleave : ∀ (u : Scope γ) errors, leave (u.withErrors errors) = (leave u).withErrors errors)
    (hrestores : Scope.Restores leave enter) (hrestores' : Scope.Restores leave enter')
    (hagree' : Agreeing body') (henter : Scope.EnterRelated excused related enter enter' s s')
    (hbody : ∀ t t', enter s = .ok t → related t t' → Follows excused body body' t t') :
    Follows excused (Scope.within enter leave fallback body)
      (Scope.within enter' leave fallback body') s s' := by
  rcases henter with ⟨t, t', ht, ht', hrelated⟩ | ⟨e, he, hexcused | he'⟩
  · obtain ⟨a, added, u, a', added', u', hrun, hrun', hrest⟩ := hbody t t' ht hrelated
    refine ⟨a, added, leave u, a', added', leave u', hrun.within_ok hblind hleave ht,
      hrun'.within_ok hblind' hleave ht', hrest.imp_right ?_⟩
    rintro ⟨hvalue, hsame, hu, hu'⟩
    exact ⟨hvalue, hsame, hrestores s t u ht hu, hrestores' s' t' u' ht' hu'⟩
  · have hagree : Agreeing (Scope.within enter' leave fallback body') :=
      agreeing_within hblind' hleave hagree'
    obtain ⟨a', added', u', hrun'⟩ := hagree s'
    exact (agrees_within_error hblind he).cut hrun' (cutShort_cons hexcused [] added')
  · exact (agrees_within_error hblind he).follows (agrees_within_error hblind' he') (.refl s)
      (.refl s')

end Follows

/-! ## Steps that mirror each other -/

/-- Nothing that is shown tells the two views apart. -/
structure ScopeView.LooksLike {γ : Type} [CustomValue γ] (view view' : ScopeView γ) : Prop where
  argument? : view'.argument? = view.argument?
  inTerm : view'.inTerm = view.inTerm
  locale : view'.locale = view.locale
  format : ∀ c, CustomValue.format c view' = CustomValue.format c view
  selects : ∀ c key, CustomValue.selects c key view' = CustomValue.selects c key view

namespace Resolving

variable {γ α β : Type} [CustomValue γ] {excused : ResolverError → Prop}
  {inner : Expression → Expression → Prop}

/-- The second steps are the first ones, up to the inner expressions, which are related. Where the
first steps report an excused error, nothing more is said. -/
inductive Mirrors (excused : ResolverError → Prop) (inner : Expression → Expression → Prop) :
    {α : Type} → Resolving γ α → Resolving γ α → Prop where
  | pure {α : Type} (a : α) : Mirrors excused inner (.pure a) (.pure a)
  | bind {α β : Type} {m m' : Resolving γ β} {next next' : β → Resolving γ α} :
      Mirrors excused inner m m' → (∀ b, Mirrors excused inner (next b) (next' b)) →
        Mirrors excused inner (.bind m next) (.bind m' next')
  | look {α : Type} {next next' : ScopeView γ → Resolving γ α} :
      (∀ view view' : ScopeView γ, view.LooksLike view' →
        Mirrors excused inner (next view) (next' view')) →
        Mirrors excused inner (.bind .look next) (.bind .look next')
  | report (e : ResolverError) : Mirrors excused inner (.report e) (.report e)
  | excuse {α : Type} {e : ResolverError} {next : Unit → Resolving γ α} (m' : Resolving γ α) :
      excused e → Mirrors excused inner (.bind (.report e) next) m'
  | ask {α : Type} (question : Formatting α) : Mirrors excused inner (.ask question) (.ask question)
  | inner {e e' : Expression} : inner e e' → Mirrors excused inner (.inner e) (.inner e')
  | opening (key : String) {body body' : Resolving γ (Value γ)} :
      Mirrors excused inner body body' →
        Mirrors excused inner (.opening key body) (.opening key body')
  | withLocal (arguments : Option (Arguments γ)) {body body' : Resolving γ (Value γ)} :
      Mirrors excused inner body body' →
        Mirrors excused inner (.withLocal arguments body) (.withLocal arguments body')

theorem Mirrors.map (f : α → β) {m m' : Resolving γ α} (h : Mirrors excused inner m m') :
    Mirrors excused inner (f <$> m) (f <$> m') :=
  .bind h fun a => .pure (f a)

theorem mirrors_fallBack (e : ResolverError) (fallback : Option String) :
    Mirrors excused inner (fallBack e fallback : Resolving γ _) (fallBack e fallback) :=
  .bind (.report e) fun _ => .pure _

theorem mirrors_of_excused {e : ResolverError} (he : excused e) (fallback : Option String)
    (m' : Resolving γ (Value γ)) : Mirrors excused inner (fallBack e fallback) m' :=
  .excuse m' he

end Resolving

structure Pairing [FormatterSource] {γ : Type} [CustomValue γ] (env env' : Environment γ)
    (excused : ResolverError → Prop) where
  Paired : Scope γ → Scope γ → Prop
  stays {s s' t t' : Scope γ} : Paired s s' → s.StaysAs t → s'.StaysAs t' → Paired t t'
  looks {s s' : Scope γ} : Paired s s' → (env.view s).LooksLike (env'.view s')
  descend {s s' : Scope γ} : Paired s s' →
    Scope.EnterRelated excused Paired (Scope.descend env.bundle.maxDepth)
      (Scope.descend env'.bundle.maxDepth) s s'
  pushEntry (key : String) {s s' : Scope γ} : Paired s s' →
    Scope.EnterRelated excused Paired (Scope.pushEntry key) (Scope.pushEntry key) s s'
  withLocal (arguments : Option (Arguments γ)) {s s' : Scope γ} : Paired s s' →
    Paired { s with localArguments := arguments } { s' with localArguments := arguments }

namespace Environment

variable [FormatterSource] {γ α : Type} [CustomValue γ] {env env' : Environment γ}
  {excused : ResolverError → Prop}
  {inner : Expression → Expression → Prop} {resolver resolver' : Resolver γ}

/-- Steps follow those that they mirror if the inner expressions do, which are all resolved at the
depth of the start. -/
theorem run_follows (pairing : Pairing env env' excused) {depth : Nat}
    (hagree : ∀ e, Agreeing (resolver e)) (hagree' : ∀ e, Agreeing (resolver' e))
    (hr : ∀ e e', inner e e' → ∀ t t' : Scope γ, pairing.Paired t t' → t.depth = depth →
      Follows excused (resolver e) (resolver' e') t t')
    {m m' : Resolving γ α} (hm : Resolving.Mirrors excused inner m m') {s s' : Scope γ}
    (hs : pairing.Paired s s') (hdepth : s.depth = depth) :
    Follows excused (env.run resolver m) (env'.run resolver' m') s s' := by
  induction hm generalizing s s' with
  | pure a =>
      exact (Agrees.of_silent fun _ => rfl).follows (.of_silent fun _ => rfl) (.refl s) (.refl s')
  | @bind _ _ m m' next next' _ _ ihm ihnext =>
      obtain ⟨b, first, t, b', first', t', hfirst, hfirst', hrest⟩ := ihm hs hdepth
      rcases hrest with hcut | ⟨rfl, rfl, hstay, hstay'⟩
      · have hnext : Agreeing (env.run resolver (next b)) := run_agreeing hagree (next b)
        have hnext' : Agreeing (env'.run resolver' (next' b')) := run_agreeing hagree' (next' b')
        obtain ⟨a, second, u, hsecond⟩ := hnext t
        obtain ⟨a', second', u', hsecond'⟩ := hnext' t'
        exact (agrees_bind hfirst hsecond).cut (agrees_bind hfirst' hsecond')
          (hcut.append second second')
      · have hpaired : pairing.Paired t t' := pairing.stays hs hstay hstay'
        obtain ⟨a, second, u, a', second', u', hsecond, hsecond', hrest⟩ :=
          ihnext b' hpaired (hstay.depth.trans hdepth)
        have hboth := agrees_bind hfirst hsecond
        have hboth' := agrees_bind hfirst' hsecond'
        rcases hrest with hcut | ⟨rfl, rfl, hu, hu'⟩
        · exact hboth.cut hboth' (hcut.append_left first')
        · exact hboth.follows hboth' (hstay.trans hu) (hstay'.trans hu')
  | look hnext ih =>
      have hlooks : (env.view s).LooksLike (env'.view s') := pairing.looks hs
      obtain ⟨a, added, t, a', added', t', hrun, hrun', hrest⟩ := ih _ _ hlooks hs hdepth
      exact ⟨a, added, t, a', added', t', hrun.congr fun _ => rfl, hrun'.congr fun _ => rfl, hrest⟩
  | report e => exact (agrees_report e s).follows (agrees_report e s') (.refl s) (.refl s')
  | @excuse _ e next m' he =>
      have hnext : Agreeing (env.run resolver (next ())) := run_agreeing hagree (next ())
      have hother : Agreeing (env'.run resolver' m') := run_agreeing hagree' m'
      obtain ⟨a, second, u, hsecond⟩ := hnext s
      obtain ⟨a', added', u', hrun'⟩ := hother s'
      have hreport : Agrees (env.run resolver (.report e)) s () [e] s := agrees_report e s
      exact (agrees_bind hreport hsecond).cut hrun' (cutShort_cons he second added')
  | ask question =>
      have hlocale : s'.formatters.locale = s.formatters.locale := (pairing.looks hs).locale
      have hanswer : (question.run s'.formatters).1 = (question.run s.formatters).1 :=
        question.run_fst hlocale
      have hasked : Agrees (env'.run resolver' (.ask question)) s'
          (question.run s.formatters).1 [] _ := hanswer ▸ agrees_ask question s'
      have hask : Agrees (env.run resolver (.ask question)) s _ [] _ := agrees_ask question s
      exact hask.follows hasked (Scope.staysAs_ask question s) (Scope.staysAs_ask question s')
  | inner he => exact hr _ _ he s s' hs hdepth
  | @opening key body body' _ ih =>
      refine follows_within (errorBlind_pushEntry key) (errorBlind_pushEntry key) (fun _ _ => rfl)
        (Scope.restores_pushEntry key) (Scope.restores_pushEntry key)
        (run_agreeing hagree' body') (pairing.pushEntry key hs) fun t t' ht hpaired => ?_
      have htdepth : t.depth = depth := by
        obtain ⟨-, rfl⟩ := Scope.pushEntry_eq_ok_iff.1 ht
        exact hdepth
      exact ih hpaired htdepth
  | withLocal arguments _ ih =>
      obtain ⟨a, added, t, a', added', t', hbody, hbody', hrest⟩ :=
        ih (pairing.withLocal arguments hs) hdepth
      refine ⟨a, added, _, a', added', _, agrees_withLocal hbody, agrees_withLocal hbody',
        hrest.imp_right ?_⟩
      rintro ⟨hvalue, hsame, hstay, hstay'⟩
      exact ⟨hvalue, hsame, ⟨⟨hstay.depth, hstay.active, rfl⟩, hstay.locale⟩,
        ⟨⟨hstay'.depth, hstay'.active, rfl⟩, hstay'.locale⟩⟩

/-- An expression follows another if the steps for each pair of related expressions mirror each
other. -/
theorem resolve_follows (pairing : Pairing env env' excused)
    (hform : ∀ e e', inner e e' →
      Resolving.Mirrors excused inner (env.resolveForm e) (env'.resolveForm e'))
    {e e' : Expression} (he : inner e e') {s s' : Scope γ} (hs : pairing.Paired s s') :
    Follows excused (env.resolve e) (env'.resolve e') s s' := by
  -- The levels that the first scope leaves bound how deep its expressions are nested.
  have hlevel : ∀ level e e' (s s' : Scope γ), inner e e' → pairing.Paired s s' →
      env.bundle.maxDepth - s.depth = level →
        Follows excused (env.resolve e) (env'.resolve e') s s' := by
    intro level
    induction level using Nat.strongRecOn with
    | ind level ih =>
        intro e e' s s' he hs hleft
        have heq : env.resolve e = env.resolveBy env.resolve e := funext (resolve_eq e)
        have heq' : env'.resolve e' = env'.resolveBy env'.resolve e' := funext (resolve_eq e')
        rw [heq, heq']
        refine follows_within (errorBlind_descend _) (errorBlind_descend _) (fun _ _ => rfl)
          (Scope.restores_descend _) (Scope.restores_descend _) (run_agreeing resolve_agreeing _)
          (pairing.descend hs) fun t t' ht hpaired => ?_
        obtain ⟨hlt, rfl⟩ := Scope.descend_eq_ok_iff.1 ht
        refine run_follows pairing resolve_agreeing resolve_agreeing
          (fun e e' he u u' hu hdepth => ?_) (hform e e' he) hpaired rfl
        have hfewer : env.bundle.maxDepth - u.depth < level := by
          rw [hdepth]
          show env.bundle.maxDepth - (s.depth + 1) < level
          omega
        exact ih _ hfewer e e' u u' he hu rfl
  exact hlevel _ e e' s s' he hs rfl

theorem resolvePattern_follows (pairing : Pairing env env' excused)
    (hform : ∀ e e', inner e e' →
      Resolving.Mirrors excused inner (env.resolveForm e) (env'.resolveForm e'))
    {p p' : Pattern}
    (hp : Resolving.Mirrors excused inner (env.showPattern p) (env'.showPattern p'))
    {s s' : Scope γ} (hs : pairing.Paired s s') :
    Follows excused (env.resolvePattern p) (env'.resolvePattern p') s s' := by
  have hr (e e' : Expression) (he : inner e e') (t t' : Scope γ) (ht : pairing.Paired t t')
      (_ : t.depth = s.depth) : Follows excused (env.resolve e) (env'.resolve e') t t' :=
    resolve_follows pairing hform he ht
  exact run_follows pairing resolve_agreeing resolve_agreeing hr hp hs rfl

end Environment

end Phrasebook
