import Mathlib.Data.List.Forall2
import Phrasebook.Proofs.Resolution.Mirroring

/-!
# Elements one after the other

A pattern shows its elements one after the other from one scope. Each of them leaves the scope in
its place, and none looks at the errors or at the formatters that others left in it. So an element
contributes what it shows alone, whatever fails beside it, and a pattern of two lists of elements
shows the text of the first and behind it the text of the second.
-/

namespace Phrasebook

/-! ## Scopes in one place -/

namespace Scope

variable [FormatterSource] {γ : Type} {s s' t : Scope γ}

theorem Twin.refl (s : Scope γ) : s.Twin s := ⟨⟨rfl, rfl, rfl⟩, rfl⟩

theorem Twin.stays (h : s.Twin s') (hstay : s'.StaysAs t) : s.Twin t where
  depth := hstay.depth.trans h.depth
  active := hstay.active.trans h.active
  locale := hstay.locale.trans h.locale
  localArguments := hstay.localArguments.trans h.localArguments

end Scope

/-- A bundle mirrors itself, with nothing to excuse. -/
theorem Bundle.mirrored_refl [FormatterSource] {γ : Type} (b : Bundle γ) :
    b.Mirrored id (fun _ => False) b where
  text _ := rfl
  useIsolating := rfl
  formatter := rfl
  function _ := .inl rfl
  pattern t := by
    left
    cases b.targetPattern t with
    | error e => rfl
    | ok p => exact congrArg Except.ok p.mapText_id.symm

def Pairing.same [FormatterSource] {γ : Type} [CustomValue γ] (env : Environment γ) :
    Pairing env env (fun _ => False) :=
  .twins rfl fun s s' h => by
    have hview : env.view s' = env.view s :=
      Scope.SeeAlike.view_eq ⟨h.localArguments, .inl rfl⟩ h.toBeside
    rw [hview]
    exact ⟨rfl, rfl, rfl, fun _ => rfl, fun _ _ => rfl⟩

section Runs

variable [FormatterSource] {γ α : Type} {run run' : Scope γ → Ending γ α} {s s' t t' : Scope γ}
  {a a' : α} {added added' : List ResolverError}

/-- A run comes to one value and adds one list of errors. -/
theorem Agrees.unique (h : Agrees run s a added t) (h' : Agrees run s a' added' t') :
    a' = a ∧ added' = added := by
  have hsame := (h'.collects []).symm.trans (h.collects [])
  injection hsame with hvalue hscope
  exact ⟨hvalue, Option.some.inj (congrArg Scope.errors hscope)⟩

/-- With nothing to excuse, both runs come to one value. -/
theorem Follows.same (h : Follows (fun _ => False) run run' s s') :
    ∃ a added t t', Agrees run s a added t ∧ Agrees run' s' a added t' ∧ s.StaysAs t ∧
      s'.StaysAs t' := by
  obtain ⟨a, added, t, a', added', t', hrun, hrun', hrest⟩ := h
  rcases hrest with ⟨-, -, hfalse, -, -⟩ | ⟨rfl, rfl, hstay, hstay'⟩
  · exact hfalse.elim
  · exact ⟨a', added', t, t', hrun, hrun', hstay, hstay'⟩

end Runs

/-- The text of an element that was shown alone, set off if it is the text of a placeable. -/
def Element.setOff (isolate : Bool) : Element → String → String
  | .text _, shown => shown
  | .placeable _, shown => if isolate then isolated shown else shown

namespace Environment

section

variable [FormatterSource] {γ : Type} [CustomValue γ] {env : Environment γ} {resolver : Resolver γ}
  {s : Scope γ} {isolate : Bool}

/-- One list is shown behind the other. -/
theorem run_showElements_append (isolate : Bool) (xs ys : List Element) (s : Scope γ) :
    env.run resolver (env.showElements isolate (xs ++ ys)) s =
      env.run resolver
        (.bind (env.showElements isolate xs) fun text =>
          .bind (env.showElements isolate ys) fun text' => .pure (text ++ text')) s := by
  induction xs generalizing s with
  | nil =>
      change _ = env.run resolver (.bind (.pure "") _) s
      simp only [List.nil_append, run, String.empty_append]
      cases env.run resolver (env.showElements isolate ys) s <;> rfl
  | cons element rest ih =>
      have hsteps (others : List Element) : env.showElements isolate (element :: others) =
          (env.showElement isolate element).bind fun text =>
            (env.showElements isolate others).bind fun after => .pure (text ++ after) := rfl
      rw [List.cons_append, hsteps, hsteps]
      simp only [run, ih]
      cases env.run resolver (env.showElement isolate element) s with
      | error e t => rfl
      | ok text t =>
          dsimp only
          cases env.run resolver (env.showElements isolate rest) t with
          | error e u => rfl
          | ok after u =>
              dsimp only
              cases env.run resolver (env.showElements isolate ys) u with
              | error e w => rfl
              | ok text' w => simp only [String.append_assoc]

/-- Setting off is done to the text that is shown otherwise. -/
theorem run_showElement (isolate : Bool) (element : Element) (s : Scope γ) :
    env.run resolver (env.showElements isolate [element]) s =
      env.run resolver
        (.bind (env.showElements false [element]) fun text => .pure (element.setOff isolate text))
        s := by
  cases element with
  | text t =>
      have hsteps (isolate : Bool) : env.showElements isolate [.text t] =
          (Resolving.pure (env.bundle.transformText t)).bind fun text =>
            (Resolving.pure "").bind fun after => .pure (text ++ after) := rfl
      simp only [hsteps, run, Element.setOff]
  | placeable e =>
      have hsteps (isolate : Bool) : env.showElements isolate [.placeable e] =
          ((Resolving.inner e).bind fun v => (env.render v).bind fun text =>
              .pure (if isolate then isolated text else text)).bind fun text =>
            (Resolving.pure "").bind fun after => .pure (text ++ after) := rfl
      simp only [hsteps, run]
      cases resolver e s with
      | error e t => rfl
      | ok v t =>
          dsimp only
          cases env.run resolver (env.render v) t with
          | error e u => rfl
          | ok text u => simp [Element.setOff]

/-! ## Contributions -/

/-- From every scope in the place of `s`, the elements come to the text, add the errors, and keep
the place. -/
def Contributes (env : Environment γ) (isolate : Bool) (elements : List Element) (s : Scope γ)
    (text : String) (added : List ResolverError) : Prop :=
  ∀ s', s.Twin s' → ∃ t,
    Agrees (env.run env.resolve (env.showElements isolate elements)) s' text added t ∧ s'.StaysAs t

theorem showElements_follows (env : Environment γ) (isolate : Bool) (elements : List Element)
    {s s' : Scope γ} (h : s.Twin s') :
    Follows (fun _ => False) (env.run env.resolve (env.showElements isolate elements))
      (env.run env.resolve (env.showElements isolate elements)) s s' := by
  let pairing : Pairing env env (fun _ => False) := .same env
  have hb : env.bundle.Mirrored id (fun _ => False) env.bundle := env.bundle.mirrored_refl
  have hsteps : Resolving.Mirrors (fun _ => False) (Changed id) (env.showElements isolate elements)
      (env.showElements isolate elements) := by
    simpa only [Element.listMapText_id] using mirrors_showElements hb isolate elements
  refine run_follows pairing resolve_agreeing resolve_agreeing (fun e e' he t t' ht _ => ?_)
    hsteps h rfl
  exact resolve_follows pairing (fun _ _ => mirrors_resolveForm hb) he ht

/-- Whatever elements contribute, they contribute it to every scope in the same place. -/
theorem exists_contributes (env : Environment γ) (isolate : Bool) (elements : List Element)
    (s : Scope γ) : ∃ text added, env.Contributes isolate elements s text added := by
  obtain ⟨text, added, _, _, hrun, -⟩ :=
    (showElements_follows env isolate elements (.refl s)).same
  refine ⟨text, added, fun s' hs' => ?_⟩
  obtain ⟨a, more, _, t', hfirst, hsecond, -, hstay⟩ :=
    (showElements_follows env isolate elements hs').same
  obtain ⟨rfl, rfl⟩ := hrun.unique hfirst
  exact ⟨t', hsecond, hstay⟩

theorem Contributes.append {xs ys : List Element} {text text' : String}
    {added added' : List ResolverError} (hx : env.Contributes isolate xs s text added)
    (hy : env.Contributes isolate ys s text' added') :
    env.Contributes isolate (xs ++ ys) s (text ++ text') (added ++ added') := by
  intro s' hs'
  obtain ⟨t, hfirst, hstay⟩ := hx s' hs'
  obtain ⟨u, hsecond, hstay'⟩ := hy t (hs'.stays hstay)
  let behind (before : String) : Resolving γ String :=
    (env.showElements isolate ys).bind fun after => .pure (before ++ after)
  have hbehind : Agrees (env.run env.resolve (behind text)) t (text ++ text') (added' ++ []) u :=
    agrees_bind hsecond (agrees_pure _ u)
  have hboth : Agrees (env.run env.resolve ((env.showElements isolate xs).bind behind)) s'
      (text ++ text') (added ++ (added' ++ [])) u := agrees_bind hfirst hbehind
  rw [List.append_nil] at hboth
  exact ⟨u, hboth.congr fun _ => run_showElements_append isolate xs ys _, hstay.trans hstay'⟩

theorem Contributes.setOff {element : Element} {text : String} {added : List ResolverError}
    (h : env.Contributes false [element] s text added) (isolate : Bool) :
    env.Contributes isolate [element] s (element.setOff isolate text) added := by
  intro s' hs'
  obtain ⟨t, hrun, hstay⟩ := h s' hs'
  let finish (shown : String) : Resolving γ String := .pure (element.setOff isolate shown)
  have hboth : Agrees (env.run env.resolve ((env.showElements false [element]).bind finish)) s'
      (element.setOff isolate text) (added ++ []) t := agrees_bind hrun (agrees_pure _ t)
  rw [List.append_nil] at hboth
  exact ⟨t, hboth.congr fun _ => run_showElement isolate element _, hstay⟩

/-! ## Patterns -/

/-- The pattern resolves in the scope to the text and adds the errors behind those that were there.
The scope keeps its place. -/
def ResolvesTo (env : Environment γ) (p : Pattern) (s : Scope γ) (text : String)
    (added : List ResolverError) : Prop :=
  ∃ t, env.resolvePattern p s = .ok text t ∧ t.errors = s.errors.map (· ++ added) ∧ s.SamePlace t

theorem ResolvesTo.unique {p : Pattern} {text text' : String}
    {added added' held : List ResolverError} (hs : s.errors = some held)
    (h : env.ResolvesTo p s text added) (h' : env.ResolvesTo p s text' added') :
    text' = text ∧ added' = added := by
  obtain ⟨t, hrun, herrors, -⟩ := h
  obtain ⟨t', hrun', herrors', -⟩ := h'
  injection hrun'.symm.trans hrun with htext hscope
  rw [hscope, herrors, hs] at herrors'
  exact ⟨htext, (List.append_cancel_left (Option.some.inj herrors')).symm⟩

theorem Contributes.resolvesTo {elements : List Element} {text : String}
    {added held : List ResolverError}
    (h : env.Contributes (env.bundle.useIsolating && 1 < elements.length) elements s text added)
    (hs : s.errors = some held) : env.ResolvesTo (.complex elements) s text added := by
  obtain ⟨t, hrun, hstay⟩ := h s (.refl s)
  refine ⟨_, hrun.of_collecting hs, by rw [hs]; rfl, ?_⟩
  exact ⟨hstay.depth, hstay.active, hstay.localArguments⟩

/-- Elements contribute one after the other what each of them shows alone, set off or not. -/
theorem exists_parts (env : Environment γ) (isolate : Bool) (elements : List Element) {s : Scope γ}
    {held : List ResolverError} (hs : s.errors = some held) :
    ∃ parts : List (String × List ResolverError),
      List.Forall₂ (fun e part => env.ResolvesTo (.complex [e]) s part.1 part.2) elements parts ∧
        env.Contributes isolate elements s
          (String.join (List.zipWith (fun e part => e.setOff isolate part.1) elements parts))
          (parts.flatMap Prod.snd) := by
  induction elements with
  | nil =>
      exact ⟨[], .nil, fun s' _ => ⟨s', agrees_pure "" s', .refl s'⟩⟩
  | cons element rest ih =>
      obtain ⟨parts, hparts, hrest⟩ := ih
      obtain ⟨text, added, hfirst⟩ := exists_contributes env false [element] s
      have halone : env.ResolvesTo (.complex [element]) s text added := by
        refine Contributes.resolvesTo ?_ hs
        simpa using hfirst
      refine ⟨(text, added) :: parts, .cons halone hparts, ?_⟩
      have hboth := (hfirst.setOff isolate).append hrest
      simpa only [List.zipWith_cons_cons, String.join_cons, List.flatMap_cons,
        List.singleton_append] using hboth

/-- Take a scope in which errors are collected. The elements of two lists, in one pattern, give the
text of the first list and behind it that of the second, each as resolved from this scope alone, and
the errors likewise; where texts are set off, that goes for lists of at least two elements. Of every
pattern, each element gives the text and the errors that it gives as a pattern of its own, at most
with its text set off, whatever stands beside it and fails. -/
theorem patterns_concatenate (env : Environment γ) {s : Scope γ} {held : List ResolverError}
    (hs : s.errors = some held) :
    (∀ xs ys : List Element,
      (env.bundle.useIsolating = true → 2 ≤ xs.length ∧ 2 ≤ ys.length) →
        ∃ text text' added added', env.ResolvesTo (.complex xs) s text added ∧
          env.ResolvesTo (.complex ys) s text' added' ∧
          env.ResolvesTo (.complex (xs ++ ys)) s (text ++ text') (added ++ added')) ∧
    ∀ elements : List Element, ∃ parts : List (String × List ResolverError),
      List.Forall₂ (fun e part => env.ResolvesTo (.complex [e]) s part.1 part.2) elements parts ∧
        env.ResolvesTo (.complex elements) s
          (String.join (List.zipWith (fun e part =>
            e.setOff (env.bundle.useIsolating && 1 < elements.length) part.1) elements parts))
          (parts.flatMap Prod.snd) := by
  constructor
  · intro xs ys hseveral
    obtain ⟨text, added, hx⟩ := exists_contributes env env.bundle.useIsolating xs s
    obtain ⟨text', added', hy⟩ := exists_contributes env env.bundle.useIsolating ys s
    -- All three patterns set texts off, or none does.
    have hmarks {elements : List Element}
        (h : env.bundle.useIsolating = true → 1 < elements.length) :
        (env.bundle.useIsolating && decide (1 < elements.length)) = env.bundle.useIsolating := by
      cases hon : env.bundle.useIsolating with
      | false => rfl
      | true => simp [h hon]
    have hxs : env.bundle.useIsolating = true → 1 < xs.length := fun h => (hseveral h).1
    have hys : env.bundle.useIsolating = true → 1 < ys.length := fun h => (hseveral h).2
    have hboth : env.bundle.useIsolating = true → 1 < (xs ++ ys).length := by
      intro h
      rw [List.length_append]
      exact Nat.lt_add_right _ (hxs h)
    refine ⟨text, text', added, added', Contributes.resolvesTo ?_ hs,
      Contributes.resolvesTo ?_ hs, Contributes.resolvesTo ?_ hs⟩
    · rwa [hmarks hxs]
    · rwa [hmarks hys]
    · rw [hmarks hboth]
      exact hx.append hy
  · intro elements
    obtain ⟨parts, hparts, hall⟩ := exists_parts env _ elements hs
    exact ⟨parts, hparts, hall.resolvesTo hs⟩

end

def loopingBundle : Bundle Badge :=
  ((Bundle.ofOptions {}).addResource false
    ⟨[⟨"loop", some (.complex [.placeable (.message "loop" none)]), .empty⟩]⟩).1

/-- Neither the cycle nor the unknown name leaves a trace in the texts around them. -/
theorem loopingBundle_concatenates :
    let env : Environment Badge := ⟨loopingBundle, none⟩
    let s : Scope Badge := .start loopingBundle (some [.unknownVariable "before"])
    let xs : List Element := [.text "a", .placeable (.message "loop" none)]
    let ys : List Element := [.placeable (.variable "x"), .text "b"]
    env.bundle.useIsolating = true ∧ s.errors = some [.unknownVariable "before"] ∧
    env.ResolvesTo (.complex xs) s "a\u2068{loop}\u2069" [.cyclicReference ["loop", "loop"]] ∧
    env.ResolvesTo (.complex ys) s "\u2068{$x}\u2069b" [.unknownVariable "x"] ∧
    env.ResolvesTo (.complex (xs ++ ys)) s "a\u2068{loop}\u2069\u2068{$x}\u2069b"
      [.cyclicReference ["loop", "loop"], .unknownVariable "x"] := by
  intro env s xs ys
  have hx : env.ResolvesTo (.complex xs) s "a\u2068{loop}\u2069"
      [.cyclicReference ["loop", "loop"]] := ⟨_, rfl, rfl, rfl, rfl, rfl⟩
  have hy : env.ResolvesTo (.complex ys) s "\u2068{$x}\u2069b" [.unknownVariable "x"] :=
    ⟨_, rfl, rfl, rfl, rfl, rfl⟩
  obtain ⟨text, text', added, added', hx', hy', hboth⟩ :=
    (patterns_concatenate env (s := s) rfl).1 xs ys fun _ => ⟨Nat.le_refl 2, Nat.le_refl 2⟩
  obtain ⟨rfl, rfl⟩ := ResolvesTo.unique rfl hx hx'
  obtain ⟨rfl, rfl⟩ := ResolvesTo.unique rfl hy hy'
  exact ⟨rfl, rfl, hx, hy, hboth⟩

end Environment

end Phrasebook
