import Phrasebook.Proofs.Resolution.Plain

/-!
# Collecting errors and stopping at the first one

The same steps, taken from the same scope, either collect their errors or stop at the first of them.
Up to that error the two runs go in lockstep: they differ only in the errors they hold, and no step
sees those. So the run that stops gives the first of the errors that the other collects, and where
none is collected both end alike.
-/

namespace Phrasebook

section Agreement

variable [FormatterSource] {γ α β : Type}

def Scope.withErrors (s : Scope γ) (errors : Option (List ResolverError)) : Scope γ :=
  { s with errors := errors }

/-- How a run ends without collecting, given how it ends when it collects: at the first added error,
or with the same value when none was added. -/
def Stops (added : List ResolverError) (a : α) (t : Scope γ) (stopped : Ending γ α) : Prop :=
  match added with
  | [] => stopped = .ok a (t.withErrors none)
  | e :: _ => ∃ u, stopped = .error e u

/-- From a scope on, a run that collects ends with `a`, has put `added` behind the errors held so
far, whichever they were, and has changed all else to `t`; without collecting it stops
accordingly. -/
structure Agrees (run : Scope γ → Ending γ α) (s : Scope γ) (a : α) (added : List ResolverError)
    (t : Scope γ) : Prop where
  collects : ∀ held,
    run (s.withErrors (some held)) = .ok a (t.withErrors (some (held ++ added)))
  stops : Stops added a t (run (s.withErrors none))

theorem Agrees.of_collecting {run : Scope γ → Ending γ α} {s t : Scope γ} {a : α}
    {added held : List ResolverError} (h : Agrees run s a added t) (hs : s.errors = some held) :
    run s = .ok a (t.withErrors (some (held ++ added))) := by
  simpa only [Scope.withErrors, ← hs] using h.collects held

theorem Agrees.of_not_collecting {run : Scope γ → Ending γ α} {s t : Scope γ} {a : α}
    {added : List ResolverError} (h : Agrees run s a added t) (hs : s.errors = none) :
    Stops added a t (run s) := by
  simpa only [Scope.withErrors, ← hs] using h.stops

def Agreeing (run : Scope γ → Ending γ α) : Prop := ∀ s, ∃ a added t, Agrees run s a added t

/-- A run that never reports. -/
theorem Agrees.of_silent {run : Scope γ → Ending γ α} {s : Scope γ} {a : α} {t : Scope γ}
    (h : ∀ errors, run (s.withErrors errors) = .ok a (t.withErrors errors)) :
    Agrees run s a [] t := by
  refine ⟨fun held => ?_, h none⟩
  rw [h, List.append_nil]

theorem agrees_report (e : ResolverError) (s : Scope γ) : Agrees (Scope.report e) s () [e] s :=
  ⟨fun _ => rfl, s.withErrors none, rfl⟩

theorem agrees_fallBack (e : ResolverError) (fallback : Option String) (s : Scope γ) :
    Agrees (Scope.fallBack e fallback) s (.absent fallback) [e] s :=
  ⟨fun _ => rfl, s.withErrors none, rfl⟩

theorem agrees_ask (question : Formatting α) (s : Scope γ) :
    Agrees (Scope.ask question) s (question.run s.formatters).1 []
      { s with formatters := (question.run s.formatters).2 } :=
  .of_silent fun _ => rfl

/-- A change that keeps the errors of a scope, done at the end. -/
theorem Agrees.leave {run : Scope γ → Ending γ α} {f : Scope γ → Scope γ} {s t : Scope γ} {a : α}
    {added : List ResolverError}
    (hf : ∀ (u : Scope γ) errors, f (u.withErrors errors) = (f u).withErrors errors)
    (h : Agrees run s a added t) : Agrees (fun s => (run s).leave f) s a added (f t) := by
  refine ⟨fun held => ?_, ?_⟩
  · simp only [h.collects held, Ending.leave, hf]
  · cases added with
    | nil =>
        have hstops : run (s.withErrors none) = .ok a (t.withErrors none) := h.stops
        simp only [Stops, hstops, Ending.leave, hf]
    | cons e rest =>
        obtain ⟨u, hstops⟩ := h.stops
        exact ⟨f u, by simp only [hstops, Ending.leave]⟩

/-- Only the start and the two runs from it count. -/
theorem Agrees.congr {run run' : Scope γ → Ending γ α} {s s' t : Scope γ} {a : α}
    {added : List ResolverError} (h : Agrees run s a added t)
    (heq : ∀ errors, run' (s'.withErrors errors) = run (s.withErrors errors)) :
    Agrees run' s' a added t := by
  refine ⟨fun held => (heq _).trans (h.collects held), ?_⟩
  rw [heq]
  exact h.stops

/-! Entering a scope does not depend on the errors so far, and leaving it keeps them. -/

section Within

variable {enter : Scope γ → Except ResolverError (Scope γ)} {leave : Scope γ → Scope γ}
  {fallback : Option String} {body : Scope γ → Ending γ (Value γ)} {s t u : Scope γ}

/-- A way into a scope that is the same whichever errors are held. -/
def ErrorBlind (enter : Scope γ → Except ResolverError (Scope γ)) : Prop :=
  ∀ (s : Scope γ) errors, enter (s.withErrors errors) = (enter s).map (·.withErrors errors)

theorem errorBlind_descend (maxDepth : Nat) :
    ErrorBlind (Scope.descend maxDepth : Scope γ → _) := by
  intro s errors
  unfold Scope.descend Scope.withErrors
  split <;> rfl

theorem errorBlind_pushEntry (key : String) : ErrorBlind (Scope.pushEntry key : Scope γ → _) := by
  intro s errors
  unfold Scope.pushEntry Scope.withErrors
  split <;> rfl

theorem Agrees.within_ok {a : Value γ} {added : List ResolverError} (henter : ErrorBlind enter)
    (hleave : ∀ (u : Scope γ) errors, leave (u.withErrors errors) = (leave u).withErrors errors)
    (hs : enter s = .ok t) (h : Agrees body t a added u) :
    Agrees (Scope.within enter leave fallback body) s a added (leave u) := by
  refine (h.leave hleave).congr fun errors => ?_
  simp only [Scope.within, henter s, hs, Except.map]

theorem agrees_within_error {e : ResolverError} (henter : ErrorBlind enter)
    (hs : enter s = .error e) :
    Agrees (Scope.within enter leave fallback body) s (.absent fallback) [e] s := by
  refine (agrees_fallBack e fallback s).congr fun errors => ?_
  simp only [Scope.within, henter s, hs, Except.map]

theorem agreeing_within (henter : ErrorBlind enter)
    (hleave : ∀ (u : Scope γ) errors, leave (u.withErrors errors) = (leave u).withErrors errors)
    (hbody : Agreeing body) : Agreeing (Scope.within enter leave fallback body) := by
  intro s
  cases hs : enter s with
  | ok t =>
      obtain ⟨a, added, u, h⟩ := hbody t
      exact ⟨a, added, leave u, h.within_ok henter hleave hs⟩
  | error e => exact ⟨.absent fallback, [e], s, agrees_within_error henter hs⟩

end Within

end Agreement

namespace Environment

variable [FormatterSource] {γ α : Type} {env : Environment γ} {resolver : Resolver γ}

theorem agrees_pure (a : α) (s : Scope γ) : Agrees (env.run resolver (.pure a)) s a [] s :=
  .of_silent fun _ => rfl

theorem agrees_bind {β : Type} {m : Resolving γ β} {next : β → Resolving γ α} {s t u : Scope γ}
    {b : β} {a : α} {first second : List ResolverError}
    (hm : Agrees (env.run resolver m) s b first t)
    (hnext : Agrees (env.run resolver (next b)) t a second u) :
    Agrees (env.run resolver (m.bind next)) s a (first ++ second) u := by
  refine ⟨fun held => ?_, ?_⟩
  · simp only [run, hm.collects held, hnext.collects, List.append_assoc]
  · -- The next steps are taken only if the first ones did not stop.
    cases first with
    | nil =>
        have hstops : env.run resolver m (s.withErrors none) = .ok b (t.withErrors none) := hm.stops
        simpa only [run, hstops, List.nil_append] using hnext.stops
    | cons e rest =>
        obtain ⟨v, hstops⟩ := hm.stops
        exact ⟨v, by simp only [run, hstops]⟩

theorem agrees_withLocal {arguments : Option (Arguments γ)} {body : Resolving γ (Value γ)}
    {s t : Scope γ} {a : Value γ} {added : List ResolverError}
    (h : Agrees (env.run resolver body) { s with localArguments := arguments } a added t) :
    Agrees (env.run resolver (.withLocal arguments body)) s a added
      { t with localArguments := s.localArguments } := by
  let restore (u : Scope γ) : Scope γ := { u with localArguments := s.localArguments }
  have hrestore : ∀ (u : Scope γ) errors,
    restore (u.withErrors errors) = (restore u).withErrors errors := fun _ _ => rfl
  exact (h.leave hrestore).congr fun _ => rfl

/-- Steps agree if resolving their inner expressions does. -/
theorem run_agreeing (hr : ∀ e, Agreeing (resolver e)) (m : Resolving γ α) :
    Agreeing (env.run resolver m) := by
  induction m with
  | pure a => exact fun s => ⟨a, [], s, .of_silent fun _ => rfl⟩
  | bind m next ihm ihnext =>
      intro s
      obtain ⟨b, first, t, hm⟩ := ihm s
      obtain ⟨a, second, u, hnext⟩ := ihnext b t
      exact ⟨a, first ++ second, u, agrees_bind hm hnext⟩
  | look => exact fun s => ⟨env.view s, [], s, .of_silent fun _ => rfl⟩
  | report e => exact fun s => ⟨(), [e], s, agrees_report e s⟩
  | ask question => exact fun s => ⟨_, [], _, agrees_ask question s⟩
  | inner e => exact hr e
  | opening key body ih => exact agreeing_within (errorBlind_pushEntry key) (fun _ _ => rfl) ih
  | withLocal arguments body ih =>
      intro s
      obtain ⟨a, added, t, h⟩ := ih { s with localArguments := arguments }
      exact ⟨a, added, _, agrees_withLocal h⟩

variable [CustomValue γ]

theorem resolveBy_agreeing (hr : ∀ e, Agreeing (resolver e)) (e : Expression) :
    Agreeing (env.resolveBy resolver e) :=
  agreeing_within (errorBlind_descend _) (fun _ _ => rfl) (run_agreeing hr _)

theorem resolveAt_agreeing (level : Nat) (e : Expression) : Agreeing (env.resolveAt level e) := by
  induction level generalizing e with
  | zero => exact fun s => ⟨_, _, s, agrees_fallBack _ none s⟩
  | succ level ih => exact resolveBy_agreeing ih e

theorem resolve_agreeing (e : Expression) : Agreeing (env.resolve e) := by
  intro s
  have hlevel : Agreeing (env.resolveAt (env.bundle.maxDepth - s.depth) e) :=
    resolveAt_agreeing _ e
  obtain ⟨a, added, t, h⟩ := hlevel s
  exact ⟨a, added, t, h.congr fun _ => rfl⟩

theorem resolvePattern_agreeing (p : Pattern) : Agreeing (env.resolvePattern p) :=
  run_agreeing resolve_agreeing _

end Environment

def Ending.result [FormatterSource] {γ α : Type} : Ending γ α → Except ResolverError α
  | .ok a _ => .ok a
  | .error e _ => .error e

theorem Outcome.result_ofEnding [FormatterSource] {γ : Type} (r : Ending γ String) :
    (ofEnding r).result = r.result := by
  cases r <;> rfl

/-- What a run gives back that stopped. -/
theorem Stops.result [FormatterSource] {γ α : Type} {added : List ResolverError} {a : α}
    {t : Scope γ} {stopped : Ending γ α} :
    Stops added a t stopped →
      stopped.result =
        match added with
        | [] => .ok a
        | e :: _ => .error e := by
  intro h
  cases added with
  | nil =>
      have hend : stopped = .ok a (t.withErrors none) := h
      rw [hend]
      rfl
  | cons e rest =>
      obtain ⟨u, hend⟩ := h
      rw [hend]
      rfl

theorem Stops.result_ofEnding [FormatterSource] {γ : Type} {added : List ResolverError}
    {text : String} {t : Scope γ} {stopped : Ending γ String} :
    Stops added text t stopped →
      (Outcome.ofEnding stopped).result =
        match added with
        | [] => .ok text
        | e :: _ => .error e := by
  rw [Outcome.result_ofEnding]
  exact Stops.result

/-- An error that a call gives back, or puts behind the errors held before. -/
def Outcome.Reports [FormatterSource] (held : Option (List ResolverError)) (o : Outcome)
    (e : ResolverError) : Prop :=
  o.result = .error e ∨
    ∃ old added, held = some old ∧ o.errors = some (old ++ added) ∧ e ∈ added

theorem Outcome.Reports.mem [FormatterSource] {held added : List ResolverError} {o : Outcome}
    {e : ResolverError}
    {text : String} (h : o.Reports (some held) e) (hresult : o.result = .ok text)
    (herrors : o.errors = some (held ++ added)) : e ∈ added := by
  rcases h with h | ⟨old, added', hold, hadded, he⟩
  · rw [hresult] at h
    cases h
  · cases hold
    have hsame : added = added' := by simpa [herrors] using hadded
    exact hsame ▸ he

namespace Bundle

section

variable [FormatterSource] {γ : Type} [CustomValue γ]

/-- In either way a call reports nothing but what it collects from the start. -/
theorem formatPattern_reports {b : Bundle γ} {p : Pattern} {arguments : Option (Arguments γ)}
    {allowed : ResolverError → Prop}
    (hrun : ∃ added, ((Environment.mk b arguments).resolvePattern p
      (.start b (some []))).scope.errors = some added ∧ ∀ e ∈ added, allowed e)
    {held : Option (List ResolverError)} {e : ResolverError}
    (h : (b.formatPattern p arguments held).Reports held e) : allowed e := by
  let env : Environment γ := ⟨b, arguments⟩
  obtain ⟨text, added, t, hagrees⟩ := env.resolvePattern_agreeing p (.start b none)
  have hcollects : ∀ old, env.resolvePattern p (.start b (some old)) =
    .ok text (t.withErrors (some (old ++ added))) := hagrees.collects
  have hadded : ∀ e ∈ added, allowed e := by
    obtain ⟨added', herrors, hall⟩ := hrun
    rw [show (Environment.mk b arguments).resolvePattern p (.start b (some [])) = _ from
      hcollects []] at herrors
    obtain rfl : added = added' := by simpa [Scope.withErrors] using herrors
    exact hall
  rw [formatPattern_eq_resolved] at h
  cases held with
  | none =>
      rcases h with h | ⟨old, _, hnone, _⟩
      · have hstops : (Outcome.ofEnding (env.resolvePattern p (.start b none))).result = _ :=
          Stops.result_ofEnding hagrees.stops
        rw [h] at hstops
        cases added with
        | nil => cases hstops
        | cons first rest =>
            cases hstops
            exact hadded e List.mem_cons_self
      · cases hnone
  | some old =>
      have hend : (Environment.mk b arguments).resolvePattern p (.start b (some old)) = _ :=
        hcollects old
      rw [hend] at h
      exact hadded e (h.mem rfl rfl)

/-- A call that collects errors always gives a text and puts its errors behind those that were
there, whichever they were. The same call without collecting gives the same text if there is no
error, and otherwise the first one. -/
theorem formatPattern_collects_or_stops (b : Bundle γ) (p : Pattern)
    (arguments : Option (Arguments γ)) :
    ∃ text added,
      (∀ held, (b.formatPattern p arguments (some held)).result = .ok text ∧
        (b.formatPattern p arguments (some held)).errors = some (held ++ added)) ∧
      (b.formatPattern p arguments none).result =
        match added with
        | [] => .ok text
        | e :: _ => .error e := by
  rcases b.formatPattern_cases p arguments with ⟨text, htext⟩ | hresolved
  · refine ⟨text, [], fun held => ?_, by rw [htext]; rfl⟩
    rw [htext, List.append_nil]
    exact ⟨rfl, rfl⟩
  · let env : Environment γ := ⟨b, arguments⟩
    obtain ⟨text, added, t, h⟩ := env.resolvePattern_agreeing p (.start b none)
    refine ⟨text, added, fun held => ?_, ?_⟩
    · have hcollects : env.resolvePattern p (.start b (some held)) =
          .ok text (t.withErrors (some (held ++ added))) := h.collects held
      rw [hresolved, hcollects]
      exact ⟨rfl, rfl⟩
    · rw [hresolved]
      exact Stops.result_ofEnding h.stops

end

example :
    let b : Bundle Empty := .ofOptions {}
    let p : Pattern := .complex [.placeable (.variable "a"), .placeable (.variable "b")]
    (b.formatPattern p none (some [])).errors = some [.unknownVariable "a", .unknownVariable "b"] ∧
      (b.formatPattern p none none).result = .error (.unknownVariable "a") :=
  ⟨rfl, rfl⟩

end Bundle

end Phrasebook
