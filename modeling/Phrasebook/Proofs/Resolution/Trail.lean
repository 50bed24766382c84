import Phrasebook.Proofs.Resolution.Frame

/-!
# The scopes on the way

A run passes through a trail of scopes, each made from the one before it by a single move: an error
is reported, a formatter is asked, an expression or a reference is opened or closed, or the
arguments of a term are put in place or taken away. Whatever is resolved on the way is resolved in
one of these scopes.
-/

namespace Phrasebook

namespace Scope

variable [FormatterSource] {γ : Type}

/-- A change that a step makes to a scope at once. -/
inductive Move : Scope γ → Scope γ → Prop where
  | stay (s : Scope γ) : Move s s
  | report (e : ResolverError) (s : Scope γ) : Move s (s.report e).scope
  | ask {α : Type} (question : Formatting α) (s : Scope γ) : Move s (s.ask question).scope
  | descend {maxDepth : Nat} {s t : Scope γ} : s.descend maxDepth = .ok t → Move s t
  | ascend (s : Scope γ) : Move s s.ascend
  | pushEntry {key : String} {s t : Scope γ} : s.pushEntry key = .ok t → Move s t
  | popEntry (s : Scope γ) : Move s s.popEntry
  | setLocal (arguments : Option (Arguments γ)) (s : Scope γ) :
      Move s { s with localArguments := arguments }

inductive Path : Scope γ → List (Scope γ) → Scope γ → Prop where
  | single (s : Scope γ) : Path s [s] s
  | cons {s t u : Scope γ} {l : List (Scope γ)} : Move s t → Path t l u → Path s (s :: l) u

variable {s t u : Scope γ} {l l' : List (Scope γ)}

theorem Path.append (h : Path s l t) (h' : Path t l' u) : Path s (l ++ l') u := by
  induction h with
  | single t => exact .cons (.stay t) h'
  | cons hmove _ ih => exact .cons hmove (ih h')

theorem Path.snoc (h : Path s l t) (hmove : Move t u) : Path s (l ++ [u]) u := by
  induction h with
  | single t => exact .cons hmove (.single u)
  | cons hfirst _ ih => exact .cons hfirst (ih hmove)

theorem Path.pair (hmove : Move s t) : Path s [s, t] t := .cons hmove (.single t)

theorem Path.first_mem (h : Path s l t) : s ∈ l := by
  cases h with
  | single => exact List.mem_singleton.2 rfl
  | cons hmove hrest => exact List.mem_cons_self

end Scope

/-- The scopes on the way when a scope is entered for a body and left afterwards. -/
def Scope.withinTrail [FormatterSource] {γ : Type}
    (enter : Scope γ → Except ResolverError (Scope γ))
    (leave : Scope γ → Scope γ) (fallback : Option String)
    (body : Scope γ → Ending γ (Value γ)) (trail : Scope γ → List (Scope γ)) (s : Scope γ) :
    List (Scope γ) :=
  let inside :=
    match enter s with
    | .ok t => trail t
    | .error _ => []
  s :: (inside ++ [(s.within enter leave fallback body).scope])

theorem Scope.mem_withinTrail [FormatterSource] {γ : Type}
    {enter : Scope γ → Except ResolverError (Scope γ)}
    {leave : Scope γ → Scope γ} {fallback : Option String} {body : Scope γ → Ending γ (Value γ)}
    {trail : Scope γ → List (Scope γ)} {s t u : Scope γ} (ht : enter s = .ok t) (hu : u ∈ trail t) :
    u ∈ s.withinTrail enter leave fallback body trail := by
  simp only [withinTrail, ht]
  exact List.mem_cons_of_mem _ (List.mem_append_left _ hu)

namespace Environment

variable [FormatterSource] {γ α : Type} (env : Environment γ)

/-- The scopes on the way of some steps, given those on the way of an inner expression. -/
def trail (resolver : Resolver γ) (innerTrail : Expression → Scope γ → List (Scope γ)) :
    {α : Type} → Resolving γ α → Scope γ → List (Scope γ)
  | _, .bind m next, s =>
    let rest :=
      match env.run resolver m s with
      | .ok a t => trail resolver innerTrail (next a) t
      | .error .. => []
    trail resolver innerTrail m s ++ rest
  | _, .inner e, s => innerTrail e s
  | _, .opening key body, s =>
    s.withinTrail (Scope.pushEntry key) Scope.popEntry (some key) (env.run resolver body)
      (trail resolver innerTrail body)
  | _, .withLocal arguments body, s =>
    s :: (trail resolver innerTrail body { s with localArguments := arguments } ++
      [(env.run resolver (.withLocal arguments body) s).scope])
  | _, .pure a, s => [s, (env.run resolver (.pure a) s).scope]
  | _, .look, s => [s, (env.run resolver .look s).scope]
  | _, .report e, s => [s, (env.run resolver (.report e) s).scope]
  | _, .ask question, s => [s, (env.run resolver (.ask question) s).scope]

variable [CustomValue γ]

def trailAt : Nat → Expression → Scope γ → List (Scope γ)
  | 0 => fun e s => [s, (env.resolveAt 0 e s).scope]
  | level + 1 => fun e s =>
    let resolver := env.resolveAt level
    let form := env.resolveForm e
    s.withinTrail (Scope.descend env.bundle.maxDepth) Scope.ascend none
      (env.run resolver form) (env.trail resolver (trailAt level) form)

def resolveTrail (e : Expression) (s : Scope γ) : List (Scope γ) :=
  env.trailAt (env.bundle.maxDepth - s.depth) e s

def patternTrail (p : Pattern) (s : Scope γ) : List (Scope γ) :=
  env.trail env.resolve env.resolveTrail (env.showPattern p) s

end Environment

namespace Scope

variable [FormatterSource] {γ : Type}

theorem path_withinTrail {enter : Scope γ → Except ResolverError (Scope γ)}
    {leave : Scope γ → Scope γ} {fallback : Option String} {body : Scope γ → Ending γ (Value γ)}
    {trail : Scope γ → List (Scope γ)} (henter : ∀ s t, enter s = .ok t → Move s t)
    (hleave : ∀ s, Move s (leave s)) (hbody : ∀ s, Path s (trail s) (body s).scope) (s : Scope γ) :
    Path s (s.withinTrail enter leave fallback body trail)
      (s.within enter leave fallback body).scope := by
  unfold withinTrail within
  cases hs : enter s with
  | ok t =>
      rw [Ending.scope_leave]
      exact .cons (henter s t hs) ((hbody t).snoc (hleave _))
  | error e =>
      simp only [scope_fallBack]
      exact .pair (.report e s)

end Scope

namespace Environment

variable [FormatterSource] {γ α : Type} {env : Environment γ} {resolver : Resolver γ}
  {innerTrail : Expression → Scope γ → List (Scope γ)}

theorem path_trail (hinner : ∀ e (s : Scope γ), s.Path (innerTrail e s) (resolver e s).scope)
    (m : Resolving γ α) (s : Scope γ) :
    s.Path (env.trail resolver innerTrail m s) (env.run resolver m s).scope := by
  induction m generalizing s with
  | bind m next ihm ihnext =>
      have hfirst := ihm s
      simp only [trail, run]
      cases hrun : env.run resolver m s with
      | ok a t =>
          rw [hrun] at hfirst
          exact hfirst.append (ihnext a t)
      | error e t =>
          rw [hrun] at hfirst
          simpa only [List.append_nil, Ending.scope_error] using hfirst
  | inner e => exact hinner e s
  | opening key body ih =>
      exact Scope.path_withinTrail (fun _ _ => .pushEntry) .popEntry ih s
  | withLocal arguments body ih =>
      refine .cons (.setLocal arguments s) ((ih _).snoc ?_)
      simp only [run, Ending.scope_leave]
      exact .setLocal s.localArguments _
  | pure | look => exact .pair (.stay s)
  | report e => exact .pair (.report e s)
  | ask question => exact .pair (.ask question s)

variable [CustomValue γ]

theorem path_trailAt (level : Nat) (e : Expression) (s : Scope γ) :
    s.Path (env.trailAt level e s) (env.resolveAt level e s).scope := by
  induction level generalizing e s with
  | zero =>
      simp only [trailAt, resolveAt, Scope.scope_fallBack]
      exact .pair (.report _ s)
  | succ level ih =>
      exact Scope.path_withinTrail (fun _ _ => .descend) .ascend (path_trail ih _) s

theorem path_patternTrail (p : Pattern) (s : Scope γ) :
    s.Path (env.patternTrail p s) (env.resolvePattern p s).scope :=
  path_trail (fun e s => path_trailAt (env.bundle.maxDepth - s.depth) e s) _ s

end Environment

end Phrasebook
