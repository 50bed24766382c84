import Phrasebook.Proofs.Resolution.Trail

/-!
# How deep a resolution goes

Opening an expression uses up one of the levels that the depth leaves, and whatever lies inside is
resolved on the levels below. So an expression has a value in every scope, whichever entries refer
to each other, and that value depends only on what is found in deeper scopes on the way. On the
whole trail of a call the depth stays below its ceiling, no reference is open twice, and there are
never more open references than open expressions: a reference is opened inside an expression that
was just opened, and its pattern opens the next reference only inside another expression.
-/

namespace Phrasebook

/-! ## Levels -/

namespace Environment

variable [FormatterSource] {γ α : Type} {env : Environment γ} {resolver resolver' : Resolver γ}
  {innerTrail : Expression → Scope γ → List (Scope γ)} {inner : Expression → Prop}
  {allowed : ResolverError → Prop} {n : Nat}

/-- Steps from some depth on resolve their inner expressions at that depth only, and only in scopes
of their trail. -/
theorem run_congr {depth : Nat} (hfirst : ∀ e s, s ∈ innerTrail e s)
    (hr : ∀ e, inner e → ∀ s : Scope γ, s.Extends allowed (resolver e s).scope)
    (m : Resolving γ α) (hm : m.Confined inner allowed n) (s : Scope γ) (hs : s.depth = depth)
    (heq : ∀ e, ∀ t ∈ env.trail resolver innerTrail m s, t.depth = depth →
      resolver' e t = resolver e t) :
    env.run resolver' m s = env.run resolver m s := by
  induction m generalizing n s with
  | bind m next ihm ihnext =>
      -- What comes next is at the same depth, as the first steps keep it.
      have hkept : s.SamePlace (env.run resolver m s).scope := run_samePlace hr hm.1 s
      have hsame : env.run resolver' m s = env.run resolver m s := by
        refine ihm hm.1 s hs fun e t ht => heq e t ?_
        simp only [trail]
        exact List.mem_append_left _ ht
      simp only [run, hsame]
      cases hrun : env.run resolver m s with
      | ok a t =>
          rw [hrun] at hkept
          refine ihnext a (hm.2 a) t (hkept.depth.trans hs) fun e u hu => heq e u ?_
          simp only [trail, hrun]
          exact List.mem_append_right _ hu
      | error e t => rfl
  | inner e => exact heq e s (hfirst e s) hs
  | opening key body ih =>
      cases n with
      | zero => exact hm.elim
      | succ n =>
          simp only [run, Scope.within]
          cases hp : s.pushEntry key with
          | ok t =>
              have ht : t.depth = depth := by
                obtain ⟨-, rfl⟩ := Scope.pushEntry_eq_ok_iff.1 hp
                exact hs
              have hbody : env.run resolver' body t = env.run resolver body t := by
                refine ih hm.2 t ht fun e u hu => heq e u ?_
                exact Scope.mem_withinTrail hp hu
              simp only [hbody]
          | error e => rfl
  | withLocal arguments body ih =>
      have hbody := ih hm { s with localArguments := arguments } hs fun e t ht =>
        heq e t (List.mem_cons_of_mem _ (List.mem_append_left _ ht))
      simp only [run, hbody]
  | pure | look | report | ask => rfl

variable [CustomValue γ]

theorem resolveAt_keeps (level : Nat) (e : Expression) (s : Scope γ) :
    s.Extends (fun _ => True) (env.resolveAt level e s).scope :=
  resolveAt_extends env.bundle.allows_all level (covers_all _) s

/-- Any resolver that is right in the scopes on the way in which fewer levels are left finds the
right value. -/
theorem resolveBy_eq_resolve {e : Expression} {s : Scope γ}
    (h : ∀ e', ∀ t ∈ env.resolveTrail e s,
      env.bundle.maxDepth - t.depth < env.bundle.maxDepth - s.depth →
        resolver e' t = env.resolve e' t) :
    env.resolveBy resolver e s = env.resolve e s := by
  cases hlevel : env.bundle.maxDepth - s.depth with
  | zero =>
      have hd : s.descend env.bundle.maxDepth = .error (.tooMuchRecursion env.bundle.maxDepth) :=
        Scope.descend_eq_error_iff.2 ⟨Nat.sub_eq_zero_iff_le.1 hlevel, rfl⟩
      simp only [resolve, hlevel, resolveAt, resolveBy, Scope.within, hd]
  | succ level =>
      simp only [resolve, hlevel, resolveAt, resolveBy, Scope.within]
      cases hd : s.descend env.bundle.maxDepth with
      | error err => rfl
      | ok t =>
          have ht : t.depth = s.depth + 1 := by
            obtain ⟨-, rfl⟩ := Scope.descend_eq_ok_iff.1 hd
            rfl
          have hform := confined_resolveForm env.bundle.allows_all (covers_all _ : env.Covered _ e)
          refine congrArg (Ending.leave Scope.ascend) ?_
          have hfirst : ∀ e s, s ∈ env.trailAt level e s :=
            fun e s => (path_trailAt level e s).first_mem
          refine run_congr hfirst (fun e _ s => resolveAt_keeps level e s) _ hform t ht ?_
          intro e' u hu hdepth
          have hu' : u ∈ env.resolveTrail e s := by
            simp only [resolveTrail, hlevel, trailAt]
            exact Scope.mem_withinTrail hd hu
          have hleft : env.bundle.maxDepth - u.depth = level := by omega
          rw [h e' u hu' (by omega), resolve, hleft]

/-- The value of an expression is found by opening it and finding the values inside it. -/
theorem resolve_eq (e : Expression) (s : Scope γ) :
    env.resolve e s = env.resolveBy env.resolve e s :=
  (resolveBy_eq_resolve fun _ _ _ _ => rfl).symm

/-- There is one resolver that finds values by opening expressions. -/
theorem eq_resolve_of_fixed (h : ∀ e s, env.resolveBy resolver e s = resolver e s) :
    resolver = env.resolve := by
  have hlevel : ∀ level e (s : Scope γ), env.bundle.maxDepth - s.depth = level →
      resolver e s = env.resolve e s := by
    intro level
    induction level using Nat.strongRecOn with
    | ind level ih =>
        intro e s hs
        rw [← h]
        exact resolveBy_eq_resolve fun e' t _ ht => ih _ (hs ▸ ht) e' t rfl
  funext e s
  exact hlevel _ e s rfl

end Environment

/-! ## Bounds -/

namespace Scope

variable [FormatterSource] {γ : Type} {maxDepth n : Nat} {s t : Scope γ}

/-- A scope below the ceiling, without a repeated reference, in which `n` more references can be
opened before there are more of them than open expressions. -/
structure Bounded (maxDepth n : Nat) (s : Scope γ) : Prop where
  depth_le : s.depth ≤ maxDepth
  nodup : s.active.Nodup
  room : s.active.length + n ≤ s.depth

theorem Bounded.mono (h : s.Bounded maxDepth n) : s.Bounded maxDepth 0 :=
  ⟨h.depth_le, h.nodup, Nat.le_trans (Nat.le_add_right _ n) h.room⟩

theorem SamePlace.bounded (h : s.SamePlace t) (hs : s.Bounded maxDepth n) :
    t.Bounded maxDepth n :=
  ⟨h.depth ▸ hs.depth_le, h.active ▸ hs.nodup, by rw [h.active, h.depth]; exact hs.room⟩

theorem bounded_start (b : Bundle γ) (errors : Option (List ResolverError)) :
    (start b errors).Bounded maxDepth 0 :=
  ⟨Nat.zero_le _, List.nodup_nil, Nat.le_refl 0⟩

theorem Bounded.descend (h : s.Bounded maxDepth 0) (hd : s.descend maxDepth = .ok t) :
    t.Bounded maxDepth 1 := by
  obtain ⟨hlt, rfl⟩ := descend_eq_ok_iff.1 hd
  exact ⟨hlt, h.nodup, Nat.succ_le_succ h.room⟩

theorem Bounded.pushEntry {key : String} (h : s.Bounded maxDepth (n + 1))
    (hp : s.pushEntry key = .ok t) : t.Bounded maxDepth n := by
  obtain ⟨hkey, rfl⟩ := pushEntry_eq_ok_iff.1 hp
  refine ⟨h.depth_le, ?_, ?_⟩
  · refine List.nodup_append.2 ⟨h.nodup, List.pairwise_singleton _ key, ?_⟩
    rintro a ha b hb rfl
    exact hkey (List.mem_singleton.1 hb ▸ ha)
  · have hroom := h.room
    simp only [List.length_append, List.length_singleton]
    omega

theorem bounded_withinTrail {enter : Scope γ → Except ResolverError (Scope γ)}
    {leave : Scope γ → Scope γ} {fallback : Option String} {body : Scope γ → Ending γ (Value γ)}
    {trail : Scope γ → List (Scope γ)} (hs : s.Bounded maxDepth n)
    (hend : s.SamePlace (s.within enter leave fallback body).scope)
    (hbody : ∀ t, enter s = .ok t → ∀ u ∈ trail t, u.Bounded maxDepth 0) :
    ∀ u ∈ s.withinTrail enter leave fallback body trail, u.Bounded maxDepth 0 := by
  intro u hu
  simp only [withinTrail, List.mem_cons, List.mem_append, List.not_mem_nil, or_false] at hu
  rcases hu with rfl | hu | rfl
  · exact hs.mono
  · cases ht : enter s with
    | ok t => exact hbody t ht u (by simpa only [ht] using hu)
    | error e => simp [ht] at hu
  · exact hend.bounded hs.mono

end Scope

namespace Environment

variable [FormatterSource] {γ α : Type} {env : Environment γ} {resolver : Resolver γ}
  {innerTrail : Expression → Scope γ → List (Scope γ)} {inner : Expression → Prop}
  {allowed : ResolverError → Prop} {maxDepth n : Nat}

/-- Steps that open at most `n` references inside each other, where there is room for them. -/
theorem bounded_trail (hr : ∀ e, inner e → ∀ s : Scope γ, s.Extends allowed (resolver e s).scope)
    (hinner : ∀ e (s : Scope γ), s.Bounded maxDepth 0 →
      ∀ t ∈ innerTrail e s, t.Bounded maxDepth 0)
    (m : Resolving γ α) (hm : m.Confined inner allowed n) (s : Scope γ)
    (hs : s.Bounded maxDepth n) :
    ∀ t ∈ env.trail resolver innerTrail m s, t.Bounded maxDepth 0 := by
  induction m generalizing n s with
  | bind m next ihm ihnext =>
      -- The first steps leave the room that the next ones need.
      have hfirst : s.SamePlace (env.run resolver m s).scope := run_samePlace hr hm.1 s
      intro t ht
      simp only [trail, List.mem_append] at ht
      rcases ht with ht | ht
      · exact ihm hm.1 s hs t ht
      · cases hrun : env.run resolver m s with
        | ok a u =>
            rw [hrun] at ht hfirst
            exact ihnext a (hm.2 a) u (hfirst.bounded hs) t ht
        | error e u => simp [hrun] at ht
  | inner e => exact hinner e s hs.mono
  | opening key body ih =>
      cases n with
      | zero => exact hm.elim
      | succ n =>
          -- The reference takes one of the places in which the body is bounded.
          have hend : s.SamePlace (env.run resolver (.opening key body) s).scope :=
            run_samePlace hr hm s
          exact Scope.bounded_withinTrail hs hend fun t ht => ih hm.2 t (hs.pushEntry ht)
  | withLocal arguments body ih =>
      have hend : s.SamePlace (env.run resolver (.withLocal arguments body) s).scope :=
        run_samePlace hr hm s
      intro t ht
      simp only [trail, List.mem_cons, List.mem_append, List.not_mem_nil, or_false] at ht
      rcases ht with rfl | ht | rfl
      · exact hs.mono
      · exact ih hm { s with localArguments := arguments } ⟨hs.depth_le, hs.nodup, hs.room⟩ t ht
      · exact hend.bounded hs.mono
  | pure a => simpa [trail, run] using hs.mono
  | look => simpa [trail, run] using hs.mono
  | report e =>
      have hend : s.SamePlace (env.run resolver (.report e) s).scope :=
        run_samePlace hr hm s
      simpa [trail] using ⟨hs.mono, hend.bounded hs.mono⟩
  | ask question =>
      have hend : s.SamePlace (env.run resolver (.ask question) s).scope :=
        run_samePlace hr hm s
      simpa [trail] using ⟨hs.mono, hend.bounded hs.mono⟩

variable [CustomValue γ]

theorem bounded_trailAt (level : Nat) (e : Expression) (s : Scope γ)
    (hs : s.Bounded env.bundle.maxDepth 0) :
    ∀ t ∈ env.trailAt level e s, t.Bounded env.bundle.maxDepth 0 := by
  induction level generalizing e s with
  | zero =>
      intro t ht
      simp only [trailAt, List.mem_cons, List.not_mem_nil, or_false] at ht
      rcases ht with rfl | rfl
      · exact hs
      · exact (resolveAt_keeps 0 e s).toSamePlace.bounded hs
  | succ level ih =>
      have hend : s.SamePlace (env.resolveAt (level + 1) e s).scope :=
        (resolveAt_keeps (level + 1) e s).toSamePlace
      refine Scope.bounded_withinTrail hs hend fun t ht => ?_
      have hform := confined_resolveForm env.bundle.allows_all (covers_all (e.problems env.bundle))
      exact bounded_trail (fun e _ s => resolveAt_keeps level e s) ih _ hform t (hs.descend ht)

theorem bounded_patternTrail (p : Pattern) {s : Scope γ} (hs : s.Bounded env.bundle.maxDepth 0) :
    ∀ t ∈ env.patternTrail p s, t.Bounded env.bundle.maxDepth 0 := by
  have hpattern : (env.showPattern p).Confined (env.Covered fun _ => True) (fun _ => True) 0 :=
    confined_showPattern env.bundle.allows_all (covers_all _)
  exact bounded_trail (fun e _ s => resolveAt_keeps _ e s) (fun e s => bounded_trailAt _ e s) _
    hpattern s hs

/-- In every bundle an expression has a value in every scope, and what is resolved inside it is
resolved in scopes on the way where strictly fewer levels are left: no other answer can make a
difference. Each call takes single moves from its start to its end, and wherever it is on the way,
the depth is at most the ceiling, no reference is open twice, and at most one is open for each open
expression. -/
theorem resolution_descends_within_bounds (env : Environment γ) :
    (∀ (resolver : Resolver γ) (e : Expression) (s : Scope γ),
      (∀ e', ∀ t ∈ env.resolveTrail e s,
        env.bundle.maxDepth - t.depth < env.bundle.maxDepth - s.depth →
          resolver e' t = env.resolve e' t) →
      env.resolveBy resolver e s = env.resolve e s) ∧
    ∀ (p : Pattern) (errors : Option (List ResolverError)),
      let start := Scope.start env.bundle errors
      start.Path (env.patternTrail p start) (env.resolvePattern p start).scope ∧
      ∀ s ∈ env.patternTrail p start,
        s.depth ≤ env.bundle.maxDepth ∧ s.active.Nodup ∧ s.active.length ≤ s.depth := by
  refine ⟨fun resolver e s => resolveBy_eq_resolve, fun p errors => ⟨path_patternTrail p _, ?_⟩⟩
  intro s hs
  have hbounded := bounded_patternTrail p (Scope.bounded_start env.bundle errors) s hs
  exact ⟨hbounded.depth_le, hbounded.nodup, hbounded.room⟩

end Environment

end Phrasebook
