import Phrasebook.Proofs.Resolution.Footprint

/-!
# What a resolution leaves as it was

However a resolution ends, with a value or stopped by an error, the scope is afterwards as deep as
before, the same references are open, and the same arguments of a term count. Errors are only added,
behind those that were there, and the added ones are those that the steps may report.
-/

namespace Phrasebook

namespace Scope

variable [FormatterSource] {γ : Type} {allowed : ResolverError → Prop} {s t u : Scope γ}

/-- As deep, with the same references open, and with the same arguments of a term. -/
structure SamePlace (s t : Scope γ) : Prop where
  depth : t.depth = s.depth
  active : t.active = s.active
  localArguments : t.localArguments = s.localArguments

/-- The second scope is in the place of the first and at most holds more errors, allowed ones. -/
structure Extends (allowed : ResolverError → Prop) (s t : Scope γ) : Prop
    extends SamePlace s t where
  errors : ∃ added, t.errors = s.errors.map (· ++ added) ∧ ∀ e ∈ added, allowed e

theorem SamePlace.refl (s : Scope γ) : s.SamePlace s := ⟨rfl, rfl, rfl⟩

theorem SamePlace.trans (h₁ : s.SamePlace t) (h₂ : t.SamePlace u) : s.SamePlace u :=
  ⟨h₂.depth.trans h₁.depth, h₂.active.trans h₁.active, h₂.localArguments.trans h₁.localArguments⟩

theorem Extends.refl (s : Scope γ) : s.Extends allowed s := ⟨.refl s, [], by simp, by simp⟩

theorem Extends.trans (h₁ : s.Extends allowed t) (h₂ : t.Extends allowed u) :
    s.Extends allowed u := by
  obtain ⟨first, hfirst, hallowed₁⟩ := h₁.errors
  obtain ⟨second, hsecond, hallowed₂⟩ := h₂.errors
  refine ⟨h₁.toSamePlace.trans h₂.toSamePlace, first ++ second, ?_, ?_⟩
  · rw [hsecond, hfirst, Option.map_map]
    congr 1
    funext errors
    exact List.append_assoc errors first second
  · intro e he
    exact (List.mem_append.1 he).elim (hallowed₁ e) (hallowed₂ e)

theorem extends_report {e : ResolverError} (he : allowed e) (s : Scope γ) :
    s.Extends allowed (s.report e).scope := by
  unfold report
  cases hs : s.errors with
  | none => exact .refl s
  | some errors => exact ⟨⟨rfl, rfl, rfl⟩, [e], by simp [hs], by simpa using he⟩

theorem scope_fallBack (e : ResolverError) (fallback : Option String) (s : Scope γ) :
    (s.fallBack e fallback).scope = (s.report e).scope := by
  unfold fallBack
  cases s.report e <;> rfl

theorem extends_fallBack {e : ResolverError} (he : allowed e) (fallback : Option String)
    (s : Scope γ) : s.Extends allowed (s.fallBack e fallback).scope := by
  rw [scope_fallBack]
  exact extends_report he s

theorem extends_ask {α : Type} (question : Formatting α) (s : Scope γ) :
    s.Extends allowed (s.ask question).scope :=
  ⟨⟨rfl, rfl, rfl⟩, [], by simp [ask], by simp⟩

/-! What is entered is left again. -/

/-- Leaving puts a scope back where it was entered from, after any body that keeps its place. -/
def Undoes (leave : Scope γ → Scope γ) (enter : Scope γ → Except ResolverError (Scope γ)) : Prop :=
  ∀ s t u : Scope γ, enter s = .ok t → t.SamePlace u →
    s.SamePlace (leave u) ∧ t.errors = s.errors ∧ (leave u).errors = u.errors

theorem undoes_descend (maxDepth : Nat) :
    Undoes Scope.ascend (Scope.descend maxDepth : Scope γ → _) := by
  rintro s t u hd h
  obtain ⟨-, rfl⟩ := descend_eq_ok_iff.1 hd
  exact ⟨⟨by simp [Scope.ascend, h.depth], h.active, h.localArguments⟩, rfl, rfl⟩

theorem undoes_pushEntry (key : String) :
    Undoes Scope.popEntry (Scope.pushEntry key : Scope γ → _) := by
  rintro s t u hp h
  obtain ⟨-, rfl⟩ := pushEntry_eq_ok_iff.1 hp
  exact ⟨⟨h.depth, by simp [Scope.popEntry, h.active], h.localArguments⟩, rfl, rfl⟩

theorem extends_within {enter : Scope γ → Except ResolverError (Scope γ)}
    {leave : Scope γ → Scope γ} (hleave : Undoes leave enter) {fallback : Option String}
    {body : Scope γ → Ending γ (Value γ)} {s : Scope γ}
    (herror : ∀ e, enter s = .error e → allowed e)
    (hbody : ∀ t, enter s = .ok t → t.Extends allowed (body t).scope) :
    s.Extends allowed (s.within enter leave fallback body).scope := by
  unfold within
  cases hs : enter s with
  | ok t =>
      have h := hbody t hs
      obtain ⟨hplace, henter, hleft⟩ := hleave s t _ hs h.toSamePlace
      refine ⟨by simpa using hplace, ?_⟩
      simpa only [Ending.scope_leave, hleft, henter] using h.errors
  | error e => exact extends_fallBack (herror e hs) fallback s

theorem Extends.restore {arguments : Option (Arguments γ)}
    (h : ({ s with localArguments := arguments } : Scope γ).Extends allowed u) :
    s.Extends allowed { u with localArguments := s.localArguments } :=
  ⟨⟨h.depth, h.active, rfl⟩, h.errors⟩

end Scope

namespace Environment

open Resolving

variable [FormatterSource] {γ α : Type} {env : Environment γ} {resolver : Resolver γ}
  {inner : Expression → Prop} {allowed : ResolverError → Prop} {n : Nat}

/-- Confined steps extend the scope if resolving their inner expressions does. -/
theorem run_extends
    (hr : ∀ e, inner e → ∀ s : Scope γ, s.Extends allowed (resolver e s).scope)
    (m : Resolving γ α) (hm : m.Confined inner allowed n) (s : Scope γ) :
    s.Extends allowed (env.run resolver m s).scope := by
  induction m generalizing n s with
  | pure a => exact .refl s
  | bind m next ihm ihnext =>
      have hfirst := ihm hm.1 s
      unfold run
      cases hrun : env.run resolver m s with
      | ok a t =>
          rw [hrun] at hfirst
          exact hfirst.trans (ihnext a (hm.2 a) t)
      | error e t => rwa [hrun] at hfirst
  | look => exact .refl s
  | report e => exact Scope.extends_report hm s
  | ask question => exact Scope.extends_ask question s
  | inner e => exact hr e hm s
  | opening key body ih =>
      -- With no reference left to open, confined steps do not get here.
      cases n with
      | zero => exact hm.elim
      | succ n =>
          refine Scope.extends_within (Scope.undoes_pushEntry key) (fun e he => ?_)
            fun t _ => ih hm.2 t
          obtain ⟨-, rfl⟩ := Scope.pushEntry_eq_error_iff.1 he
          exact hm.1 _
  | withLocal arguments body ih => simpa [run] using (ih hm _).restore

/-- Flat steps extend the scope if resolving their inner expressions does in the same place. -/
theorem run_flat_extends {s : Scope γ}
    (hr : ∀ e, inner e → ∀ t : Scope γ, s.SamePlace t → t.Extends allowed (resolver e t).scope)
    (m : Resolving γ α) (hm : m.Flat inner allowed) (t : Scope γ) (ht : s.SamePlace t) :
    t.Extends allowed (env.run resolver m t).scope := by
  induction m generalizing t with
  | pure a => exact .refl t
  | bind m next ihm ihnext =>
      have hfirst := ihm hm.1 t ht
      unfold run
      cases hrun : env.run resolver m t with
      | ok a u =>
          rw [hrun] at hfirst
          exact hfirst.trans (ihnext a (hm.2 a) u (ht.trans hfirst.toSamePlace))
      | error e u => rwa [hrun] at hfirst
  | look => exact .refl t
  | report e => exact Scope.extends_report hm t
  | ask question => exact Scope.extends_ask question t
  | inner e => exact hr e hm t ht
  | opening | withLocal => exact hm.elim

theorem run_samePlace
    (hr : ∀ e, inner e → ∀ s : Scope γ, s.Extends allowed (resolver e s).scope)
    {m : Resolving γ α} (hm : m.Confined inner allowed n) (s : Scope γ) :
    s.SamePlace (env.run resolver m s).scope :=
  (run_extends hr m hm s).toSamePlace

variable [CustomValue γ]

theorem resolveBy_extends (h : env.bundle.Allows allowed)
    (hr : ∀ e, env.Covered allowed e → ∀ s : Scope γ, s.Extends allowed (resolver e s).scope)
    {e : Expression} (he : env.Covered allowed e) (s : Scope γ) :
    s.Extends allowed (env.resolveBy resolver e s).scope := by
  refine Scope.extends_within (Scope.undoes_descend _) (fun err herr => ?_) fun t _ => ?_
  · obtain ⟨-, rfl⟩ := Scope.descend_eq_error_iff.1 herr
    exact h.unforeseeable _ rfl
  · exact run_extends hr _ (confined_resolveForm h he) t

theorem resolveAt_extends (h : env.bundle.Allows allowed) (level : Nat) {e : Expression}
    (he : env.Covered allowed e) (s : Scope γ) :
    s.Extends allowed (env.resolveAt level e s).scope := by
  induction level generalizing e s with
  | zero => exact Scope.extends_fallBack (h.unforeseeable _ rfl) _ s
  | succ level ih => exact resolveBy_extends h (fun e he s => ih he s) he s

theorem resolve_extends (h : env.bundle.Allows allowed) {e : Expression}
    (he : env.Covered allowed e) (s : Scope γ) : s.Extends allowed (env.resolve e s).scope :=
  resolveAt_extends h _ he s

theorem resolvePattern_extends (h : env.bundle.Allows allowed) {p : Pattern}
    (hp : Covers allowed (p.problems env.bundle)) (s : Scope γ) :
    s.Extends allowed (env.resolvePattern p s).scope := by
  have hpattern : (env.showPattern p).Confined (env.Covered allowed) allowed 0 :=
    confined_showPattern h hp
  exact run_extends (fun _ he s => resolve_extends h he s) _ hpattern s

theorem resolve_errors_none {e : Expression} {s : Scope γ} (hs : s.errors = none) :
    (env.resolve e s).scope.errors = none := by
  have hall : env.Covered (fun _ => True) e := covers_all _
  obtain ⟨added, herrors, -⟩ := (resolve_extends env.bundle.allows_all hall s).errors
  rw [herrors, hs]
  rfl

theorem resolvePattern_errors_none {p : Pattern} {s : Scope γ} (hs : s.errors = none) :
    (env.resolvePattern p s).scope.errors = none := by
  have hall : Covers (fun _ => True) (p.problems env.bundle) := covers_all _
  obtain ⟨added, herrors, -⟩ := (resolvePattern_extends env.bundle.allows_all hall s).errors
  rw [herrors, hs]
  rfl

/-- An expression or a pattern, resolved in any scope, leaves the scope in its place, also when an
error nobody collects stops it inside other references, and only adds errors behind those that were
there. -/
theorem resolution_keeps_scope (env : Environment γ) (s : Scope γ) :
    (∀ e, s.SamePlace (env.resolve e s).scope ∧
      ∃ added, (env.resolve e s).scope.errors = s.errors.map (· ++ added)) ∧
    ∀ p, s.SamePlace (env.resolvePattern p s).scope ∧
      ∃ added, (env.resolvePattern p s).scope.errors = s.errors.map (· ++ added) := by
  constructor
  · intro e
    have h : s.Extends (fun _ => True) (env.resolve e s).scope :=
      resolve_extends env.bundle.allows_all (covers_all _) s
    obtain ⟨added, herrors, -⟩ := h.errors
    exact ⟨h.toSamePlace, added, herrors⟩
  · intro p
    have h : s.Extends (fun _ => True) (env.resolvePattern p s).scope :=
      resolvePattern_extends env.bundle.allows_all (covers_all _) s
    obtain ⟨added, herrors, -⟩ := h.errors
    exact ⟨h.toSamePlace, added, herrors⟩

end Environment

end Phrasebook
