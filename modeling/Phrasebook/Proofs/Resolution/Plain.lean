import Phrasebook.Resolver

/-!
# Patterns without placeables

A call shows a pattern without placeables at once. Resolving it in a new scope would give the same:
its texts are put together, and nothing in the scope changes.
-/

namespace Phrasebook

def Bundle.plainText [FormatterSource] {γ : Type} (b : Bundle γ) : Pattern → String
  | .text s => b.transformText s
  | .complex elements => String.join ((elements.filterMap Element.text?).map b.transformText)

namespace Environment

variable [FormatterSource] {γ : Type} [CustomValue γ] {env : Environment γ} {resolver : Resolver γ}

theorem run_showElements_plain (isolate : Bool) {elements : List Element}
    (h : ∀ e ∈ elements, e.text?.isSome) (s : Scope γ) :
    env.run resolver (env.showElements isolate elements) s =
      .ok (env.bundle.plainText (.complex elements)) s := by
  induction elements with
  | nil => rfl
  | cons element rest ih =>
      have hrest := ih fun e he => h e (List.mem_cons_of_mem _ he)
      cases element with
      | placeable e => simp [Element.text?] at h
      | text t =>
          have hsteps : env.showElements isolate (.text t :: rest) =
              (Resolving.pure (env.bundle.transformText t)).bind fun text =>
                (env.showElements isolate rest).bind fun after => .pure (text ++ after) := rfl
          simp only [hsteps, run, hrest]
          simp [Bundle.plainText, Element.text?, String.join_cons]

theorem resolvePattern_plain {p : Pattern} (hp : p.isPlain) (s : Scope γ) :
    env.resolvePattern p s = .ok (env.bundle.plainText p) s := by
  cases p with
  | text t => rfl
  | complex elements => exact run_showElements_plain _ (List.all_eq_true.1 hp) s

end Environment

/-- The ways past the scope make no difference. -/
theorem Bundle.formatPattern_eq_resolved [FormatterSource] {γ : Type} [CustomValue γ] (b : Bundle γ)
    (p : Pattern) (arguments : Option (Arguments γ)) (errors : Option (List ResolverError)) :
    b.formatPattern p arguments errors =
      .ofEnding ((Environment.mk b arguments).resolvePattern p (.start b errors)) := by
  cases hp : p.isPlain with
  | true =>
      rw [Environment.resolvePattern_plain hp]
      cases p with
      | text t => rfl
      | complex elements => exact if_pos hp
  | false =>
      cases p with
      | text t => cases hp
      | complex elements => exact if_neg (by simp [hp])

end Phrasebook
