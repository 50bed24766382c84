import Phrasebook.Scope

/-!
# Steps of a resolution

What has to be done to resolve one expression is a tree of steps.  A step reads what a scope shows,
reports an error, asks the formatters of the locale, has an inner expression resolved, or encloses
other steps that run in a changed scope.  Nothing else of a scope can be seen, so the steps never
depend on the errors so far, on the open references, or on the depth.
-/

namespace Phrasebook

/-- The steps that find out an `α`. -/
inductive Resolving (γ : Type) : Type → Type 1 where
  | pure {α : Type} (a : α) : Resolving γ α
  | bind {α β : Type} (m : Resolving γ β) (next : β → Resolving γ α) : Resolving γ α
  /-- See what a scope shows. -/
  | look : Resolving γ (ScopeView γ)
  /-- Collect an error, or stop with it when errors are not collected. -/
  | report (e : ResolverError) : Resolving γ Unit
  /-- Ask the formatters of the locale. -/
  | ask {α : Type} (question : Formatting α) : Resolving γ α
  /-- Resolve an inner expression. -/
  | inner (e : Expression) : Resolving γ (Value γ)
  /-- Take steps while a reference is open.  When it is open already that is reported, and the
  reference stands for the value. -/
  | opening (key : String) (body : Resolving γ (Value γ)) : Resolving γ (Value γ)
  /-- Take steps with other arguments of a term. -/
  | withLocal (arguments : Option (Arguments γ)) (body : Resolving γ (Value γ)) :
      Resolving γ (Value γ)

namespace Resolving

variable {γ α : Type}

instance : Monad (Resolving γ) where
  pure := .pure
  bind := .bind

def fallBack (e : ResolverError) (fallback : Option String) : Resolving γ (Value γ) := do
  report e
  return .absent fallback

/-- Ask the formatters of the locale; a failure is reported and `fallback` stands for the answer. -/
def askOr (fallback : α) (question : Formatting (Except FormatError α)) : Resolving γ α := do
  match ← ask question with
  | .ok a => return a
  | .error reason =>
    report (.formatter (← look).locale reason)
    return fallback

end Resolving

abbrev Resolver [FormatterSource] (γ : Type) := Expression → Scope γ → Ending γ (Value γ)

namespace Environment

variable [FormatterSource] {γ : Type} (env : Environment γ)

/-- Take steps from a scope on.  Inner expressions are left to `resolver`. -/
def run (resolver : Resolver γ) : {α : Type} → Resolving γ α → Scope γ → Ending γ α
  | _, .pure a, s => .ok a s
  | _, .bind m next, s =>
    match run resolver m s with
    | .ok a s => run resolver (next a) s
    | .error e s => .error e s
  | _, .look, s => .ok (env.view s) s
  | _, .report e, s => s.report e
  | _, .ask question, s => s.ask question
  | _, .inner e, s => resolver e s
  | _, .opening key body, s =>
    s.within (Scope.pushEntry key) Scope.popEntry (some key) (run resolver body)
  | _, .withLocal arguments body, s =>
    (run resolver body { s with localArguments := arguments }).leave fun after =>
      { after with localArguments := s.localArguments }

end Environment

end Phrasebook
