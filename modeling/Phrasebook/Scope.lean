import Phrasebook.Bundle

/-!
# Scopes

While a pattern is resolved, a scope keeps what changes on the way: the arguments of the term that
is being resolved, the errors, the references that are open, and how deep expressions are nested.
What does not change, the bundle and the arguments of the caller, is the environment.
-/

namespace Phrasebook

inductive ResolverError where
  | unknownVariable (name : String)
  | unknownMessage (id : String)
  | unknownMessageAttribute (id attr : String)
  | missingValue (id : String)
  | unknownTerm (id : String)
  | unknownTermAttribute (id attr : String)
  | cyclicReference (chain : List String)
  | unknownFunction (name : String)
  | functionInvocation (name : String) (source : FunctionError)
  | invalidDefaultVariant (star : UInt64) (count : Nat)
  | tooMuchRecursion (maxDepth : Nat)
  | formatter (locale : Locale) (reason : FormatError)
deriving DecidableEq

def ResolverError.message : ResolverError → String
  | .unknownVariable name => "unknown variable: $" ++ name
  | .unknownMessage id => "unknown message: " ++ id
  | .unknownMessageAttribute id attr => "unknown attribute '" ++ attr ++ "' on message " ++ id
  | .missingValue id => "message " ++ id ++ " has no value"
  | .unknownTerm id => "unknown term: " ++ id
  | .unknownTermAttribute id attr => "unknown attribute '" ++ attr ++ "' on term " ++ id
  | .cyclicReference chain => "cyclic reference detected: " ++ " -> ".intercalate chain
  | .unknownFunction name => "unknown function: " ++ name ++ "()"
  | .functionInvocation name source => "function " ++ name ++ "() failed: " ++ source.message
  | .invalidDefaultVariant star count =>
    "default variant index " ++ digitsText star.toNat ++ " is out of range for " ++
      digitsText count ++ " variants"
  | .tooMuchRecursion maxDepth =>
    "too much recursion: maximum depth of " ++ digitsText maxDepth ++ " exceeded"
  | .formatter locale reason =>
    "cannot format for locale '" ++ locale.text ++ "': " ++ reason.message

/-- What a resolution sees and cannot change. -/
structure Environment [FormatterSource] (γ : Type) where
  bundle : Bundle γ
  arguments : Option (Arguments γ)

structure Scope [FormatterSource] (γ : Type) where
  /-- The arguments of the innermost term call, inside a term. -/
  localArguments : Option (Arguments γ) := none
  /-- The errors so far, if they are collected. -/
  errors : Option (List ResolverError) := none
  /-- The references that are being resolved, the outermost first. -/
  active : List String := []
  /-- How many expressions are open. -/
  depth : Nat := 0
  formatters : Formatters

/-- What a value of the host may see of a scope.  Of the locales it sees the one that was chosen.
It formats no messages of its own accord, as nothing would bound how deep such calls nest, and does
not see which formatters were made. -/
structure ScopeView (γ : Type) where
  argument? : String → Option (Value γ)
  messages : NameMap Message
  functions : Functions γ
  inTerm : Bool
  useIsolating : Bool
  maxDepth : Nat
  transformText : String → String
  locale : Locale

/-- Values of the host, which show themselves and may be chosen by a variant key. -/
class CustomValue (γ : Type) where
  format : γ → ScopeView γ → String
  selects : γ → Literal → ScopeView γ → Bool := fun _ _ _ => false

instance : CustomValue Empty where
  format := nofun

namespace Scope

variable [FormatterSource] {γ : Type}

/-- The scope in which the resolution of a pattern starts. -/
def start (b : Bundle γ) (errors : Option (List ResolverError)) : Scope γ :=
  { errors := errors, formatters := b.formatters }

def inTerm (s : Scope γ) : Bool := s.localArguments.isSome

/-- Open one more expression, unless as many as may be are open. -/
def descend (maxDepth : Nat) (s : Scope γ) : Except ResolverError (Scope γ) :=
  if maxDepth ≤ s.depth then .error (.tooMuchRecursion maxDepth)
  else .ok { s with depth := s.depth + 1 }

def ascend (s : Scope γ) : Scope γ := { s with depth := s.depth - 1 }

/-- Open a reference, unless it is open already. -/
def pushEntry (key : String) (s : Scope γ) : Except ResolverError (Scope γ) :=
  if s.active.contains key then .error (.cyclicReference (s.active ++ [key]))
  else .ok { s with active := s.active ++ [key] }

def popEntry (s : Scope γ) : Scope γ := { s with active := s.active.dropLast }

theorem descend_eq_ok_iff {maxDepth : Nat} {s t : Scope γ} :
    s.descend maxDepth = .ok t ↔ s.depth < maxDepth ∧ t = { s with depth := s.depth + 1 } := by
  unfold descend
  split
  · next h => simp [Nat.not_lt.2 h]
  · next h => simp [Nat.not_le.1 h, eq_comm]

theorem descend_eq_error_iff {maxDepth : Nat} {s : Scope γ} {e : ResolverError} :
    s.descend maxDepth = .error e ↔ maxDepth ≤ s.depth ∧ e = .tooMuchRecursion maxDepth := by
  unfold descend
  split
  · next h => simp [h, eq_comm]
  · next h => simp [h]

theorem pushEntry_eq_ok_iff {key : String} {s t : Scope γ} :
    s.pushEntry key = .ok t ↔ key ∉ s.active ∧ t = { s with active := s.active ++ [key] } := by
  unfold pushEntry
  split
  · next h => simp [List.contains_iff_mem.1 h]
  · next h => simp [mt List.contains_iff_mem.2 h, eq_comm]

theorem pushEntry_eq_error_iff {key : String} {s : Scope γ} {e : ResolverError} :
    s.pushEntry key = .error e ↔ key ∈ s.active ∧ e = .cyclicReference (s.active ++ [key]) := by
  unfold pushEntry
  split
  · next h => simp [List.contains_iff_mem.1 h, eq_comm]
  · next h => simp [mt List.contains_iff_mem.2 h]

end Scope

/-- How a resolution ends: with a value, or with the first error when errors are not collected.  The
scope is there afterwards in either case. -/
abbrev Ending [FormatterSource] (γ : Type) := EStateM.Result ResolverError (Scope γ)

namespace Ending

variable [FormatterSource] {γ α : Type}

def scope : Ending γ α → Scope γ
  | .ok _ s => s
  | .error _ s => s

/-- Change the scope at the end, also after an error. -/
def leave (f : Scope γ → Scope γ) : Ending γ α → Ending γ α
  | .ok a s => .ok a (f s)
  | .error e s => .error e (f s)

@[simp] theorem scope_ok (a : α) (s : Scope γ) : scope (.ok a s : Ending γ α) = s := rfl

@[simp] theorem scope_error (e : ResolverError) (s : Scope γ) :
    scope (.error e s : Ending γ α) = s := rfl

@[simp] theorem scope_leave (f : Scope γ → Scope γ) (r : Ending γ α) :
    (r.leave f).scope = f r.scope := by
  cases r <;> rfl

end Ending

namespace Scope

variable [FormatterSource] {γ α : Type}

/-- Collect an error, or stop with it when errors are not collected. -/
def report (e : ResolverError) (s : Scope γ) : Ending γ Unit :=
  match s.errors with
  | some errors => .ok () { s with errors := some (errors ++ [e]) }
  | none => .error e s

/-- Report an error and let a fallback stand for the value. -/
def fallBack (e : ResolverError) (fallback : Option String) (s : Scope γ) : Ending γ (Value γ) :=
  match s.report e with
  | .ok _ s => .ok (.absent fallback) s
  | .error e s => .error e s

/-- Enter a scope for a body and leave it afterwards.  When it cannot be entered, that is reported
and `fallback` stands for the value. -/
def within (enter : Scope γ → Except ResolverError (Scope γ)) (leave : Scope γ → Scope γ)
    (fallback : Option String) (body : Scope γ → Ending γ (Value γ)) (s : Scope γ) :
    Ending γ (Value γ) :=
  match enter s with
  | .ok s => (body s).leave leave
  | .error e => s.fallBack e fallback

def ask (question : Formatting α) (s : Scope γ) : Ending γ α :=
  let (a, c) := question.run s.formatters
  .ok a { s with formatters := c }

end Scope

namespace Environment

variable [FormatterSource] {γ : Type}

/-- The value of a variable: inside a term an argument of its call, otherwise one of the caller. -/
def argument? (env : Environment γ) (s : Scope γ) (name : String) : Option (Value γ) :=
  match s.localArguments with
  | some arguments => arguments.get? name
  | none => env.arguments.bind fun arguments => arguments.get? name

def view (env : Environment γ) (s : Scope γ) : ScopeView γ where
  argument? := env.argument? s
  messages := env.bundle.entries.messages
  functions := env.bundle.functions
  inTerm := s.inTerm
  useIsolating := env.bundle.useIsolating
  maxDepth := env.bundle.maxDepth
  transformText := env.bundle.transformText
  locale := s.formatters.locale

end Environment

end Phrasebook
