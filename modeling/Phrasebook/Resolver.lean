import Phrasebook.Resolving

/-!
# Resolving patterns

A pattern is resolved element by element, and each placeable to a value that is then shown as text.
What fails is reported and replaced by a fallback, so that the rest of a pattern still appears.
References lead from entry to entry in any way; the depth of open expressions is bounded, and each
step into an expression uses up one level.
-/

namespace Phrasebook

/-- Opens a run of text that is set off from the text around it: first strong isolate. -/
def isolateStart : Char := '\u2068'

/-- Closes such a run: pop directional isolate. -/
def isolateEnd : Char := '\u2069'

def isolated (text : String) : String :=
  String.singleton isolateStart ++ text ++ String.singleton isolateEnd

def Literal.toValue {γ : Type} : Literal → Value γ
  | .text s => .text s
  | .number x precision => .number (.withPrecision x precision)

/-- The named arguments of a call; of two with one name the later counts. -/
def namedValues {γ : Type} (arguments : List Argument) : Arguments γ :=
  NameMap.ofList (arguments.filterMap fun a =>
    match a with
    | .named name value => some (name, value.toValue)
    | .positional _ => none)

/-- A name with an attribute behind a point, if there is one. -/
def dotted (name : String) : Option String → String
  | none => name
  | some attr => name ++ "." ++ attr

namespace Bundle

variable [FormatterSource] {γ : Type} (b : Bundle γ)

/-- The pattern that a reference to a message means, or why there is none. -/
def messagePattern (id : String) (attr : Option String) : Except ResolverError Pattern :=
  match b.message? id with
  | none => .error (.unknownMessage id)
  | some message =>
    match attr with
    | none => message.value.elim (.error (.missingValue id)) .ok
    | some attr =>
      (message.attributes.get? attr).elim (.error (.unknownMessageAttribute id attr)) .ok

/-- The pattern that a reference to a term means, or why there is none. -/
def termPattern (id : String) (attr : Option String) : Except ResolverError Pattern :=
  match b.term? id with
  | none => .error (.unknownTerm id)
  | some term =>
    match attr with
    | none => .ok term.value
    | some attr => (term.attributes.get? attr).elim (.error (.unknownTermAttribute id attr)) .ok

end Bundle

/-- The plural category of a number, unless it cannot be found out. -/
def Resolving.pluralCategory {γ : Type} (n : Number) : Resolving γ (Option PluralCategory) :=
  askOr none (.category n fun r => .done (some <$> r))

def Resolving.categoryOf {γ : Type} : Value γ → Resolving γ (Option PluralCategory)
  | .number n => pluralCategory n
  | _ => return none

section Keys

variable {γ : Type} [CustomValue γ]

/-- Whether a key selects a value by itself, without plural categories. -/
def matchesExactly (view : ScopeView γ) : Value γ → Literal → Bool
  | .text s, .text key => s == key
  | .number n, .number key _ => n.value.equal key
  | .custom c, key => CustomValue.selects c key view
  | _, _ => false

def matchesCategory (category : PluralCategory) : Literal → Bool
  | .text key => key == category.key
  | .number .. => false

/-- The first variant whose key selects the value by itself. -/
def exactVariant? (view : ScopeView γ) (selector : Value γ) (variants : List Variant) :
    Option Variant :=
  variants.find? fun v => matchesExactly view selector v.key

def categoryVariant? (category : PluralCategory) (variants : List Variant) : Option Variant :=
  variants.find? fun v => matchesCategory category v.key

end Keys

namespace Environment

open Resolving

variable [FormatterSource] {γ : Type} [CustomValue γ] (env : Environment γ)

/-- A value as the library shows it.  Where a locale cannot format it, its plain text stands
there. -/
def renderBuiltin : Value γ → Resolving γ String
  | .text s => return s
  | .number n => askOr n.value.plainText (.number n .done)
  | .instant t => askOr (integerText t.epochMillis.toInt) (.instant t .done)
  | .absent fallback => return Value.absentText fallback
  | .custom c => return CustomValue.format c (← look)

/-- A value as text: the host's hook is asked first. -/
def render (v : Value γ) : Resolving γ String := do
  match env.bundle.formatter with
  | none => renderBuiltin v
  | some formatter =>
    match ← ask (formatter v) with
    | some text => return text
    | none => renderBuiltin v

/-- One element as text; a placeable is set off when `isolate` says so. -/
def showElement (isolate : Bool) : Element → Resolving γ String
  | .text s => return env.bundle.transformText s
  | .placeable e => do
    let text ← env.render (← inner e)
    return if isolate then isolated text else text

def showElements (isolate : Bool) : List Element → Resolving γ String
  | [] => return ""
  | e :: rest => do
    let text ← env.showElement isolate e
    return text ++ (← showElements isolate rest)

/-- A pattern as text.  A placeable that is the whole pattern is not set off. -/
def showPattern : Pattern → Resolving γ String
  | .text s => return env.bundle.transformText s
  | .complex elements =>
    env.showElements (env.bundle.useIsolating && 1 < elements.length) elements

/-- A variable.  The arguments of a term are optional, so none is missed inside a term. -/
def resolveVariable (name : String) : Resolving γ (Value γ) := do
  let view ← look
  match view.argument? name with
  | some v => return v
  | none =>
    if !view.inTerm then report (.unknownVariable name)
    return .absent (some ("$" ++ name))

/-- The pattern of a referenced entry, which must not be open already. -/
def resolveEntry (key : String) (pattern : Pattern) : Resolving γ (Value γ) :=
  opening key (Value.text <$> env.showPattern pattern)

/-- A message or one of its attributes.  It sees the arguments of the caller, never those of a
term. -/
def resolveMessage (id : String) (attr : Option String) : Resolving γ (Value γ) :=
  match env.bundle.messagePattern id attr with
  | .error e => fallBack e (some (dotted id attr))
  | .ok pattern => withLocal none (env.resolveEntry (dotted id attr) pattern)

/-- A term or one of its attributes, called with named arguments only. -/
def resolveTerm (name : String) (attr : Option String) (arguments : List Argument) :
    Resolving γ (Value γ) :=
  let id := Expression.termId name
  match env.bundle.termPattern id attr with
  | .error e => fallBack e (some (dotted id attr))
  | .ok pattern =>
    withLocal (some (namedValues arguments)) (env.resolveEntry (dotted id attr) pattern)

def resolvePositional : List Argument → Resolving γ (List (Value γ))
  | [] => return []
  | .positional e :: rest => do
    let v ← inner e
    return v :: (← resolvePositional rest)
  | .named .. :: rest => resolvePositional rest

def resolveCall (name : String) (arguments : List Argument) : Resolving γ (Value γ) :=
  match env.bundle.function? name with
  | none => fallBack (.unknownFunction name) (some (name ++ "()"))
  | some f => do
    let positional ← resolvePositional arguments
    match f positional (namedValues arguments) with
    | .ok v => return v
    | .error source => fallBack (.functionInvocation name source) (some (name ++ "()"))

def resolveVariant (v : Variant) : Resolving γ (Value γ) := Value.text <$> env.showPattern v.value

def resolveDefault (variants : List Variant) (star : UInt64) : Resolving γ (Value γ) :=
  match variants[star.toNat]? with
  | some v => env.resolveVariant v
  | none => fallBack (.invalidDefaultVariant star variants.length) none

/-- A select expression: the variant that the selector picks, by its key or else by its plural
category, or else the default.  An absent selector picks none. -/
def resolveSelect (selector : Expression) (variants : List Variant) (star : UInt64) :
    Resolving γ (Value γ) := do
  let selector ← inner selector
  if selector.isAbsent then env.resolveDefault variants star
  else
    match exactVariant? (← look) selector variants with
    | some v => env.resolveVariant v
    | none =>
      match (← categoryOf selector).bind (categoryVariant? · variants) with
      | some v => env.resolveVariant v
      | none => env.resolveDefault variants star

def resolveForm : Expression → Resolving γ (Value γ)
  | .literal l => return l.toValue
  | .variable name => resolveVariable name
  | .message id attr => env.resolveMessage id attr
  | .term name attr arguments => env.resolveTerm name attr (arguments.getD [])
  | .call name arguments => env.resolveCall name arguments
  | .select selector variants star => env.resolveSelect selector variants star

/-- An expression, opened one level deeper; what lies inside it is left to `resolver`. -/
def resolveBy (resolver : Resolver γ) : Resolver γ := fun e =>
  Scope.within (Scope.descend env.bundle.maxDepth) Scope.ascend none
    (env.run resolver (env.resolveForm e))

/-- An expression with `level` levels left.  Without any left no expression can be opened. -/
def resolveAt : Nat → Resolver γ
  | 0 => fun _ s => s.fallBack (.tooMuchRecursion env.bundle.maxDepth) none
  | level + 1 => env.resolveBy (resolveAt level)

/-- An expression, with the levels that the depth of the scope leaves. -/
def resolve : Resolver γ := fun e s => env.resolveAt (env.bundle.maxDepth - s.depth) e s

def resolvePattern (p : Pattern) (s : Scope γ) : Ending γ String :=
  env.run env.resolve (env.showPattern p) s

end Environment

/-- What a call gives back: the text or the error that stopped it, the collected errors if there are
any to collect, and the formatters after it. -/
structure Outcome [FormatterSource] where
  result : Except ResolverError String
  errors : Option (List ResolverError)
  formatters : Formatters

/-- What a call gives back when it ends with a resolution. -/
def Outcome.ofEnding [FormatterSource] {γ : Type} : Ending γ String → Outcome
  | .ok text s => ⟨.ok text, s.errors, s.formatters⟩
  | .error e s => ⟨.error e, s.errors, s.formatters⟩

theorem Outcome.errors_ofEnding [FormatterSource] {γ : Type} (r : Ending γ String) :
    (ofEnding r).errors = r.scope.errors := by
  cases r <;> rfl

namespace Bundle

variable [FormatterSource] {γ : Type} [CustomValue γ] (b : Bundle γ)

def immediate (result : Except ResolverError String) (errors : Option (List ResolverError)) :
    Outcome :=
  ⟨result, errors, b.formatters⟩

/-- A pattern as text.  Only a pattern with placeables needs a scope.  With `errors` every error is
added there and the text has a fallback in its place; without, the first error is the result. -/
def formatPattern (p : Pattern) (arguments : Option (Arguments γ))
    (errors : Option (List ResolverError)) : Outcome :=
  match p with
  | .text s => b.immediate (.ok (b.transformText s)) errors
  | .complex elements =>
    if p.isPlain then
      let texts := elements.filterMap Element.text?
      b.immediate (.ok (String.join (texts.map b.transformText))) errors
    else .ofEnding ((Environment.mk b arguments).resolvePattern p (.start b errors))

/-- A call shows the text of a pattern without placeables, or else resolves the pattern in a new
scope. -/
theorem formatPattern_cases (p : Pattern) (arguments : Option (Arguments γ)) :
    (∃ text, ∀ errors, b.formatPattern p arguments errors = b.immediate (.ok text) errors) ∨
      ∀ errors, b.formatPattern p arguments errors =
        .ofEnding ((Environment.mk b arguments).resolvePattern p (.start b errors)) := by
  cases p with
  | text s => exact .inl ⟨b.transformText s, fun _ => rfl⟩
  | complex elements =>
    by_cases hp : (Pattern.complex elements).isPlain
    · exact .inl ⟨_, fun _ => if_pos hp⟩
    · exact .inr fun _ => if_neg hp

/-- A message or one of its attributes as text.  When there is no pattern to show, that is an error
of the call itself. -/
def formatEntry (id : String) (attr : Option String) (arguments : Option (Arguments γ))
    (errors : Option (List ResolverError)) : Outcome :=
  match b.messagePattern id attr with
  | .error e => b.immediate (.error e) errors
  | .ok p => b.formatPattern p arguments errors

def formatMessage (id : String) (arguments : Option (Arguments γ))
    (errors : Option (List ResolverError)) : Outcome :=
  b.formatEntry id none arguments errors

def formatAttribute (id attr : String) (arguments : Option (Arguments γ))
    (errors : Option (List ResolverError)) : Outcome :=
  b.formatEntry id (some attr) arguments errors

end Bundle

end Phrasebook
