import Phrasebook.Bundle
import Phrasebook.Suggestion

/-!
# Checking references

Every reference in the registered entries is looked up without formatting anything.  A warning names
the entry that holds the reference and what is wrong with it; a name that is not registered comes
with suggestions from the table in which it was sought.
-/

namespace Phrasebook

inductive ReferenceProblem where
  | unknownMessage (id : String) (suggestions : List String)
  | unknownMessageAttribute (id attr : String)
  | unknownTerm (id : String) (suggestions : List String)
  | unknownTermAttribute (id attr : String)
  | unknownFunction (name : String) (suggestions : List String)
  | invalidDefaultVariant (star : UInt64) (count : Nat)
deriving DecidableEq

structure ReferenceWarning where
  /-- The id of the entry, and after a point the attribute, that holds the reference. -/
  entry : String
  problem : ReferenceProblem
deriving DecidableEq

namespace ReferenceProblem

def suggestions : ReferenceProblem → List String
  | .unknownMessage _ suggestions => suggestions
  | .unknownTerm _ suggestions => suggestions
  | .unknownFunction _ suggestions => suggestions
  | _ => []

def didYouMean (suggestions : List String) : String :=
  if suggestions.isEmpty then "" else ", did you mean: " ++ ", ".intercalate suggestions ++ "?"

def message : ReferenceProblem → String
  | .unknownMessage id names => "unknown message '" ++ id ++ "'" ++ didYouMean names
  | .unknownMessageAttribute id attr =>
    "unknown attribute '" ++ attr ++ "' on message '" ++ id ++ "'"
  | .unknownTerm id names => "unknown term '" ++ id ++ "'" ++ didYouMean names
  | .unknownTermAttribute id attr => "unknown attribute '" ++ attr ++ "' on term '" ++ id ++ "'"
  | .unknownFunction name names => "unknown function '" ++ name ++ "'" ++ didYouMean names
  | .invalidDefaultVariant star count =>
    "default variant index " ++ digitsText star.toNat ++ " is out of range for " ++
      digitsText count ++ " variants"

def help : ReferenceProblem → Option String
  | .invalidDefaultVariant .. => some "the default variant index must point at an existing variant"
  | .unknownFunction _ [] => some "register the function with Bundle::add_function"
  | _ => none

end ReferenceProblem

def ReferenceWarning.message (w : ReferenceWarning) : String := w.entry ++ ": " ++ w.problem.message

namespace Bundle

variable [FormatterSource] {γ : Type} (b : Bundle γ)

def messageProblems (id : String) (attr : Option String) : List ReferenceProblem :=
  match b.message? id with
  | none => [.unknownMessage id (suggestions id b.messageIds)]
  | some message =>
    match attr with
    | none => []
    | some attr =>
      if message.attributes.contains attr then [] else [.unknownMessageAttribute id attr]

def termProblems (name : String) (attr : Option String) : List ReferenceProblem :=
  let id := Expression.termId name
  match b.term? id with
  | none => [.unknownTerm id (suggestions id b.termIds)]
  | some term =>
    match attr with
    | none => []
    | some attr => if term.attributes.contains attr then [] else [.unknownTermAttribute id attr]

def callProblems (name : String) : List ReferenceProblem :=
  if (b.function? name).isSome then []
  else [.unknownFunction name (suggestions name b.functions.names)]

def starProblems (star : UInt64) (count : Nat) : List ReferenceProblem :=
  if count ≤ star.toNat then [.invalidDefaultVariant star count] else []

end Bundle

mutual

/-- What is wrong with the references in an expression, in the order in which they are written. -/
def Expression.problems [FormatterSource] {γ : Type} (b : Bundle γ) :
    Expression → List ReferenceProblem
  | .literal _ => []
  | .variable _ => []
  | .message id attr => b.messageProblems id attr
  | .term name attr none => b.termProblems name attr
  | .term name attr (some arguments) =>
    b.termProblems name attr ++ Argument.listProblems b arguments
  | .call name arguments => b.callProblems name ++ Argument.listProblems b arguments
  | .select selector variants star =>
    selector.problems b ++ Bundle.starProblems star variants.length ++
      Variant.listProblems b variants

/-- Named arguments hold no references. -/
def Argument.listProblems [FormatterSource] {γ : Type} (b : Bundle γ) :
    List Argument → List ReferenceProblem
  | [] => []
  | .positional e :: rest => e.problems b ++ Argument.listProblems b rest
  | .named .. :: rest => Argument.listProblems b rest

def Variant.listProblems [FormatterSource] {γ : Type} (b : Bundle γ) :
    List Variant → List ReferenceProblem
  | [] => []
  | .mk _ value :: rest => value.problems b ++ Variant.listProblems b rest

def Pattern.problems [FormatterSource] {γ : Type} (b : Bundle γ) : Pattern → List ReferenceProblem
  | .text _ => []
  | .complex elements => Element.listProblems b elements

def Element.listProblems [FormatterSource] {γ : Type} (b : Bundle γ) :
    List Element → List ReferenceProblem
  | [] => []
  | .text _ :: rest => Element.listProblems b rest
  | .placeable e :: rest => e.problems b ++ Element.listProblems b rest

end

namespace Bundle

variable [FormatterSource] {γ : Type} (b : Bundle γ)

def patternWarnings (entry : String) (p : Pattern) : List ReferenceWarning :=
  (p.problems b).map (ReferenceWarning.mk entry)

/-- The warnings for the attributes of an entry, by their names. -/
def attributeWarnings (id : String) (attributes : NameMap Pattern) : List ReferenceWarning :=
  attributes.toList.flatMap fun a => b.patternWarnings (id ++ "." ++ a.1) a.2

def messageWarnings (id : String) (m : Message) : List ReferenceWarning :=
  (m.value.map (b.patternWarnings id)).getD [] ++ b.attributeWarnings id m.attributes

def termWarnings (id : String) (t : Term) : List ReferenceWarning :=
  b.patternWarnings id t.value ++ b.attributeWarnings id t.attributes

/-- All warnings: those of the messages and then those of the terms, each by their ids. -/
def checkReferences : List ReferenceWarning :=
  (b.entries.messages.toList.flatMap fun m => b.messageWarnings m.1 m.2) ++
    b.entries.terms.toList.flatMap fun t => b.termWarnings t.1 t.2

end Bundle

end Phrasebook
