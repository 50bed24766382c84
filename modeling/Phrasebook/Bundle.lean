import Phrasebook.Entries
import Phrasebook.Formatters
import Phrasebook.Function
import Phrasebook.Resource.Fault

/-!
# Bundles

A bundle holds the entries and the functions for an ordered list of locales, the hooks of the host,
and the formatters of the locale that was chosen from the list.
-/

namespace Phrasebook

/-- A hook that may show a value in place of the library; with no answer the library shows it. -/
abbrev ValueFormatter (γ : Type) := Value γ → Formatting (Option String)

structure Bundle [FormatterSource] (γ : Type) where
  locales : List Locale
  entries : Entries
  functions : Functions γ
  /-- Whether the text of a placeable is set off from the text around it. -/
  useIsolating : Bool
  /-- Applied to every literal piece of text. -/
  transform : Option (String → String)
  formatter : Option (ValueFormatter γ)
  /-- How deep expressions may be nested while they are resolved. -/
  maxDepth : Nat
  formatters : Formatters

/-- What a host may set when it makes a bundle. -/
structure BundleOptions (γ : Type) where
  locales : List Locale := [.und]
  /-- Functions that are registered over those of the library. -/
  functions : List (String × Function γ) := []
  useIsolating : Bool := true
  transform : Option (String → String) := none
  formatter : Option (ValueFormatter γ) := none
  maxDepth : Nat := 64

namespace Bundle

variable [FormatterSource] {γ : Type}

def ofOptions (o : BundleOptions γ) : Bundle γ where
  locales := o.locales
  entries := {}
  functions := Functions.builtins.insertAll o.functions
  useIsolating := o.useIsolating
  transform := o.transform
  formatter := o.formatter
  maxDepth := o.maxDepth
  formatters := .negotiate o.locales

def function? (b : Bundle γ) (name : String) : Option (Function γ) := b.functions.get? name

def addFunction (b : Bundle γ) (name : String) (f : Function γ) :
    Except RegistrationError (Bundle γ) :=
  match b.functions.register name f with
  | .ok fs => .ok { b with functions := fs }
  | .error _ => .error (.overriding .function name)

def message? (b : Bundle γ) (id : String) : Option Message := b.entries.messages.get? id

def term? (b : Bundle γ) (id : String) : Option Term := b.entries.terms.get? id

def messageIds (b : Bundle γ) : List String := b.entries.messages.names

def termIds (b : Bundle γ) : List String := b.entries.terms.names

/-- Register the entries of a resource, each on its own, with one error for each that is
refused. -/
def addResource (override : Bool) (b : Bundle γ) (r : Resource) :
    Bundle γ × List RegistrationError :=
  let (es, errs) := b.entries.insertAll override r.body
  ({ b with entries := es }, errs)

def transformText (b : Bundle γ) (text : String) : String :=
  match b.transform with
  | some t => t text
  | none => text

end Bundle

end Phrasebook
