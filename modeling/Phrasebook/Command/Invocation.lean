import Phrasebook.Command.Evaluation
import Phrasebook.Command.Findings
import Phrasebook.Command.Survey
import Phrasebook.Command.Words

/-!
# Invocations

What the words of a command line ask for.  Options that every command knows may stand before the
name of the command or after it; where both are given, the one after it counts.
-/

namespace Phrasebook.Command

/-! ## Options -/

def anyText : String → Bool := fun _ => true

def isPath (s : String) : Bool := s != ""

/-- An argument has a name before its first equals sign. -/
def isArgument (s : String) : Bool :=
  match splitFirst '=' s with
  | (name, some _) => name != ""
  | (_, none) => false

def colors : List String := ["auto", "always", "never"]

/-- The options that every command knows, but for `help`. -/
def sharedOptions : List OptionRule :=
  [{ name := "color", operand := some "COLOR", about := "Colorize output: auto, always or never",
     action := .value false colors.contains, fallback := some "auto", choices := colors },
   { name := "verbose", letter := some 'v',
     about := "Log bundle activity at debug level (RUST_LOG overrides)" }]

def helpRule : OptionRule :=
  { name := "help", letter := some 'h', about := "Print help", action := .halt .help }

def versionRule : OptionRule :=
  { name := "version", letter := some 'V', about := "Print version", action := .halt .version }

def leadingRules : List OptionRule := sharedOptions ++ [helpRule, versionRule]

def jsonRule (about : String) : OptionRule := { name := "json", about := about }

def strictRule (about : String) : OptionRule := { name := "strict", about := about }

/-- The locale that is used unless another one is given. -/
def defaultLocale : String := "en-US"

def localeVariable : String := "GLOSSA_LOCALE"

inductive Verb where
  | check
  | coverage
  | eval
deriving DecidableEq

namespace Verb

def all : List Verb := [check, coverage, eval]

def name : Verb → String
  | check => "check"
  | coverage => "coverage"
  | eval => "eval"

def ofName? (name : String) : Option Verb := all.find? fun v => v.name == name

def about : Verb → String
  | check => "Report entry collisions and references that cannot resolve"
  | coverage => "Compare message ids of translations against a source resource"
  | eval => "Format one message (or `message.attribute`) with arguments"

/-- What the plain words of the command are; without it no plain word may be given. -/
def operand : Verb → Option OperandRule
  | check =>
    some ⟨"FILES", "Resource files to check (.json), loaded into one bundle in order", isPath⟩
  | coverage =>
    some ⟨"TRANSLATIONS", "Translation resource files to compare against the source", isPath⟩
  | eval => none

def acceptsWord (v : Verb) (word : String) : Bool := v.operand.any fun o => o.accepts word

def options : Verb → List OptionRule
  | check =>
    [jsonRule "Output as JSON", strictRule "Exit with non-zero code on warnings as well as errors"]
  | coverage =>
    [{ name := "source", operand := some "SOURCE", about := "Source resource file (e.g., en.json)",
       action := .value false isPath, required := true },
     strictRule "Exit with non-zero code if any translation is incomplete",
     jsonRule "Output results as JSON"]
  | eval =>
    [{ name := "resource", operand := some "RESOURCES",
       about := "JSON resource files to load, in order (repeatable)",
       action := .value true isPath, required := true },
     { name := "message", operand := some "MESSAGE",
       about := "Message to format, as `id` or `id.attribute`", action := .value false anyText,
       required := true },
     { name := "arg", letter := some 'a', operand := some "ARGS",
       about := "Arguments in name=value format (repeatable)", action := .value true isArgument },
     { name := "locale", operand := some "LOCALE",
       about := "Locale used for numbers, dates and plural rules", action := .value false anyText,
       environment := some localeVariable, fallback := some defaultLocale },
     { name := "no-isolating", about := "Do not wrap placeables in Unicode isolation marks" },
     jsonRule "Output as JSON"]

def rules (v : Verb) : List OptionRule := v.options ++ sharedOptions ++ [helpRule]

end Verb

/-! ## Requests -/

inductive Topic where
  | program
  | command (verb : Verb)
  /-- The word `help` itself. -/
  | help
deriving DecidableEq

inductive Request where
  | check (r : CheckRequest)
  | coverage (r : CoverageRequest)
  | eval (r : EvalRequest)
  | help (topic : Topic)
  | version

def need {α : Type} : Option α → Except Halt α
  | some a => .ok a
  | none => .error .misused

def needSome (values : List String) : Except Halt (List String) :=
  if values.isEmpty then .error .misused else .ok values

/-- What a command is asked with the options that stand before its name and after it. -/
def Verb.request (environmentLocale : Option String) (before g : Given) :
    Verb → Except Halt Request
  | check => do
    let color := (g.value? "color").or (before.value? "color")
    return .check
      { paths := ← needSome g.words
        json := g.has "json"
        strict := g.has "strict"
        colored := color = some "always" }
  | coverage => do
    return .coverage
      { source := ← need (g.value? "source")
        targets := ← needSome g.words
        strict := g.has "strict"
        json := g.has "json" }
  | eval => do
    return .eval
      { paths := ← needSome (g.values "resource")
        message := ← need (g.value? "message")
        arguments := (g.values "arg").map fun a => (splitFirst '=' a).map id (·.getD "")
        locale := ((g.value? "locale").or environmentLocale).getD defaultLocale
        isolating := !g.has "no-isolating"
        json := g.has "json" }

/-- A halt that asks for a text is a request of its own. -/
def orText (topic : Topic) : Except Halt Request → Except Halt Request
  | .error .help => .ok (.help topic)
  | .error .version => .ok .version
  | r => r

/-- What is asked for by the word `help` and the words after it. -/
def helpRequest : List String → Except Halt Request
  | [] => .ok (.help .program)
  | ["help"] => .ok (.help .help)
  | [name] => do return .help (.command (← need (Verb.ofName? name)))
  | _ => .error .misused

def Request.ofWords (environmentLocale : Option String) (words : List String) :
    Except Halt Request :=
  orText .program do
    let before ← readWords leadingRules .ends {} none words
    match before.words with
    | [] => throw .misused
    | "help" :: rest => helpRequest rest
    | name :: rest =>
      let verb ← need (Verb.ofName? name)
      orText (.command verb) do
        let given ← readWords verb.rules (.noted verb.acceptsWord) {} none rest
        verb.request environmentLocale before given

end Phrasebook.Command
