import Phrasebook.Command.Report
import Phrasebook.Resolver

/-!
# Evaluations

One message, or one attribute of a message, is formatted with arguments from the command line.  Each
error that was collected on the way is reported beside the text.
-/

namespace Phrasebook.Command

structure EvalRequest where
  paths : List String
  /-- An id, or an id and the name of an attribute after the first point. -/
  message : String
  arguments : List (String × String)
  locale : String
  isolating : Bool
  json : Bool

/-- A text before and after the first place where a character stands. -/
def splitFirst (c : Char) (text : String) : String × Option String :=
  let cs := text.toList
  let before := String.ofList (cs.takeWhile (· ≠ c))
  match cs.dropWhile (· ≠ c) with
  | [] => (before, none)
  | _ :: after => (before, some (String.ofList after))

/-- Load files in order into a bundle; entries that are refused are left out. -/
def loadFiles {γ : Type} (files : Files) (b : Bundle γ) (paths : List String) :
    Except LoadError (Bundle γ) :=
  paths.foldlM (fun b path => do return (b.addResource false (← readResource files path)).1) b

namespace EvalRequest

def bundle (files : Files) (r : EvalRequest) : Except String (Bundle Empty) := do
  let locale ← (Locale.parse r.locale).mapError fun e =>
    "Invalid locale '" ++ r.locale ++ "': " ++ e.message
  let b := Bundle.ofOptions { locales := [locale], useIsolating := r.isolating }
  (loadFiles files b r.paths).mapError describe

/-- The text and the errors on the way, or the error that stands for the text. -/
def outcome (b : Bundle Empty) (r : EvalRequest) : Outcome :=
  let arguments := NameMap.ofList (r.arguments.map fun a => (a.1, Value.ofText a.2))
  match splitFirst '.' r.message with
  | (id, none) => b.formatMessage id (some arguments) (some [])
  | (id, some attr) => b.formatAttribute id attr (some arguments) (some [])

def formatted (r : EvalRequest) (text : String) (errors : List String) : Report :=
  let status := .ofFault (!errors.isEmpty)
  if r.json then
    let result := Json.object
      [("result", .string text), ("errors", .array (errors.map Json.string))]
    ⟨status, [result.pretty], []⟩
  else ⟨status, [text], errors.map ("Resolution error: " ++ ·)⟩

def unformatted (r : EvalRequest) (message : String) : Report :=
  if r.json then ⟨.badData, [], [(Json.object [("error", .string message)]).pretty]⟩
  else ⟨.badData, [], ["Evaluation error: " ++ message]⟩

def report (files : Files) (r : EvalRequest) : Report :=
  match r.bundle files with
  | .error message => .failed message
  | .ok b =>
    let outcome := r.outcome b
    match outcome.result with
    | .ok text => r.formatted text ((outcome.errors.getD []).map ResolverError.message)
    | .error e => r.unformatted e.message

end EvalRequest

end Phrasebook.Command
