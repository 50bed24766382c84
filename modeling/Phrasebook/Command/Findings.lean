import Phrasebook.Command.Report
import Phrasebook.Reference

/-!
# Findings

All files are loaded into one bundle.  A file that is no resource is an error; an entry that is
refused, and a reference that cannot be resolved, is a warning.
-/

namespace Phrasebook.Command

inductive Finding where
  /-- A file that is no resource. -/
  | unreadable (error : LoadError)
  /-- An entry that was refused. -/
  | refused (file : String) (error : RegistrationError)
  /-- A reference that cannot be resolved. -/
  | unresolved (warning : ReferenceWarning)

namespace Finding

def kind : Finding → String
  | .unreadable _ => "resource"
  | .refused .. => "collision"
  | .unresolved _ => "reference"

def message : Finding → String
  | .unreadable e => describe e
  | .refused _ e => e.message
  | .unresolved w => w.message

def line : Finding → String
  | .unreadable e => e.path ++ ": " ++ describe e
  | .refused file e => e.inFile file
  | .unresolved w => w.message

def placeMembers : Finding → List (String × Json)
  | .unreadable e => [("file", .string e.path)]
  | .refused file _ => [("file", .string file)]
  | .unresolved w => [("entry", .string w.entry)]

/-- The suggestions, which are left out when there are none. -/
def suggestionMembers : Finding → List (String × Json)
  | .unresolved w =>
    match w.problem.suggestions with
    | [] => []
    | names => [("suggestions", .array (names.map Json.string))]
  | _ => []

def toJson (f : Finding) : Json :=
  .object (("kind", .string f.kind) :: f.placeMembers ++
    ("message", .string f.message) :: f.suggestionMembers)

end Finding

structure Findings where
  /-- How many messages were registered. -/
  messages : Nat
  errors : List Finding
  warnings : List Finding

/-- The bundle after a file, and what there is to say about the file: an error, or a warning for
each refused entry. -/
def checkFile {γ : Type} (files : Files) (b : Bundle γ) (path : String) :
    Bundle γ × List Finding × List Finding :=
  match readResource files path with
  | .error e => (b, [.unreadable e], [])
  | .ok r =>
    let (b, errors) := b.addResource false r
    (b, [], errors.map (.refused path))

/-- Load files in order, with the errors and the warnings of each. -/
def checkFiles {γ : Type} (files : Files) (b : Bundle γ) :
    List String → Bundle γ × List Finding × List Finding
  | [] => (b, [], [])
  | path :: rest =>
    let (b, errors, warnings) := checkFile files b path
    let (b, laterErrors, laterWarnings) := checkFiles files b rest
    (b, errors ++ laterErrors, warnings ++ laterWarnings)

/-- The findings of some files: those of each file in order, then those of all their references. -/
def Findings.ofFiles (files : Files) (paths : List String) : Findings :=
  let (b, errors, warnings) := checkFiles files (Bundle.ofOptions (γ := Empty) {}) paths
  ⟨b.messageIds.length, errors, warnings ++ b.checkReferences.map .unresolved⟩

structure CheckRequest where
  paths : List String
  json : Bool
  /-- Whether warnings are faults as errors are. -/
  strict : Bool
  colored : Bool

def paint (colored : Bool) (color : Nat) (text : String) : String :=
  if colored then "\x1b[" ++ digitsText color ++ "m" ++ text ++ "\x1b[39m" else text

def red : Nat := 31

def green : Nat := 32

def yellow : Nat := 33

namespace Findings

def toJson (f : Findings) : Json :=
  .object [("messages", .integer f.messages), ("errors", .array (f.errors.map Finding.toJson)),
    ("warnings", .array (f.warnings.map Finding.toJson))]

def summary (f : Findings) (fileCount : Nat) (colored : Bool) : String :=
  if f.errors.isEmpty && f.warnings.isEmpty then
    paint colored green "ok:" ++ " " ++ digitsText f.messages ++ " messages in " ++
      digitsText fileCount ++ " files"
  else
    paint colored red (digitsText f.errors.length) ++ " errors, " ++
      paint colored yellow (digitsText f.warnings.length) ++ " warnings"

end Findings

def CheckRequest.report (files : Files) (r : CheckRequest) : Report :=
  let found := Findings.ofFiles files r.paths
  let status := .ofFault (!found.errors.isEmpty || (r.strict && !found.warnings.isEmpty))
  if r.json then ⟨status, [found.toJson.pretty], []⟩
  else
    ⟨status, [found.summary r.paths.length r.colored],
      (found.errors ++ found.warnings).map Finding.line⟩

end Phrasebook.Command
