import Phrasebook.Json.Writer
import Phrasebook.Resource.Fault

/-!
# Reports

What a command leaves behind: a status for its caller, the lines of its output, and the lines of its
diagnostics.
-/

namespace Phrasebook.Command

inductive Status where
  | success
  /-- The command ran and found fault with what it was given. -/
  | badData
  /-- The command could not do its work. -/
  | failure
  /-- The command line does not fit the command. -/
  | misuse
deriving DecidableEq

def Status.code : Status → UInt32
  | .success => 0
  | .badData => 65
  | .failure => 70
  | .misuse => 2

structure Report where
  status : Status
  output : List String := []
  diagnostics : List String := []

def linesText (lines : List String) : String := String.join (lines.map (· ++ "\n"))

def Status.ofFault (found : Bool) : Status := if found then .badData else .success

/-- The report of a command that could not do its work. -/
def Report.failed (message : String) : Report := ⟨.failure, [], [message]⟩

abbrev Files := String → Except FileError String

/-- A failure to load a resource, as commands report it. -/
def describe : LoadError → String
  | .file path e => "Cannot read resource file " ++ path ++ ": " ++ e.message
  | .json _ e => "invalid resource: " ++ e.message

def readResource (files : Files) (path : String) : Except LoadError Resource :=
  Resource.load path (files path)

end Phrasebook.Command
