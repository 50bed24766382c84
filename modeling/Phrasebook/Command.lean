import Phrasebook.Command.Help

/-!
# The command line

From the words of a command line to its report.  The files that a command reads are given as a
function, so a report depends on nothing else.
-/

namespace Phrasebook.Command

namespace Request

def paths : Request → List String
  | .check r => r.paths
  | .coverage r => r.source :: r.targets
  | .eval r => r.paths
  | .help _ | .version => []

/-- The report on a request, where a help text also tells the locale that the environment gives. -/
def report (files : Files) (environmentLocale : Option String) : Request → Report
  | .check r => r.report files
  | .coverage r => r.report files
  | .eval r => r.report files
  | .help topic => ⟨.success, helpLines environmentLocale topic, []⟩
  | .version => ⟨.success, [programName ++ " " ++ programVersion], []⟩

end Request

def misuse : Report := ⟨.misuse, [], [usageLine .program]⟩

def run (files : Files) (environmentLocale : Option String) (words : List String) : Report :=
  match Request.ofWords environmentLocale words with
  | .ok r => r.report files environmentLocale
  | .error _ => misuse

end Phrasebook.Command
