import Phrasebook.Command

/-!
# The program

Reads the files that the command line asks for, prints the report, and ends with its status.
-/

namespace Phrasebook.Command

def readText (path : String) : IO (Except FileError String) := do
  try
    return decodeText (← IO.FS.readBinFile path)
  catch
    | .noFileOrDirectory .. => return .error .notFound
    | e => return .error (.other (toString e))

/-- Read some files; all others count as not found. -/
def readFiles (paths : List String) : IO Files := do
  let contents ← paths.mapM fun path => return (path, ← readText path)
  return fun path => (contents.lookup path).getD (.error .notFound)

end Phrasebook.Command

open Phrasebook.Command

def main (words : List String) : IO UInt32 := do
  let environmentLocale ← IO.getEnv localeVariable
  let report ←
    match Request.ofWords environmentLocale words with
    | .error _ => pure misuse
    | .ok request => pure (request.report (← readFiles request.paths) environmentLocale)
  IO.print (linesText report.output)
  IO.eprint (linesText report.diagnostics)
  return report.status.code
