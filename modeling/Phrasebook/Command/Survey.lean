import Phrasebook.Command.Report
import Phrasebook.Coverage.Table

/-!
# Surveys

How much of a source file some target files cover, as a table with the missing ids below it, or as
JSON.
-/

namespace Phrasebook

def Coverage.toJson (total : Nat) (c : Coverage) : Json :=
  .object [("language", .string c.language), ("translated", .integer c.covered),
    ("total", .integer total), ("missing", .array (c.missing.map Json.string)),
    ("extra", .array (c.extra.map Json.string))]

def Coverage.missingLines (c : Coverage) : List String :=
  if c.missing.isEmpty then []
  else "" :: ("Missing in " ++ c.language ++ ":") :: c.missing.map ("  - " ++ ·)

namespace Command

/-- The part of a name before its last point; a point at the very beginning does not count. -/
def stem (name : List Char) : List Char :=
  match (name.reverse.dropWhile (· ≠ '.')).drop 1 with
  | [] => name
  | before => before.reverse

/-- What a file is called in a survey: its name without folders and without what follows the last
point. A path that ends in no name, such as the folder above, is called what it is. -/
def languageLabel (path : String) : String :=
  let names := (path.toList.splitOn '/').filter fun n => !n.isEmpty && n != ['.']
  match names.getLast? with
  | none => path
  | some name => if name = ['.', '.'] then path else String.ofList (stem name)

structure CoverageRequest where
  source : String
  targets : List String
  /-- Whether a missing id is a fault. -/
  strict : Bool
  json : Bool

def readIds (files : Files) (path : String) : Except LoadError (List String) :=
  Resource.uniqueMessageIds <$> readResource files path

/-- How many ids the source has, and what each target covers of them. -/
def CoverageRequest.survey (files : Files) (r : CoverageRequest) :
    Except LoadError (Nat × List Coverage) := do
  let source ← readIds files r.source
  let coverages ← r.targets.mapM fun path => do
    return .compare (languageLabel path) source (← readIds files path)
  return (source.length, coverages)

def CoverageRequest.report (files : Files) (r : CoverageRequest) : Report :=
  match r.survey files with
  | .error e => .failed (describe e)
  | .ok (total, coverages) =>
    let status := .ofFault (r.strict && coverages.any fun c => !c.missing.isEmpty)
    if r.json then ⟨status, [(Json.array (coverages.map (Coverage.toJson total))).pretty], []⟩
    else ⟨status, coverageLines total coverages ++ coverages.flatMap Coverage.missingLines, []⟩

end Command

end Phrasebook
