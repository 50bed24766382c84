import Phrasebook.Command.Invocation
import Phrasebook.Text.Controls

/-!
# Help

The texts that explain the command line.  They are laid out from the same rules by which the words
are read.  A text is written as a terminal would get it, with the names of options in bold.  As the
output need not be one, all controls are taken out in the end, also those that the locale of the
environment brings with it.
-/

namespace Phrasebook.Command

def programName : String := "glossa"

def programVersion : String := "0.1.0"

def programAbout : String := "Format and lint glossa resource files"

def helpAbout : String := "Print this message or the help of the given subcommand(s)"

def bold (s : String) : String := "\x1b[1m" ++ s ++ "\x1b[0m"

def OptionRule.usage (r : OptionRule) : String :=
  bold ("--" ++ r.name) ++
    (match r.operand with
      | some operand => " <" ++ operand ++ ">"
      | none => "")

def OptionRule.form (r : OptionRule) : String :=
  (match r.letter with
    | some c => bold ("-" ++ String.singleton c) ++ ", "
    | none => "    ") ++ r.usage

/-- What is said about an option: what it does, where its value may come from, and which values it
may have. -/
def OptionRule.description (environmentLocale : Option String) (r : OptionRule) : String :=
  " ".intercalate <| r.about ::
    (r.environment.toList.map fun name =>
      "[env: " ++ name ++ "=" ++ environmentLocale.getD "" ++ "]") ++
    (r.fallback.toList.map fun value => "[default: " ++ value ++ "]") ++
    (if r.choices.isEmpty then []
    else ["[possible values: " ++ ", ".intercalate r.choices ++ "]"])

/-- What tells options of one place apart: the letter, or else the name. -/
def OptionRule.key (r : OptionRule) : String :=
  match r.letter with
  | some c => String.singleton c.toLower ++ (if c.isLower then "0" else "1")
  | none => r.name

/-- Two lists of options as one: by their places in these lists, then by their keys. -/
def mergeByPlace (own shared : List OptionRule) : List OptionRule :=
  let before (a b : OptionRule × Nat) : Bool :=
    a.2 < b.2 || (a.2 == b.2 && (a.1.key < b.1.key || a.1.key == b.1.key))
  ((own.zipIdx ++ shared.zipIdx).mergeSort before).map Prod.fst

/-- Two columns, the left one as wide as its widest cell.  Where a text on the right has several
lines, the later ones begin below the first. -/
def columns (rows : List (String × String)) : List String :=
  let length (left : String) : Nat := (Text.withoutControls left).length
  let wide := (rows.map fun r => length r.1).foldl max 0
  rows.map fun (left, right) =>
    "  " ++ left.pushn ' ' (wide - length left) ++ "  " ++
      ("\n".pushn ' ' (wide + 4)).intercalate (right.splitOn "\n")

/-- A part of a text: a blank line, a title and two columns. -/
def helpPart (title : String) (rows : List (String × String)) : List String :=
  if rows.isEmpty then [] else "" :: (title ++ ":") :: columns rows

def optionRows (environmentLocale : Option String) (rules : List OptionRule) :
    List (String × String) :=
  rules.map fun r => (r.form, r.description environmentLocale)

def usageWords : Topic → List String
  | .program => ["[OPTIONS]", "<COMMAND>"]
  | .command v =>
    v.name :: "[OPTIONS]" :: (v.options.filter (·.required)).map OptionRule.usage ++
      v.operand.toList.map fun o => "<" ++ o.name ++ ">..."
  | .help => ["help", "[COMMAND]..."]

def usageLine (t : Topic) : String :=
  Text.withoutControls (" ".intercalate ("Usage:" :: programName :: usageWords t))

def helpDrawing (environmentLocale : Option String) (t : Topic) : List String :=
  let opening (about : String) : List String := [about, "", usageLine t]
  let rows := optionRows environmentLocale
  match t with
  | .program =>
    opening programAbout ++
      helpPart "Commands" ((Verb.all.map fun v => (v.name, v.about)) ++ [("help", helpAbout)]) ++
      helpPart "Options" (rows leadingRules)
  | .command v =>
    opening v.about ++
      helpPart "Arguments" (v.operand.toList.map fun o => ("<" ++ o.name ++ ">...", o.about)) ++
      helpPart "Options" (rows (mergeByPlace v.options sharedOptions ++ [helpRule]))
  | .help =>
    opening helpAbout ++
      helpPart "Arguments" [("[COMMAND]...", "Print help for the subcommand(s)")]

/-- The lines of a help text.  The last of them ends as all the others do, so nothing follows it. -/
def helpLines (environmentLocale : Option String) (t : Topic) : List String :=
  ((Text.withoutControls (linesText (helpDrawing environmentLocale t))).splitOn "\n").dropLast

end Phrasebook.Command
