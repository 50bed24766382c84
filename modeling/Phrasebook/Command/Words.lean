/-!
# Words of a command line

Words are read in order against the options that a command knows.  A word is an option, the value of
the option before it, or a plain word; after `--` all words are plain.  The reading halts at the
first word that does not fit, and at an option that asks for a text instead of a run: of a word that
does not fit and such an option, the one that comes first decides.
-/

namespace Phrasebook.Command

inductive Halt where
  /-- It does not fit the command. -/
  | misused
  | help
  | version
deriving DecidableEq

inductive Action where
  /-- It may be given once and has no value. -/
  | mark
  /-- It has a value that must be accepted, and may be given again if it `repeats`. -/
  | value (repeats : Bool) (accepts : String → Bool)
  /-- It ends the reading. -/
  | halt (reason : Halt)

structure OptionRule where
  name : String
  letter : Option Char := none
  /-- What its value is called, if it has one. -/
  operand : Option String := none
  about : String
  action : Action := .mark
  /-- Whether it has to be given. -/
  required : Bool := false
  /-- The variable of the environment that may stand for it. -/
  environment : Option String := none
  /-- The value that it has when nothing gives one. -/
  fallback : Option String := none
  /-- All values it may have, where they are few. -/
  choices : List String := []

structure OperandRule where
  name : String
  about : String
  accepts : String → Bool

inductive PlainRule where
  /-- It ends the reading, and it and all words after it are left as they are. -/
  | ends
  /-- It is noted if it is accepted. -/
  | noted (accepts : String → Bool)

/-- What was read so far: the options with their values, in order, and the plain words. -/
structure Given where
  options : List (String × String) := []
  words : List String := []

namespace Given

def has (g : Given) (name : String) : Bool := g.options.any fun o => o.1 == name

def values (g : Given) (name : String) : List String :=
  (g.options.filter fun o => o.1 == name).map Prod.snd

def value? (g : Given) (name : String) : Option String := (g.values name).head?

def addMark (g : Given) (name : String) : Except Halt Given :=
  if g.has name then .error .misused else .ok { g with options := g.options ++ [(name, "")] }

def addValue (g : Given) (name : String) (repeats : Bool) (accepts : String → Bool)
    (value : String) : Except Halt Given :=
  if (g.has name && !repeats) || !accepts value then .error .misused
  else .ok { g with options := g.options ++ [(name, value)] }

/-- Note plain words, all of which must be accepted. -/
def addWords (g : Given) (accepts : String → Bool) (words : List String) : Except Halt Given :=
  if words.all accepts then .ok { g with words := g.words ++ words } else .error .misused

end Given

/-- What still needs the next word: it becomes the value of the option before it. -/
abbrev Awaiting := Option (String → Except Halt Given)

/-- Take an option, with the value that is written onto it if there is one. -/
def OptionRule.take (rule : OptionRule) (attached : Option String) (g : Given) :
    Except Halt (Given × Awaiting) :=
  match rule.action, attached with
  | .halt reason, none => .error reason
  | .mark, none => return (← g.addMark rule.name, none)
  | .value repeats accepts, some value =>
    return (← g.addValue rule.name repeats accepts value, none)
  | .value repeats accepts, none => .ok (g, some (g.addValue rule.name repeats accepts))
  | _, some _ => .error .misused

def takeName (rules : List OptionRule) (text : List Char) (g : Given) :
    Except Halt (Given × Awaiting) :=
  let name := String.ofList (text.takeWhile (· ≠ '='))
  let attached :=
    match text.dropWhile (· ≠ '=') with
    | [] => none
    | _ :: value => some (String.ofList value)
  match rules.find? fun r => r.name == name with
  | some rule => rule.take attached g
  | none => .error .misused

/-- A run of letters.  The letter of an option with a value ends it: what follows, after an equals
sign that may stand there, is the value. -/
def takeLetters (rules : List OptionRule) : List Char → Given → Except Halt (Given × Awaiting)
  | [], g => .ok (g, none)
  | c :: rest, g =>
    match rules.find? fun r => r.letter = some c with
    | none => .error .misused
    | some rule =>
      match rule.action with
      | .value .. =>
        let value := if rest.head? = some '=' then rest.tail else rest
        rule.take (if rest.isEmpty then none else some (String.ofList value)) g
      | _ => do
        let (g, _) ← rule.take none g
        takeLetters rules rest g

def isOption (word : String) : Bool :=
  match word.toList with
  | '-' :: _ :: _ => true
  | _ => false

def takeOption (rules : List OptionRule) (word : String) (g : Given) :
    Except Halt (Given × Awaiting) :=
  match word.toList with
  | '-' :: '-' :: text => takeName rules text g
  | text => takeLetters rules text.tail g

/-- Read words in order.  Behind `--`, which may not stand where a plain word ends the reading, all
words are plain. -/
def readWords (rules : List OptionRule) (plain : PlainRule) (g : Given) :
    Awaiting → List String → Except Halt Given
  | none, [] => .ok g
  | some _, [] => .error .misused
  | some add, word :: rest => do
    if isOption word then throw .misused
    readWords rules plain (← add word) none rest
  | none, word :: rest => do
    if isOption word && word != "--" then
      let (g, awaiting) ← takeOption rules word g
      readWords rules plain g awaiting rest
    else
      match plain with
      | .ends => if word == "--" then throw .misused else return { g with words := word :: rest }
      | .noted accepts =>
        if word == "--" then g.addWords accepts rest
        else readWords rules plain (← g.addWords accepts [word]) none rest

end Phrasebook.Command
