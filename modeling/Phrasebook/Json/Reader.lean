import Phrasebook.Json.Scalar

/-!
# Reading documents

Lists and objects are read item by item by whatever reader the caller has for an item, so a text is
checked against the shape that is wanted while it is read.  `value` reads a part of any shape.  A
part may lie inside at most `maxDepth` brackets.
-/

namespace Phrasebook.Json.Reader

variable {α σ : Type}

/-- How many brackets may be open at once. -/
def maxDepth : Nat := 127

/-- Whether another item of the list follows; the comma before it is passed. -/
def anotherItem (first : Bool) : Reader Bool := do
  match ← next? with
  | none => failAhead .endInList
  | some ']' => pure false
  | some c =>
    if first then pure true
    else if c = ',' then
      skip
      match ← next? with
      | none => failAhead .endInValue
      | some ']' => failAhead .trailingComma
      | some _ => pure true
    else failAhead .expectedCommaOrListEnd

def endList : Reader Unit := do
  match ← next? with
  | none => failAhead .endInList
  | some ']' => skip
  | some ',' =>
    skip
    match ← next? with
    | some ']' => failAhead .trailingComma
    | _ => failAhead .trailingCharacters
  | some _ => failAhead .trailingCharacters

def itemsUpTo (item : Reader α) : Nat → Bool → Reader (List α)
  | 0, _ => pure []
  | fuel + 1, first => do
    if ← anotherItem first then
      let a ← item
      return a :: (← itemsUpTo item fuel false)
    else pure []

def items (item : Reader α) : Reader (List α) := do itemsUpTo item (← steps) true

def item? (first : Bool) (item : Reader α) : Reader (Option α) := do
  if ← anotherItem first then some <$> item else pure none

/-- A list whose opening bracket is ahead, under `level` more brackets at most. -/
def inList (body : Nat → Reader α) : Nat → Reader α
  | 0 => failAhead .tooDeep
  | level + 1 => do
    skip
    closedBy (body level) endList

/-- Whether another member of the object follows; the comma before it is passed. -/
def anotherMember (first : Bool) : Reader Bool := do
  match ← next? with
  | none => failAhead .endInObject
  | some '\x7d' => pure false
  | some c =>
    if first then
      if c = '"' then pure true else failAhead .keyNotString
    else if c = ',' then
      skip
      match ← next? with
      | none => failAhead .endInValue
      | some '"' => pure true
      | some '\x7d' => failAhead .trailingComma
      | some _ => failAhead .keyNotString
    else failAhead .expectedCommaOrObjectEnd

def colon : Reader Unit := do
  match ← next? with
  | none => failAhead .endInObject
  | some ':' => skip
  | some _ => failAhead .expectedColon

def endObject : Reader Unit := do
  match ← next? with
  | none => failAhead .endInObject
  | some '\x7d' => skip
  | some ',' => failAhead .trailingComma
  | some _ => failAhead .trailingCharacters

def membersUpTo (member : σ → String → Reader σ) : Nat → Bool → σ → Reader σ
  | 0, _, acc => pure acc
  | fuel + 1, first, acc => do
    if ← anotherMember first then
      skip
      let key ← string
      let acc ← member acc key
      membersUpTo member fuel false acc
    else pure acc

/-- Fold over the members of an object, up to its closing brace.  The reader of a member starts
behind the key. -/
def foldMembers (member : σ → String → Reader σ) (acc : σ) : Reader σ := do
  membersUpTo member (← steps) true acc

/-- An object whose opening brace is ahead, under `level` more brackets at most. -/
def inObject (body : Nat → Reader α) : Nat → Reader α
  | 0 => failAhead .tooDeep
  | level + 1 => do
    skip
    closedBy (body level) endObject

section

variable [NumberSource]

/-- A part that holds no other, by its first character. -/
def scalar (c : Char) : Reader Json := do
  if c = 'n' then
    skip
    word ['u', 'l', 'l']
    pure .null
  else if c = 't' then
    skip
    word ['r', 'u', 'e']
    pure (.bool true)
  else if c = 'f' then
    skip
    word ['a', 'l', 's', 'e']
    pure (.bool false)
  else if c = '-' then
    skip
    number true
  else if c.isDigit then number false
  else if c = '"' then
    skip
    .string <$> string
  else failAhead .expectedValue

/-- A part of any shape, given how to go on at an opening bracket or brace. -/
def part (atList atObject : Reader Json) : Reader Json := do
  match ← next? with
  | none => failAhead .endInValue
  | some '[' => atList
  | some '\x7b' => atObject
  | some c => scalar c

/-- Read one more member behind the members that were read, the last of them first. -/
def pushMember (value : Reader Json) (acc : List (String × Json)) (key : String) :
    Reader (List (String × Json)) := do
  colon
  return (key, ← value) :: acc

/-- A part of any shape under `level` more brackets at most. -/
def valueAt : Nat → Reader Json
  | 0 => part (failAhead .tooDeep) (failAhead .tooDeep)
  | level + 1 =>
    part
      (do
        skip
        closedBy (.array <$> items (valueAt level)) endList)
      (do
        skip
        closedBy ((fun acc => .object acc.reverse) <$> foldMembers (pushMember (valueAt level)) [])
          endObject)

/-- Refuse the part that begins with `c`.  A scalar is read first, so that its own faults count and
the error lies behind it. -/
def refuse (expected : String) (c : Char) : Reader α := do
  if c = '[' then failHere (.wrongType .sequence expected)
  else if c = '\x7b' then failHere (.wrongType .map expected)
  else
    let v ← scalar c
    failHere (.wrongType v.found expected)

def text (expected : String) : Reader String := do
  match ← next? with
  | none => failAhead .endInValue
  | some '"' =>
    skip
    string
  | some c => refuse expected c

def optional (reader : Reader α) : Reader (Option α) := do
  match ← next? with
  | some 'n' =>
    skip
    word ['u', 'l', 'l']
    pure none
  | _ => some <$> reader

def list (item : Nat → Reader α) (level : Nat) : Reader (List α) := do
  match ← next? with
  | none => failAhead .endInValue
  | some '[' => inList (fun level => items (item level)) level
  | some c => refuse "a sequence" c

def map (member : Nat → σ → String → Reader σ) (acc : σ) (level : Nat) : Reader σ := do
  match ← next? with
  | none => failAhead .endInValue
  | some '\x7b' => inObject (fun level => foldMembers (member level) acc) level
  | some c => refuse "a map" c

/-- A record: an object of named fields, or a list of the fields in their order. -/
def record (expected : String) (ofList ofObject : Nat → Reader α) (level : Nat) : Reader α := do
  match ← next? with
  | none => failAhead .endInValue
  | some '[' => inList ofList level
  | some '\x7b' => inObject ofObject level
  | some c => refuse expected c

end

def alone (reader : Reader α) : Reader α := do
  let a ← reader
  match ← next? with
  | none => pure a
  | some _ => failAhead .trailingCharacters

def run (reader : Nat → Reader α) (text : List Char) : Except Error α :=
  match alone (reader maxDepth) (Cursor.start text) with
  | .ok a _ => .ok a
  | .error e _ => .error e

end Phrasebook.Json.Reader

namespace Phrasebook.Json

def ofText [NumberSource] (text : List Char) : Except Error Json := Reader.run Reader.valueAt text

end Phrasebook.Json
