import Phrasebook.Json.Error
import Phrasebook.Text.Bytes

/-!
# Reading with a cursor

A reader walks over a text and knows at each step the line and the bytes of it that are behind.  It
stops at the first error.  The cursor at the error is kept: an error that does not know its place
takes the place where its reader gave up.
-/

namespace Phrasebook.Json

/-- The text ahead, and the line and the bytes of it that are behind. -/
structure Cursor where
  rest : List Char
  line : Nat
  column : Nat

namespace Cursor

def start (text : List Char) : Cursor := ⟨text, 1, 0⟩

def here (s : Cursor) : Position := ⟨s.line, s.column⟩

/-- The place after one more byte; at the end of the text, the end. -/
def ahead (s : Cursor) : Position :=
  match s.rest with
  | [] => s.here
  | c :: _ => if c = '\n' then ⟨s.line + 1, 0⟩ else ⟨s.line, s.column + 1⟩

/-- The place after `bytes` more bytes, which may end inside a character. -/
def placeAfter : Nat → List Char → Position → Position
  | _, [], p => p
  | bytes, c :: cs, p =>
    if bytes < c.utf8Size then ⟨p.line, p.column + bytes⟩
    else placeAfter (bytes - c.utf8Size) cs
      (if c = '\n' then ⟨p.line + 1, 0⟩ else ⟨p.line, p.column + c.utf8Size⟩)

/-- Bytes of the text ahead. -/
def bytesAhead (s : Cursor) : Nat := Text.byteSize s.rest

def pass (s : Cursor) (c : Char) (rest : List Char) : Cursor :=
  if c = '\n' then ⟨rest, s.line + 1, 0⟩ else ⟨rest, s.line, s.column + c.utf8Size⟩

end Cursor

abbrev Reader := EStateM Error Cursor

namespace Reader

variable {α β : Type}

/-- Stop with a cause found behind the cursor. -/
def failHere (cause : Cause) : Reader α := fun s => .error ⟨cause, some s.here⟩ s

/-- Stop with a cause found at the next byte. -/
def failAhead (cause : Cause) : Reader α := fun s => .error ⟨cause, some s.ahead⟩ s

/-- Stop with a cause whose place is not known yet. -/
def fail (cause : Cause) : Reader α := fun s => .error ⟨cause, none⟩ s

def peek? : Reader (Option Char) := fun s => .ok s.rest.head? s

def skip : Reader Unit := fun s =>
  match s.rest with
  | [] => .ok () s
  | c :: rest => .ok () (s.pass c rest)

def isGap (c : Char) : Bool := c = ' ' || c = '\n' || c = '\t' || c = '\r'

def overGap : List Char → Cursor → Cursor
  | [], s => s
  | c :: rest, s => if isGap c then overGap rest (s.pass c rest) else s

/-- Go over a gap and look at the character behind it. -/
def next? : Reader (Option Char) := fun s =>
  let s := overGap s.rest s
  .ok s.rest.head? s

/-- A number of steps that no walk over the text ahead exceeds. -/
def steps : Reader Nat := fun s => .ok (2 * s.rest.length + 2) s

/-- Give an error without a place the place of the cursor. -/
def placed (reader : Reader α) : Reader α := fun s =>
  match reader s with
  | .ok a s => .ok a s
  | .error e s => .error ⟨e.cause, some (e.position?.getD s.here)⟩ s

/-- Read a body and then its closing bracket.  The bracket is tried even when the body failed, and
an error of the body without a place takes the place behind that attempt. -/
def closedBy (body : Reader α) (close : Reader Unit) : Reader α := fun s =>
  match body s with
  | .ok a s =>
    match close s with
    | .ok _ s => .ok a s
    | .error e s => .error e s
  | .error e s =>
    let after := match close s with
      | .ok _ s => s
      | .error _ s => s
    .error ⟨e.cause, some (e.position?.getD after.here)⟩ after

/-- The result of a computation without a cursor; its error has no place. -/
def ofExcept : Except Cause α → Reader α
  | .ok a => pure a
  | .error cause => fail cause

end Reader

end Phrasebook.Json
