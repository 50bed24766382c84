/-!
# Terminal controls

Text for a terminal may hold control sequences, which tell how what follows is drawn and are not
drawn themselves.  A sequence begins with the escape character.  This module takes the sequences
out, and with them all other controls but the blank ones.  A sequence that does not end takes what
follows with it, up to the next one.
-/

namespace Phrasebook.Text

/-- The controls that are blank: tabs, form feeds and the two that end lines. -/
def isBlankControl (c : Char) : Bool := c = '\t' || c = '\n' || c = '\x0c' || c = '\r'

/-- Whether a character is drawn where no sequence is open. -/
def isDrawn (c : Char) : Bool :=
  (0x20 ≤ c.toNat && c.toNat != 0x7f) || isBlankControl c

def isWithin (lo hi : Nat) (c : Char) : Bool := lo ≤ c.toNat && c.toNat ≤ hi

/-- The byte that ends a string is looked for within characters too. -/
def hasTerminator (c : Char) : Bool := (String.utf8EncodeChar c).contains 0x9c

inductive Opening where
  /-- None. -/
  | none
  /-- The escape character. -/
  | escape
  /-- The escape character and some marks. -/
  | marks
  /-- A sequence that ends with a letter. -/
  | control
  /-- The head of a device string. -/
  | device
  /-- Its head, with some numbers. -/
  | deviceNumbers
  /-- Its head, with some marks. -/
  | deviceMarks
  /-- A string that ends with a terminator. -/
  | string
  /-- A command of the operating system, which ends with a bell. -/
  | command
deriving DecidableEq

namespace Opening

def drawsBlanks : Opening → Bool
  | none | escape | marks | control => true
  | device | deviceNumbers | deviceMarks | string | command => false

def next (o : Opening) (c : Char) : Opening :=
  if c = '\x1b' then escape
  else if c = '\x18' || c = '\x1a' then none
  else
    match o with
    | none => none
    | escape =>
      if c = '[' then control
      else if c = ']' then command
      else if c = 'P' then device
      else if c = 'X' || c = '^' || c = '_' then string
      else if isWithin 0x20 0x2f c then marks
      else if isWithin 0x30 0x7e c then none
      else escape
    | marks => if isWithin 0x30 0x7e c then none else marks
    | control => if isWithin 0x40 0x7e c then none else control
    | device =>
      if c = ':' || isWithin 0x40 0x7e c then string
      else if isWithin 0x30 0x3f c then deviceNumbers
      else if isWithin 0x20 0x2f c then deviceMarks
      else device
    | deviceNumbers =>
      if c = ':' || isWithin 0x3c 0x7e c then string
      else if isWithin 0x20 0x2f c then deviceMarks
      else deviceNumbers
    | deviceMarks => if isWithin 0x30 0x7e c then string else deviceMarks
    | string => if hasTerminator c then none else string
    | command => if c = '\x07' then none else command

end Opening

structure Drawing where
  opening : Opening := .none
  /-- A blank control stood within the sequence that is open, and from there on characters are drawn
  up to one that cannot be, which is read as part of the sequence again. -/
  interrupted : Bool := false
deriving DecidableEq

namespace Drawing

/-- Whether the next character is drawn, and how far the text is read then. -/
def step (d : Drawing) (c : Char) : Bool × Drawing :=
  if (d.interrupted || d.opening = .none) && isDrawn c then
    (true, if c.toNat < 0x80 then d else {})
  else if d.opening.drawsBlanks && isBlankControl c then (true, { d with interrupted := true })
  else (false, ⟨d.opening.next c, false⟩)

def drawn (d : Drawing) : List Char → List Char
  | [] => []
  | c :: cs =>
    let (isKept, d) := d.step c
    if isKept then c :: d.drawn cs else d.drawn cs

end Drawing

def withoutControls (s : String) : String := String.ofList (Drawing.drawn {} s.toList)

end Phrasebook.Text
