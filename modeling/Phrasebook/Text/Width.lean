import Phrasebook.Text.Ahead
import Phrasebook.Text.Wide

/-!
# Columns of text

How many columns of a terminal a text takes.  Most characters take one column, wide ones two and
unseen ones none.  Emoji of several characters take two columns in all, and letters that are drawn
as one take the columns of one letter.
-/

namespace Phrasebook.Text

/-! ## Characters alone -/

def zeroWidthJoiner : Char := '\u200d'

def textSelector : Char := '\ufe0e'

def emojiSelector : Char := '\ufe0f'

/-- The second selector of forms. -/
def formSelector : Char := '\ufe01'

/-- The Arabic letters of the joining group Alef. -/
def alefs : Ranges :=
  [(0x622, 0x623), (0x625, 0x625), (0x627, 0x627), (0x671, 0x673), (0x675, 0x675),
   (0x773, 0x774), (0x870, 0x882)]

/-- The Arabic letters of the joining group Lam. -/
def lams : Ranges :=
  [(0x644, 0x644), (0x6b5, 0x6b8), (0x76a, 0x76a), (0x8a6, 0x8a6), (0x8c7, 0x8c7)]

/-- The Khmer letters that have a form below another letter. -/
def khmerLetters : Ranges :=
  [(0x1780, 0x1782), (0x1784, 0x1787), (0x1789, 0x178c), (0x178e, 0x1793), (0x1795, 0x1798),
   (0x179b, 0x179d), (0x17a0, 0x17a0), (0x17a2, 0x17a2), (0x17a7, 0x17a7), (0x17ab, 0x17ac),
   (0x17af, 0x17af)]

/-- The Tifinagh letters that a joiner binds. -/
def tifinaghLetters : Ranges := [(0x2d31, 0x2d65), (0x2d6f, 0x2d6f)]

/-- The quotation marks that have a wide form, which is their second. -/
def quotationMarks : Ranges := [(0x2018, 0x2019), (0x201c, 0x201d)]

/-- What a character begins, for the letters that are drawn as one with others. -/
def letterJoint? (c : Char) : Option Joint :=
  if alefs.has c then some .alef
  else if khmerLetters.has c then some .khmer
  else if tifinaghLetters.has c then some .tifinagh
  else
    match c.toNat with
    | 0x5dc => some .lamed
    | 0x1a10 => some .buginese
    | 0xa4fc | 0xa4fd => some .lisuTone
    | 0x10c03 => some .orkhon
    | 0x16d67 => some .kiratRaiE
    | 0x16d68 => some .kiratRaiAi
    | _ => none

/-- The columns of a character by itself, and what it begins. -/
def alone (c : Char) : Int × Ahead :=
  if c.toNat ≤ 0xa0 then (1, if c = '\n' then .of .lineFeed else .plain)
  else if c = textSelector then (0, { textStyle := true })
  else if c = emojiSelector then (0, { emojiStyle := true })
  else if c = formSelector then (0, { secondForm := true })
  else if isModifier c then (2, .of .modifier)
  else if isRegional c then (1, .of .regional)
  else if isEmoji c then (2, .of .emoji)
  else
    match letterJoint? c with
    | some j => (1, .of j)
    | none =>
      if c = '\u17d8' then (3, .plain)
      else if c = '\u17a4' then (2, .plain)
      else if isUnseen c then (0, .plain)
      else if isWide c then (2, .plain)
      else (1, .plain)

/-! ## Characters with what stands behind them -/

/-- The rules for emoji: what a character adds, and what stands behind the character before it. -/
def joinEmoji (c : Char) : Joint → Option (Int × Joint)
  | .modifier =>
    if takesModifier c then some (0, .emoji)
    else if c = zeroWidthJoiner then some (0, .joinedEmoji)
    else none
  | .regional => if isRegional c then some (1, .regionals) else none
  | .regionals =>
    if isRegional c then some (1, .regionals)
    else if c = zeroWidthJoiner then some (0, .joinedEmoji)
    else none
  | .emoji => if c = zeroWidthJoiner then some (0, .joinedEmoji) else none
  | .joinedEmoji =>
    if c = '\u20e3' then some (0, .joinedKeycap)
    else if isRegional c then some (1, .joinedRegional)
    else if isModifier c then some (0, .modifier)
    else if c.toNat = 0xe007f then some (0, .tagLetters 0)
    else if isEmoji c then some (0, .emoji)
    else none
  | .joinedRegional => if isRegional c then some (-1, .joinedPairs) else none
  | .joinedPairs =>
    if isRegional c then some (3, .joinedPairsRegional)
    else if c = zeroWidthJoiner then some (0, .joinedEmoji)
    else none
  | .joinedPairsRegional =>
    if isRegional c then some (-1, .joinedPairs)
    else if c = zeroWidthJoiner then some (0, .joinedEmoji)
    else none
  | .tagLetters n =>
    if n < 6 && 0xe0061 ≤ c.toNat && c.toNat ≤ 0xe007a then some (0, .tagLetters (n + 1))
    else if n < 5 && 0xe0030 ≤ c.toNat && c.toNat ≤ 0xe0039 then some (0, .tagDigits 1)
    else if 3 ≤ n && c.toNat = 0x1f3f4 then some (0, .emoji)
    else none
  | .tagDigits n =>
    if n < 3 && 0xe0030 ≤ c.toNat && c.toNat ≤ 0xe0039 then some (0, .tagDigits (n + 1))
    else if n = 3 && c.toNat = 0x1f3f4 then some (0, .emoji)
    else none
  | _ => none

/-- The rules for letters that are drawn as one; `joined` says whether a joiner stands between. -/
def joinLetters (joined : Bool) (c : Char) : Joint → Option (Int × Joint)
  | .alef =>
    if lams.has c then some (0, .nothing)
    else if isJoinTransparent c then some (0, .alef)
    else none
  | .lamed => if joined && c = '\u05d0' then some (0, .nothing) else none
  | .khmer => if c = '\u17d2' then some (-1, .nothing) else none
  | .buginese => if joined && c = '\u1a17' then some (0, .bugineseSign) else none
  | .bugineseSign => if c = '\u1a15' then some (0, .nothing) else none
  | .tifinagh =>
    if c = '\u2d7f' then some (1, .joinedTifinagh)
    else if joined && tifinaghLetters.has c then some (0, .nothing)
    else none
  | .joinedTifinagh => if tifinaghLetters.has c then some (-1, .nothing) else none
  | .lisuTone => if 0xa4f8 ≤ c.toNat && c.toNat ≤ 0xa4fb then some (0, .nothing) else none
  | .orkhon => if joined && c.toNat = 0x10c32 then some (0, .nothing) else none
  | .kiratRaiE =>
    if c.toNat = 0x16d63 || c.toNat = 0x16d69 then some (0, .nothing)
    else if c.toNat = 0x16d67 then some (0, .kiratRaiAi)
    else if c.toNat = 0x16d68 then some (1, .kiratRaiE)
    else none
  | .kiratRaiAi => if c.toNat = 0x16d63 then some (0, .nothing) else none
  | _ => none

/-- Default-ignorable marks, which stand between letters that are drawn as one. -/
def ignorableMarks : Ranges :=
  [(0x34f, 0x34f), (0x17b4, 0x17b5), (0x180b, 0x180d), (0x180f, 0x180f), (0xfe00, 0xfe0f),
   (0xe0100, 0xe01ef)]

/-- The columns that a character adds to what stands behind it, where no selector is left between,
and what then stands behind the character before it. -/
def stepPlain (c : Char) (a : Ahead) : Int × Ahead :=
  if a.joint.joinsThrough && c = zeroWidthJoiner then (0, { a with joined := true })
  else if a.joint.joinsThrough && ignorableMarks.has c then (0, a)
  else
    match joinEmoji c a.joint <|> joinLetters a.joined c a.joint with
    | some (columns, j) => (columns, .of j)
    | none => alone c

/-- The same, where the second selector of forms may stand between. -/
def stepForm (c : Char) (a : Ahead) : Int × Ahead :=
  if a.secondForm && quotationMarks.has c then (2, .plain) else stepPlain c a.dropSecond

/-- The same, where the selector of letters may stand between too. -/
def stepText (c : Char) (a : Ahead) : Int × Ahead :=
  if c.toNat ≤ 0xa0 then
    if c = '\r' && a = .of .lineFeed then (0, .plain) else alone c
  else if a = .plain then alone c
  else if c = emojiSelector then (0, a.selectEmoji)
  else if c = textSelector then (0, a.selectText)
  else if c = formSelector then (0, a.selectSecond)
  else if a.textStyle && takesTextStyle c then (1, .plain)
  else stepForm c a.dropText

/-- The columns that a character adds to what stands behind it, and what then stands behind the
character before it. -/
def step (c : Char) (a : Ahead) : Int × Ahead :=
  if a.emojiStyle && takesEmojiStyle c then (if a.joint.awaitsEmoji then 0 else 2, .of .emoji)
  else stepText c (if a.emojiStyle then a.dropEmoji else a)

/-- The columns of a text, and what it begins. -/
def measure (cs : List Char) : Int × Ahead :=
  cs.foldr
    (fun c m =>
      let (columns, a) := step c m.2
      (m.1 + columns, a))
    (0, .plain)

def width (s : String) : Nat := (measure s.toList).1.toNat

end Phrasebook.Text
