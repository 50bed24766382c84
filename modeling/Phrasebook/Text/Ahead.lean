import Phrasebook.Text.Emoji
import Phrasebook.Text.Unseen

/-!
# What stands behind a character

Some characters are drawn together and take fewer columns, or more, than each of them takes alone.
A text is therefore measured from its end, and each character is told what stands behind it: the
beginning of something that it may complete, and which selectors stand between.
-/

namespace Phrasebook.Text

/-- Something that a character may complete from the left. -/
inductive Joint where
  | nothing
  | lineFeed
  /-- A skin tone. -/
  | modifier
  /-- One letter of a flag. -/
  | regional
  /-- Several letters of flags. -/
  | regionals
  | emoji
  /-- A joiner and an emoji. -/
  | joinedEmoji
  /-- A keycap that a joiner ties to an emoji. -/
  | joinedKeycap
  /-- The second letter of a flag that a joiner ties to an emoji. -/
  | joinedRegional
  /-- An even count of letters of flags that a joiner ties to an emoji. -/
  | joinedPairs
  /-- One letter more than that. -/
  | joinedPairsRegional
  /-- The end of a tagged flag that a joiner ties to an emoji, behind some tag letters. -/
  | tagLetters (count : Nat)
  /-- The same behind some tag digits. -/
  | tagDigits (count : Nat)
  | kiratRaiE
  | kiratRaiAi
  | alef
  | lamed
  | buginese
  /-- A Buginese letter behind its vowel sign. -/
  | bugineseSign
  | tifinagh
  /-- A Tifinagh letter behind a joiner. -/
  | joinedTifinagh
  | lisuTone
  | orkhon
  | khmer
deriving DecidableEq

namespace Joint

/-- Letters that are drawn as one with the letter before them, whatever selectors are between.  The
Kirat Rai vowels join only what stands right before them. -/
def isLetter : Joint → Bool
  | alef | lamed | buginese | bugineseSign | tifinagh | joinedTifinagh | lisuTone | orkhon
  | khmer => true
  | _ => false

/-- Letters that are drawn so also when joiners are between; Arabic has its own rule. -/
def joinsThrough (j : Joint) : Bool := j.isLetter && j != alef

/-- Emoji to which an emoji may be tied. -/
def awaitsEmoji : Joint → Bool
  | joinedEmoji | joinedKeycap => true
  | _ => false

end Joint

/-- What stands behind a character. -/
structure Ahead where
  joint : Joint := .nothing
  /-- A joiner stands between. -/
  joined : Bool := false
  /-- The selector of emoji stands between. -/
  emojiStyle : Bool := false
  /-- The selector of letters stands between. -/
  textStyle : Bool := false
  /-- The second selector of forms stands between. -/
  secondForm : Bool := false
deriving DecidableEq

namespace Ahead

def plain : Ahead := {}

/-- The beginning of something, with nothing between. -/
def of (j : Joint) : Ahead := { joint := j }

def selectEmoji (a : Ahead) : Ahead :=
  if a.joint.isLetter || a.joint.awaitsEmoji then { a with emojiStyle := true }
  else { emojiStyle := true }

/-- The selector of emoji was of no use. -/
def dropEmoji (a : Ahead) : Ahead :=
  if a.joint.isLetter then { a with emojiStyle := false } else plain

def selectText (a : Ahead) : Ahead :=
  if a.joint.isLetter then { a with textStyle := true } else { textStyle := true }

/-- The selector of letters was of no use. -/
def dropText (a : Ahead) : Ahead := { a with textStyle := false }

/-- After the second selector of forms. -/
def selectSecond (a : Ahead) : Ahead :=
  if a.joint.isLetter then { a with secondForm := true } else { secondForm := true }

/-- The second selector of forms was of no use. -/
def dropSecond (a : Ahead) : Ahead := { a with secondForm := false }

end Ahead

end Phrasebook.Text
