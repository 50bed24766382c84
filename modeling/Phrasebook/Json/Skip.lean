import Phrasebook.Json.Reader

/-!
# Passing over a part

The value of a field that nobody asked for is passed over.  It must be JSON, but numbers may be of
any size, escapes may name half a pair, and brackets may be open to any depth.
-/

namespace Phrasebook.Json.Reader

/-- The digits behind the point or the letter of an exponent. -/
def skipDigits : Reader Unit := do let _ ← digits

def skipExponent : Reader Unit := do
  skip
  match ← peek? with
  | some '+' => skip
  | some '-' => skip
  | _ => pure ()
  match (← peek?).bind Digit.ofChar? with
  | none => failAhead .invalidNumber
  | some _ => skipDigits

def skipNumber : Reader Unit := do
  match (← peek?).bind Digit.ofChar? with
  | none => failAhead .invalidNumber
  | some first =>
    skip
    if first = .zero then
      match (← peek?).bind Digit.ofChar? with
      | some _ => failAhead .invalidNumber
      | none => pure ()
    else skipDigits
    if (← peek?) = some '.' then
      skip
      match (← peek?).bind Digit.ofChar? with
      | none => failAhead .invalidNumber
      | some _ => skipDigits
    if opensExponent (← peek?) then skipExponent

/-- The string up to its closing quote, which is passed. -/
def skipStringUpTo : Nat → Reader Unit
  | 0 => failHere .endInString
  | fuel + 1 => do
    match ← peek? with
    | none => failHere .endInString
    | some c =>
      if c = '"' then skip
      else if c = '\\' then
        skip
        match ← peek? with
        | none => failHere .endInString
        | some d =>
          if (plainEscape? d).isSome then skip
          else if d = 'u' then
            skip
            let _ ← hexCode
          else failAhead .invalidEscape
        skipStringUpTo fuel
      else if c.toNat < 0x20 then failHere .controlCharacter
      else
        skip
        skipStringUpTo fuel

def skipString : Reader Unit := do skipStringUpTo (← steps)

def skipKey : Reader Unit := do
  match ← next? with
  | none => failAhead .endInObject
  | some '"' =>
    skip
    skipString
    colon
  | some _ => failAhead .keyNotString

mutual

def skipValueUpTo : Nat → Reader Unit
  | 0 => failHere .endInValue
  | fuel + 1 => do
    match ← next? with
    | none => failAhead .endInValue
    | some 'n' => skip; word ['u', 'l', 'l']
    | some 't' => skip; word ['r', 'u', 'e']
    | some 'f' => skip; word ['a', 'l', 's', 'e']
    | some '-' => skip; skipNumber
    | some '"' => skip; skipString
    | some '[' => skip; skipItemsUpTo fuel true
    | some '\x7b' => skip; skipMembersUpTo fuel true
    | some c => if c.isDigit then skipNumber else failAhead .expectedValue

def skipItemsUpTo : Nat → Bool → Reader Unit
  | 0, _ => failHere .endInList
  | fuel + 1, first => do
    match ← next? with
    | none => failAhead .endInList
    | some ']' => skip
    | some c =>
      if first then
        skipValueUpTo fuel
        skipItemsUpTo fuel false
      else if c = ',' then
        skip
        skipValueUpTo fuel
        skipItemsUpTo fuel false
      else failAhead .expectedCommaOrListEnd

def skipMembersUpTo : Nat → Bool → Reader Unit
  | 0, _ => failHere .endInObject
  | fuel + 1, first => do
    match ← next? with
    | none => failAhead .endInObject
    | some '\x7d' => skip
    | some c =>
      if first then
        skipKey
        skipValueUpTo fuel
        skipMembersUpTo fuel false
      else if c = ',' then
        skip
        skipKey
        skipValueUpTo fuel
        skipMembersUpTo fuel false
      else failAhead .expectedCommaOrObjectEnd

end

def skipValue : Reader Unit := do skipValueUpTo (← steps)

end Phrasebook.Json.Reader
