import Phrasebook.Value

/-!
# Options by name

The options of a call are named values.  Each recognised name replaces one option when its value is
of the right shape, and leaves the option as it was otherwise.
-/

namespace Phrasebook

variable {γ : Type}

/-- The count that a text writes: digits with at most a plus sign, within 64 bits. -/
def countOfText? (text : String) : Option UInt64 := do
  let cs := match text.toList with
    | '+' :: rest => rest
    | cs => cs
  let ds ← Number.digits? cs
  guard !ds.isEmpty
  guard (Digit.value ds < twoPow 64)
  return UInt64.ofNat (Digit.value ds)

/-- The count that a value gives: the whole part of a number that is not negative, or a text that
writes a count. -/
def Value.count? : Value γ → Option UInt64
  | .number n => if n.value.isFinite && n.value.isNonNegative then some n.value.toUInt64 else none
  | .text s => countOfText? s
  | _ => none

def NumberStyle.ofName? (name : String) : Option NumberStyle :=
  if name = "decimal" then some .decimal
  else if name = "percent" then some .percent
  else none

def PluralType.ofName? (name : String) : Option PluralType :=
  if name = "cardinal" then some .cardinal
  else if name = "ordinal" then some .ordinal
  else none

def Value.text? : Value γ → Option String
  | .text s => some s
  | _ => none

namespace NumberOptions

def set (o : NumberOptions) (name : String) (value : Value γ) : NumberOptions :=
  if name = "style" then
    { o with style := (value.text?.bind NumberStyle.ofName?).getD o.style }
  else if name = "type" then
    { o with pluralType := (value.text?.bind PluralType.ofName?).getD o.pluralType }
  else if name = "useGrouping" then
    { o with useGrouping := (value.text?.map (· != "false")).getD o.useGrouping }
  else if name = "minimumIntegerDigits" then
    { o with minimumIntegerDigits := value.count? <|> o.minimumIntegerDigits }
  else if name = "minimumFractionDigits" then
    { o with minimumFractionDigits := value.count? <|> o.minimumFractionDigits }
  else if name = "maximumFractionDigits" then
    { o with maximumFractionDigits := value.count? <|> o.maximumFractionDigits }
  else if name = "minimumSignificantDigits" then
    { o with minimumSignificantDigits := value.count? <|> o.minimumSignificantDigits }
  else if name = "maximumSignificantDigits" then
    { o with maximumSignificantDigits := value.count? <|> o.maximumSignificantDigits }
  else o

def merge (o : NumberOptions) (named : Arguments γ) : NumberOptions :=
  named.toList.foldl (fun o p => o.set p.1 p.2) o

end NumberOptions

namespace InstantOptions

def set (o : InstantOptions) (name : String) (value : Value γ) : InstantOptions :=
  if name = "dateStyle" then { o with date := value.text?.bind Length.ofName? <|> o.date }
  else if name = "timeStyle" then { o with time := value.text?.bind Length.ofName? <|> o.time }
  else o

def merge (o : InstantOptions) (named : Arguments γ) : InstantOptions :=
  named.toList.foldl (fun o p => o.set p.1 p.2) o

end InstantOptions

end Phrasebook
