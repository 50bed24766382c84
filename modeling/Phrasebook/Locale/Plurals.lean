import Phrasebook.Locale.Source
import Phrasebook.Numeric.Decimal
import Phrasebook.Value.Number

/-!
# Plural categories

Languages sort numbers into a few categories by how they are written.  A rule sees the operands of a
numeral: its integer part, the fraction digits that are visible, and whether the number is whole.
-/

namespace Phrasebook

inductive PluralCategory where
  | zero
  | one
  | two
  | few
  | many
  | other
deriving DecidableEq

def PluralCategory.key : PluralCategory → String
  | zero => "zero"
  | one => "one"
  | two => "two"
  | few => "few"
  | many => "many"
  | other => "other"

/-- What the rules see of the absolute value of a numeral. -/
structure PluralOperands where
  /-- The integer part. -/
  integer : Nat
  /-- How many fraction digits are visible. -/
  visible : Nat
  /-- The visible fraction digits, as one number. -/
  fraction : Nat
deriving DecidableEq

namespace PluralOperands

/-- How many digits on each side of the point the rules look at. -/
def digitLimit : Nat := 18

/-- The operands of a numeral.  Of a longer integer part only the last digits are kept, as digits of
a number that is too large to be small; of a longer fraction the first digits are all there is. -/
def ofNumeral (x : Numeral) : PluralOperands :=
  let beyond := x.integer.length - digitLimit
  let fraction := x.fraction.take digitLimit
  ⟨(if 0 < beyond then tenPow digitLimit else 0) + Digit.value (x.integer.drop beyond),
    fraction.length, Digit.value fraction⟩

def isExactly (o : PluralOperands) (n : Nat) : Bool := o.fraction == 0 && o.integer == n

/-- The number is whole, and its remainder by `m` is from `lo` to `hi`. -/
def remains (o : PluralOperands) (m lo hi : Nat) : Bool :=
  o.fraction == 0 && lo ≤ o.integer % m && o.integer % m ≤ hi

/-- The remainder of the integer part by `m` is from `lo` to `hi`. -/
def integerRemains (o : PluralOperands) (m lo hi : Nat) : Bool :=
  lo ≤ o.integer % m && o.integer % m ≤ hi

/-- No fraction digit is visible. -/
def isBare (o : PluralOperands) : Bool := o.visible == 0

def isMillions (o : PluralOperands) : Bool :=
  o.isBare && o.integer != 0 && o.integer % 1000000 == 0

end PluralOperands

def cardinalCategory (source : LocaleSource) (o : PluralOperands) : PluralCategory :=
  match source.language with
  | "en" | "de" | "sv" => if o.isBare && o.integer == 1 then .one else .other
  | "fr" => if o.integer ≤ 1 then .one else if o.isMillions then .many else .other
  | "es" => if o.isExactly 1 then .one else if o.isMillions then .many else .other
  | "pt" =>
    if source.region == some "PT" then
      if o.isBare && o.integer == 1 then .one else if o.isMillions then .many else .other
    else if o.integer ≤ 1 then .one
    else if o.isMillions then .many
    else .other
  | "pl" =>
    if !o.isBare then .other
    else if o.integer == 1 then .one
    else if o.integerRemains 10 2 4 && !o.integerRemains 100 12 14 then .few
    else .many
  | "ru" =>
    if !o.isBare then .other
    else if o.integerRemains 10 1 1 && !o.integerRemains 100 11 11 then .one
    else if o.integerRemains 10 2 4 && !o.integerRemains 100 12 14 then .few
    else .many
  | "ar" =>
    if o.isExactly 0 then .zero
    else if o.isExactly 1 then .one
    else if o.isExactly 2 then .two
    else if o.remains 100 3 10 then .few
    else if o.remains 100 11 99 then .many
    else .other
  | "cy" =>
    if o.isExactly 0 then .zero
    else if o.isExactly 1 then .one
    else if o.isExactly 2 then .two
    else if o.isExactly 3 then .few
    else if o.isExactly 6 then .many
    else .other
  | "ga" =>
    if o.isExactly 1 then .one
    else if o.isExactly 2 then .two
    else if o.fraction == 0 && 3 ≤ o.integer && o.integer ≤ 6 then .few
    else if o.fraction == 0 && 7 ≤ o.integer && o.integer ≤ 10 then .many
    else .other
  | "hi" => if o.integer == 0 || o.isExactly 1 then .one else .other
  | "lt" =>
    if o.remains 10 1 1 && !o.remains 100 11 19 then .one
    else if o.remains 10 2 9 && !o.remains 100 11 19 then .few
    else if o.fraction != 0 then .many
    else .other
  | "sl" =>
    if !o.isBare then .few
    else if o.integerRemains 100 1 1 then .one
    else if o.integerRemains 100 2 2 then .two
    else if o.integerRemains 100 3 4 then .few
    else .other
  | _ => .other

def ordinalCategory (source : LocaleSource) (o : PluralOperands) : PluralCategory :=
  match source.language with
  | "en" =>
    if o.remains 10 1 1 && !o.remains 100 11 11 then .one
    else if o.remains 10 2 2 && !o.remains 100 12 12 then .two
    else if o.remains 10 3 3 && !o.remains 100 13 13 then .few
    else .other
  | "sv" => if o.remains 10 1 2 && !o.remains 100 11 12 then .one else .other
  | "fr" | "ga" => if o.isExactly 1 then .one else .other
  | "es" =>
    if (o.remains 10 1 1 || o.remains 10 3 3) && !o.remains 100 11 11 then .one else .other
  | "cy" =>
    if o.isExactly 0 || o.isExactly 7 || o.isExactly 8 || o.isExactly 9 then .zero
    else if o.isExactly 1 then .one
    else if o.isExactly 2 then .two
    else if o.isExactly 3 || o.isExactly 4 then .few
    else if o.isExactly 5 || o.isExactly 6 then .many
    else .other
  | "hi" =>
    if o.isExactly 1 then .one
    else if o.isExactly 2 || o.isExactly 3 then .two
    else if o.isExactly 4 then .few
    else if o.isExactly 6 then .many
    else .other
  | _ => .other

/-- The plural rules of a locale, of one type. -/
structure PluralRules where
  category : PluralOperands → PluralCategory

def PluralRules.ofLocale (l : Locale) : PluralType → PluralRules
  | .cardinal => ⟨cardinalCategory l.source⟩
  | .ordinal => ⟨ordinalCategory l.source⟩

namespace Locale

def pluralLanguages : List String :=
  ["ar", "cy", "de", "en", "es", "fr", "ga", "hi", "lt", "pl", "pt", "ru", "sl", "sv"]

/-- Whether there are data for the locale.  The root is its own data, but stands for no locale below
it. -/
def hasData (l : Locale) : Bool := pluralLanguages.contains l.source.language || l.isRoot

end Locale

end Phrasebook
