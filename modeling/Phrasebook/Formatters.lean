import Phrasebook.Locale.Dates
import Phrasebook.Locale.Plurals
import Phrasebook.Memo
import Phrasebook.Value.Digits

/-!
# The formatters of a locale

Plural rules and formats are made when they are first needed and kept for later.  What they answer
depends on the locale alone; how many were made can be asked.
-/

namespace Phrasebook

inductive FormatError where
  /-- The formatter itself cannot be made. -/
  | unavailable (reason : String)
  /-- The number has no digits any more after rounding. -/
  | unreadableNumber
  | timestampOutOfRange
  | yearOutOfRange (year : Int)
deriving DecidableEq

def integerText (n : Int) : String := (if n < 0 then "-" else "") ++ digitsText n.natAbs

def FormatError.message : FormatError → String
  | .unavailable reason => reason
  | .unreadableNumber => "Failed to parse the input string"
  | .timestampOutOfRange => "timestamp out of range"
  | .yearOutOfRange year =>
    "The year = " ++ integerText year ++ " argument is out of range -9999..=9999"

/-- For which locales there are data, and the plural rules and formats of each locale, or why they
cannot be made. -/
class FormatterSource where
  hasData : Locale → Bool
  pluralRules : Locale → PluralType → Except String PluralRules
  decimalFormat : Locale → Bool → Except String DecimalFormat
  dateFormat : Locale → InstantOptions → Except String DateFormat

/-- The plural rules and formats of the library, which has some for every locale. -/
instance FormatterSource.library : FormatterSource where
  hasData := Locale.hasData
  pluralRules l type := .ok (.ofLocale l type)
  decimalFormat l grouping := .ok (.ofLocale l grouping)
  dateFormat l options := .ok (.ofLocale l options)

structure FormatterTables (source : FormatterSource) where
  locale : Locale
  plurals : Memo (source.pluralRules locale) := .empty
  decimals : Memo (source.decimalFormat locale) := .empty
  dates : Memo (source.dateFormat locale) := .empty
  /-- How many formatters were made so far. -/
  constructed : Nat := 0

abbrev Formatters [source : FormatterSource] := FormatterTables source

/-- The formatters of the first locale with data, or else of the first of all, or else of the
root. -/
def Formatters.negotiate [source : FormatterSource] (ls : List Locale) : Formatters :=
  { locale := (ls.find? source.hasData <|> ls.head?).getD .und }

namespace FormatterTables

variable {source : FormatterSource}

def fresh (l : Locale) : FormatterTables source := { locale := l }

def countIf (made : Bool) (n : Nat) : Nat := if made then n + 1 else n

def pluralRules (type : PluralType) (c : FormatterTables source) :
    Except FormatError PluralRules × FormatterTables source :=
  match c.plurals.get type with
  | (rules, table, made) =>
    (rules.mapError .unavailable,
      { c with plurals := table, constructed := countIf made c.constructed })

def decimalFormat (grouping : Bool) (c : FormatterTables source) :
    Except FormatError DecimalFormat × FormatterTables source :=
  match c.decimals.get grouping with
  | (format, table, made) =>
    (format.mapError .unavailable,
      { c with decimals := table, constructed := countIf made c.constructed })

def dateFormat (options : InstantOptions) (c : FormatterTables source) :
    Except FormatError DateFormat × FormatterTables source :=
  match c.dates.get options with
  | (format, table, made) =>
    (format.mapError .unavailable,
      { c with dates := table, constructed := countIf made c.constructed })

def specialText? : Binary64 → Option String
  | .nan => some "NaN"
  | .infinite negative => some (if negative then "-∞" else "∞")
  | .finite .. => none

/-- The numeral of a value under options; none for a value that is not finite. -/
def numeral? (o : NumberOptions) : Binary64 → Option Numeral
  | .finite s x => o.digits s x
  | _ => none

def styleSuffix : NumberStyle → String
  | .decimal => ""
  | .percent => "%"

def scaled (n : Number) : Binary64 :=
  match n.options.style with
  | .decimal => n.value
  | .percent => n.value.scale 100

def formatNumber (n : Number) (c : FormatterTables source) :
    Except FormatError String × FormatterTables source :=
  let value := scaled n
  match specialText? value with
  | some text => (.ok (text ++ styleSuffix n.options.style), c)
  | none =>
    match numeral? n.options value with
    | none => (.error .unreadableNumber, c)
    | some numeral =>
      let (format, c) := c.decimalFormat n.options.useGrouping
      (format.map fun format => format.format numeral ++ styleSuffix n.options.style, c)

def formatInstant (t : Instant) (c : FormatterTables source) :
    Except FormatError String × FormatterTables source :=
  if !t.hasDate then (.error .timestampOutOfRange, c)
  else
    let date := t.utcDate
    if date.year < -9999 ∨ 9999 < date.year then (.error (.yearOutOfRange date.year), c)
    else
      let (format, c) := c.dateFormat t.options
      (format.map fun format => format.format date t.timeOfDay, c)

/-- The plural category of a number, classified by the digits it is shown with in decimal style. -/
def pluralCategory (n : Number) (c : FormatterTables source) :
    Except FormatError PluralCategory × FormatterTables source :=
  match specialText? n.value with
  | some _ => (.ok .other, c)
  | none =>
    match numeral? { n.options with style := .decimal } n.value with
    | none => (.error .unreadableNumber, c)
    | some numeral =>
      let (rules, c) := c.pluralRules n.options.pluralType
      (rules.map fun rules => rules.category (.ofNumeral numeral), c)

end FormatterTables

/-- A computation that may ask the formatters of a locale on its way to an answer.  How many were
made cannot be asked, so the answer does not depend on what was formatted before. -/
inductive Formatting (α : Type) where
  | done (answer : α)
  | locale (next : Locale → Formatting α)
  | pluralRules (type : PluralType) (next : Except FormatError PluralRules → Formatting α)
  | decimalFormat (grouping : Bool) (next : Except FormatError DecimalFormat → Formatting α)
  | number (n : Number) (next : Except FormatError String → Formatting α)
  | instant (t : Instant) (next : Except FormatError String → Formatting α)
  | category (n : Number) (next : Except FormatError PluralCategory → Formatting α)

def Formatting.run {α : Type} {source : FormatterSource} :
    Formatting α → FormatterTables source → α × FormatterTables source
  | .done a, c => (a, c)
  | .locale next, c => (next c.locale).run c
  | .pluralRules type next, c =>
    let (r, c) := c.pluralRules type
    (next r).run c
  | .decimalFormat grouping next, c =>
    let (r, c) := c.decimalFormat grouping
    (next r).run c
  | .number n next, c =>
    let (r, c) := c.formatNumber n
    (next r).run c
  | .instant t next, c =>
    let (r, c) := c.formatInstant t
    (next r).run c
  | .category n next, c =>
    let (r, c) := c.pluralCategory n
    (next r).run c

end Phrasebook
