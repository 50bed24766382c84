import Phrasebook.Locale.DateSymbols
import Phrasebook.Locale.Numbers
import Phrasebook.Value.Instant

/-!
# Dates in a locale

An instant has a date of the Gregorian calendar and a time of day in UTC.  A locale shows them by
patterns of fields.  Years before 1000 carry an era, and the year zero is the first year of the
earlier era.
-/

namespace Phrasebook

structure Date where
  year : Int
  month : Nat
  day : Nat
deriving DecidableEq

structure TimeOfDay where
  hour : Nat
  minute : Nat
  second : Nat
deriving DecidableEq

/-- The date of a day counted from the start of 1970.  Years are counted from March, so that the
leap day ends one; 146097 days are 400 years. -/
def Date.ofDays (days : Int) : Date :=
  let shifted := days + 719468
  let cycle := shifted.fdiv 146097
  let dayOfCycle := (shifted.fmod 146097).toNat
  let yearOfCycle :=
    (dayOfCycle - dayOfCycle / 1460 + dayOfCycle / 36524 - dayOfCycle / 146096) / 365
  let dayOfYear := dayOfCycle - (365 * yearOfCycle + yearOfCycle / 4 - yearOfCycle / 100)
  let fromMarch := (5 * dayOfYear + 2) / 153
  let month := if fromMarch < 10 then fromMarch + 3 else fromMarch - 9
  { year := (yearOfCycle : Int) + cycle * 400 + (if month ≤ 2 then 1 else 0)
    month := month
    day := dayOfYear - (153 * fromMarch + 2) / 5 + 1 }

def Instant.utcDate (t : Instant) : Date := Date.ofDays (t.epochMillis.toInt.fdiv 86400000)

def Instant.timeOfDay (t : Instant) : TimeOfDay :=
  let seconds := ((t.epochMillis.toInt.fmod 86400000).toNat) / 1000
  ⟨seconds / 3600, seconds / 60 % 60, seconds % 60⟩

/-- How a locale shows an instant: a date, or a date and a time of day. -/
structure DateFormat where
  symbols : DateSymbols
  numbers : NumberSymbols
  length : Length
  withTime : Bool
deriving DecidableEq

namespace DateFormat

/-- The time is as long as the date; a date that is not asked for is as long as the time. -/
def ofLocale (l : Locale) (o : InstantOptions) : DateFormat where
  symbols := .ofLocale l
  numbers := .ofLocale l
  length := (o.date <|> o.time).getD .short
  withTime := o.time.isSome

def showsEra (year : Int) : Bool := year < 1000

def yearOfEra (year : Int) : Nat := if year ≤ 0 then (1 - year).toNat else year.toNat

/-- One field of a date.  A short year has two digits when it is from 1950 to 2049. -/
def field (f : DateFormat) (months : List String) (d : Date) : DateField → String
  | .literal text => text
  | .day => f.numbers.count 1 d.day
  | .paddedDay => f.numbers.count 2 d.day
  | .month => f.numbers.count 1 d.month
  | .paddedMonth => f.numbers.count 2 d.month
  | .monthName => months.getD (d.month - 1) ""
  | .year => f.numbers.count 1 (yearOfEra d.year)
  | .shortYear =>
    if 1950 ≤ d.year ∧ d.year ≤ 2049 then f.numbers.count 2 (d.year.toNat % 100)
    else f.numbers.count 1 (yearOfEra d.year)

def date (f : DateFormat) (d : Date) : String :=
  let style := f.symbols.style f.length
  let text := String.join (style.fields.map (f.field style.months d))
  if showsEra d.year then
    let era := if d.year ≤ 0 then f.symbols.eras.2 else f.symbols.eras.1
    if f.symbols.eraFirst then era ++ text else text ++ era
  else text

/-- A time of day.  Where half days are counted, it tells which of them it is in. -/
def time (f : DateFormat) (t : TimeOfDay) : String :=
  let rest := ":" ++ f.numbers.count 2 t.minute ++ ":" ++ f.numbers.count 2 t.second
  let half := "\u202f" ++ (if t.hour < 12 then f.symbols.halves.1 else f.symbols.halves.2)
  let hour := t.hour % 12
  match f.symbols.hours with
  | .day => f.numbers.count f.symbols.hourDigits t.hour ++ rest
  | .halfDay => f.numbers.count 1 hour ++ rest ++ half
  | .clock => f.numbers.count 1 (if hour = 0 then 12 else hour) ++ rest ++ half

def format (f : DateFormat) (d : Date) (t : TimeOfDay) : String :=
  if f.withTime then f.date d ++ (f.symbols.style f.length).glue ++ f.time t else f.date d

end DateFormat

end Phrasebook
