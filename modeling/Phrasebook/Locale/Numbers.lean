import Phrasebook.Locale.Source
import Phrasebook.Numeric.Decimal

/-!
# Numbers in a locale

A numeral is shown with the digits, the minus sign, the decimal mark and the group separators of a
locale.  Groups are counted from the decimal mark: the first has three digits, the others three or,
in India, two.  Short integers are not grouped, and how short depends on the locale.
-/

namespace Phrasebook

structure NumberSymbols where
  group : String := ","
  decimal : String := "."
  minus : String := "-"
  /-- Digits that must stand before the first separator. -/
  minimumGrouping : Nat := 1
  /-- Digits in each group but the first. -/
  groupSize : Nat := 3
  /-- The code point of the digit zero. -/
  zero : Nat := 0x30
deriving DecidableEq

namespace NumberSymbols

def arabicLatin : NumberSymbols := { minus := "\u200e-" }

def arabicIndic : NumberSymbols :=
  { group := "\u066c", decimal := "\u066b", minus := "\u061c-", zero := 0x660 }

def ofSource (source : LocaleSource) : NumberSymbols :=
  match source.language, source.region with
  | "en", some "IN" => { groupSize := 2 }
  | "de", some "AT" => { group := "\u00a0", decimal := "," }
  | "de", some "CH" => { group := "'" }
  | "de", _ => { group := ".", decimal := "," }
  | "fr", some "CA" => { group := "\u00a0", decimal := "," }
  | "fr", _ => { group := "\u202f", decimal := "," }
  | "ru", _ => { group := "\u00a0", decimal := "," }
  | "pl", _ => { group := "\u00a0", decimal := ",", minimumGrouping := 2 }
  | "pt", some "PT" => { group := "\u00a0", decimal := ",", minimumGrouping := 2 }
  | "pt", _ => { group := ".", decimal := "," }
  | "es", _ => { group := ".", decimal := ",", minimumGrouping := 2 }
  | "sv", _ => { group := "\u00a0", decimal := ",", minus := "\u2212" }
  | "lt", _ => { group := "\u00a0", decimal := ",", minus := "\u2212" }
  | "sl", _ => { group := ".", decimal := ",", minus := "\u2212", minimumGrouping := 2 }
  | "ar", some "EG" => arabicIndic
  | "ar", _ => arabicLatin
  | "hi", _ => { groupSize := 2 }
  | _, _ => {}

/-- Numbering systems by name, each with its digit zero. -/
def digitSystems : List (String × Nat) :=
  [("arab", 0x660), ("arabext", 0x6f0), ("beng", 0x9e6), ("deva", 0x966), ("gujr", 0xae6),
   ("guru", 0xa66), ("khmr", 0x17e0), ("knda", 0xce6), ("laoo", 0xed0), ("latn", 0x30),
   ("mlym", 0xd66), ("mymr", 0x1040), ("orya", 0xb66), ("tamldec", 0xbe6), ("telu", 0xc66),
   ("thai", 0xe50), ("tibt", 0xf20)]

/-- The symbols that a language has for one numbering system and not for others. -/
def ofSystem? (language system : String) : Option NumberSymbols :=
  match language, system with
  | "ar", "latn" => some arabicLatin
  | "ar", "arab" => some arabicIndic
  | _, _ => none

/-- Symbols of a locale, whose `nu` keyword may ask for a numbering system.  Where the language has
no symbols for that system, only the digits change. -/
def ofLocale (l : Locale) : NumberSymbols :=
  let symbols := ofSource l.source
  match l.keyword? "nu" with
  | none => symbols
  | some system =>
    (ofSystem? l.source.language system).getD
      { symbols with zero := (digitSystems.lookup system).getD symbols.zero }

def digit (y : NumberSymbols) (d : Digit) : Char := Char.ofNat (y.zero + d.val)

/-- A count in the digits of the locale, with at least `width` of them. -/
def count (y : NumberSymbols) (width n : Nat) : String :=
  let ds := Digit.ofNat n
  String.ofList ((List.replicate (width - ds.length) Digit.zero ++ ds).map y.digit)

/-- Whether a separator stands before a digit that `below` digits follow or are. -/
def separates (y : NumberSymbols) (below : Nat) : Bool :=
  3 ≤ below && (below - 3) % y.groupSize == 0

/-- Integer digits with separators before those that end a group; a digit that opens the number has
none. -/
def groupDigits (y : NumberSymbols) : List Digit → List Char
  | [] => []
  | [d] => [y.digit d]
  | d :: ds =>
    y.digit d :: (if y.separates ds.length then y.group.toList else []) ++ y.groupDigits ds

end NumberSymbols

/-- How a locale shows numerals, with or without groups. -/
structure DecimalFormat where
  symbols : NumberSymbols
  grouping : Bool
deriving DecidableEq

namespace DecimalFormat

def ofLocale (l : Locale) (grouping : Bool) : DecimalFormat := ⟨.ofLocale l, grouping⟩

def integer (f : DecimalFormat) (ds : List Digit) : List Char :=
  if f.grouping && 3 + f.symbols.minimumGrouping ≤ ds.length then f.symbols.groupDigits ds
  else ds.map f.symbols.digit

def format (f : DecimalFormat) (x : Numeral) : String :=
  (if x.negative then f.symbols.minus else "") ++ String.ofList (f.integer x.integer) ++
    if x.fraction.isEmpty then ""
    else f.symbols.decimal ++ String.ofList (x.fraction.map f.symbols.digit)

end DecimalFormat

end Phrasebook
