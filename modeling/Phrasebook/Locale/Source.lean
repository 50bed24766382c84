import Phrasebook.Locale

/-!
# Whose data serve a locale

Data are kept by language and region.  A locale may name its region by one of its subdivisions.  A
script says nothing when the language is usually written in it; in any other script a language has
no data of its own.
-/

namespace Phrasebook

structure LocaleSource where
  language : String
  region : Option String := none
deriving DecidableEq

namespace LocaleSource

def root : LocaleSource := { language := "und" }

end LocaleSource

namespace Locale

/-- The region of a subdivision.  The code of a subdivision is that of its region and one to four
letters or digits more. -/
def regionOfSubdivision? (code : String) : Option String :=
  let cs := code.toList
  let size := if cs.head?.any isLetter then 2 else 3
  if hasShape 1 4 isLetterOrDigit (cs.drop size) then region? (cs.take size) else none

/-- The region of the subdivision that the keyword `sd` names. -/
def subdivisionRegion? (l : Locale) : Option String := (l.keyword? "sd").bind regionOfSubdivision?

def usualScript (language : String) : String :=
  match language with
  | "ar" => "Arab"
  | "hi" => "Deva"
  | "ru" => "Cyrl"
  | _ => "Latn"

/-- The regions whose Portuguese follows that of Portugal. -/
def portugueseRegions : List String :=
  ["AO", "CH", "CV", "FR", "GQ", "GW", "LU", "MO", "MZ", "ST", "TL"]

/-- A language as a region uses it, where some regions follow another one. -/
def sourceIn (language : String) (region : Option String) : LocaleSource :=
  if language == "pt" && region.any portugueseRegions.contains then ⟨"pt", some "PT"⟩
  else ⟨language, region⟩

/-- The source of the data for a locale.  Hindi in Latin letters follows the English of India. -/
def source (l : Locale) : LocaleSource :=
  if l.script.all (· == usualScript l.language) then
    sourceIn l.language (l.subdivisionRegion? <|> l.region)
  else if l.language == "hi" && l.script == some "Latn" then ⟨"en", some "IN"⟩
  else .root

/-- The locale is the root, and names nothing below it. -/
def isRoot (l : Locale) : Bool :=
  l.language == "und" && l.script.isNone && l.region.isNone && l.variants.isEmpty &&
    l.subdivisionRegion?.isNone

end Locale

end Phrasebook
