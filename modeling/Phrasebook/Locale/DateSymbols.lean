import Phrasebook.Locale.Source
import Phrasebook.Value.Instant

/-!
# Names and patterns of dates

For each language: the order of the parts of a date in three lengths, the names of the months and of
the eras, and how the hours of a day are counted.
-/

namespace Phrasebook

/-! ## Patterns -/

inductive DateField where
  | literal (text : String)
  | day
  | paddedDay
  | month
  | paddedMonth
  | monthName
  | year
  | shortYear
deriving DecidableEq

inductive HourCount where
  /-- From 0 to 23. -/
  | day
  /-- Twice from 0 to 11. -/
  | halfDay
  /-- Twice from 12 over 1 to 11. -/
  | clock
deriving DecidableEq

/-- The count of hours that a value of the keyword `hc` names. -/
def HourCount.ofName? : String → Option HourCount
  | "h11" => some halfDay
  | "h12" => some clock
  | "h23" => some day
  | _ => none

/-- Patterns of one length: the date, the names of months in it, and what stands between the date
and a time of day. -/
structure DateStyle where
  fields : List DateField
  months : List String
  glue : String
deriving DecidableEq

namespace DateStyle

open DateField

/-- Day and month with two digits each, and the year, with a mark between them. -/
def padded (mark : String) (last : DateField) (glue : String) : DateStyle :=
  ⟨[paddedDay, literal mark, paddedMonth, literal mark, last], [], glue⟩

/-- The year first, then month and day with two digits each. -/
def yearFirst (glue : String) : DateStyle :=
  ⟨[year, literal "-", paddedMonth, literal "-", paddedDay], [], glue⟩

/-- The day, the name of the month, and the year, with a text between them. -/
def named (between : String) (months : List String) (glue : String) : DateStyle :=
  ⟨[day, literal between, monthName, literal between, year], months, glue⟩

end DateStyle

structure DateSymbols where
  short : DateStyle
  medium : DateStyle
  long : DateStyle
  /-- The names of the later and the earlier era, with what separates them from the date. -/
  eras : String × String
  /-- Whether the era stands before the date. -/
  eraFirst : Bool := false
  hours : HourCount := .day
  /-- The digits that an hour of the whole day has at least. -/
  hourDigits : Nat := 2
  /-- The names of the two halves of a day. -/
  halves : String × String := ("AM", "PM")
deriving DecidableEq

namespace DateSymbols

open DateField

/-! ## Names of months -/

def englishShort : List String :=
  ["Jan", "Feb", "Mar", "Apr", "May", "Jun", "Jul", "Aug", "Sep", "Oct", "Nov", "Dec"]

def britishShort : List String :=
  ["Jan", "Feb", "Mar", "Apr", "May", "Jun", "Jul", "Aug", "Sept", "Oct", "Nov", "Dec"]

def englishLong : List String :=
  ["January", "February", "March", "April", "May", "June", "July", "August", "September", "October",
    "November", "December"]

def germanLong : List String :=
  ["Januar", "Februar", "März", "April", "Mai", "Juni", "Juli", "August", "September", "Oktober",
    "November", "Dezember"]

def frenchShort : List String :=
  ["janv.", "févr.", "mars", "avr.", "mai", "juin", "juil.", "août", "sept.", "oct.", "nov.",
    "déc."]

def frenchLong : List String :=
  ["janvier", "février", "mars", "avril", "mai", "juin", "juillet", "août", "septembre", "octobre",
    "novembre", "décembre"]

def russianShort : List String :=
  ["янв.", "февр.", "мар.", "апр.", "мая", "июн.", "июл.", "авг.", "сент.", "окт.", "нояб.", "дек."]

def russianLong : List String :=
  ["января", "февраля", "марта", "апреля", "мая", "июня", "июля", "августа", "сентября", "октября",
    "ноября", "декабря"]

def polishShort : List String :=
  ["sty", "lut", "mar", "kwi", "maj", "cze", "lip", "sie", "wrz", "paź", "lis", "gru"]

def polishLong : List String :=
  ["stycznia", "lutego", "marca", "kwietnia", "maja", "czerwca", "lipca", "sierpnia", "września",
    "października", "listopada", "grudnia"]

def spanishShort : List String :=
  ["ene", "feb", "mar", "abr", "may", "jun", "jul", "ago", "sept", "oct", "nov", "dic"]

def spanishLong : List String :=
  ["enero", "febrero", "marzo", "abril", "mayo", "junio", "julio", "agosto", "septiembre",
    "octubre", "noviembre", "diciembre"]

def portugueseShort : List String :=
  ["jan.", "fev.", "mar.", "abr.", "mai.", "jun.", "jul.", "ago.", "set.", "out.", "nov.", "dez."]

def portugueseLong : List String :=
  ["janeiro", "fevereiro", "março", "abril", "maio", "junho", "julho", "agosto", "setembro",
    "outubro", "novembro", "dezembro"]

def swedishShort : List String :=
  ["jan.", "feb.", "mars", "apr.", "maj", "juni", "juli", "aug.", "sep.", "okt.", "nov.", "dec."]

def swedishLong : List String :=
  ["januari", "februari", "mars", "april", "maj", "juni", "juli", "augusti", "september",
    "oktober", "november", "december"]

def lithuanianLong : List String :=
  ["sausio", "vasario", "kovo", "balandžio", "gegužės", "birželio", "liepos", "rugpjūčio",
    "rugsėjo", "spalio", "lapkričio", "gruodžio"]

def slovenianShort : List String :=
  ["jan.", "feb.", "mar.", "apr.", "maj", "jun.", "jul.", "avg.", "sep.", "okt.", "nov.", "dec."]

def slovenianLong : List String :=
  ["januar", "februar", "marec", "april", "maj", "junij", "julij", "avgust", "september",
    "oktober", "november", "december"]

def arabicLong : List String :=
  ["يناير", "فبراير", "مارس", "أبريل", "مايو", "يونيو", "يوليو", "أغسطس", "سبتمبر", "أكتوبر",
    "نوفمبر", "ديسمبر"]

def hindiShort : List String :=
  ["जन॰", "फ़र॰", "मार्च", "अप्रैल", "मई", "जून", "जुल॰", "अग॰", "सित॰", "अक्टू॰", "नव॰", "दिस॰"]

def hindiLong : List String :=
  ["जनवरी", "फ़रवरी", "मार्च", "अप्रैल", "मई", "जून", "जुलाई", "अगस्त", "सितंबर", "अक्टूबर",
    "नवंबर", "दिसंबर"]

def welshShort : List String :=
  ["Ion", "Chwef", "Maw", "Ebr", "Mai", "Meh", "Gorff", "Awst", "Medi", "Hyd", "Tach", "Rhag"]

def welshLong : List String :=
  ["Ionawr", "Chwefror", "Mawrth", "Ebrill", "Mai", "Mehefin", "Gorffennaf", "Awst", "Medi",
    "Hydref", "Tachwedd", "Rhagfyr"]

def irishShort : List String :=
  ["Ean", "Feabh", "Márta", "Aib", "Beal", "Meith", "Iúil", "Lún", "MFómh", "DFómh", "Samh",
    "Noll"]

def irishLong : List String :=
  ["Eanáir", "Feabhra", "Márta", "Aibreán", "Bealtaine", "Meitheamh", "Iúil", "Lúnasa",
    "Meán Fómhair", "Deireadh Fómhair", "Samhain", "Nollaig"]

def rootMonths : List String :=
  ["M01", "M02", "M03", "M04", "M05", "M06", "M07", "M08", "M09", "M10", "M11", "M12"]

/-! ## Languages -/

def english : DateSymbols where
  short := ⟨[month, literal "/", day, literal "/", shortYear], [], ", "⟩
  medium := ⟨[monthName, literal " ", day, literal ", ", year], englishShort, ", "⟩
  long := ⟨[monthName, literal " ", day, literal ", ", year], englishLong, " at "⟩
  eras := (" AD", " BC")
  hours := .clock

def british : DateSymbols where
  short := .padded "/" year ", "
  medium := .named " " britishShort ", "
  long := .named " " englishLong " at "
  eras := (" AD", " BC")
  halves := ("am", "pm")

def australianEnglish : DateSymbols :=
  { british with
    short := ⟨[day, literal "/", month, literal "/", shortYear], [], ", "⟩
    hours := .clock }

def indianEnglish : DateSymbols :=
  { british with short := .padded "/" shortYear ", ", hours := .clock }

def german : DateSymbols where
  short := .padded "." shortYear ", "
  medium := .padded "." year ", "
  long := ⟨[day, literal ". ", monthName, literal " ", year], germanLong, " um "⟩
  eras := (" n. Chr.", " v. Chr.")

def austrian : DateSymbols :=
  { german with long := { german.long with months := "Jänner" :: germanLong.tail } }

def french : DateSymbols where
  short := .padded "/" year " "
  medium := .named " " frenchShort ", "
  long := .named " " frenchLong " à "
  eras := (" ap. J.-C.", " av. J.-C.")

def canadianFrench : DateSymbols :=
  { french with
    short := .yearFirst " "
    medium := { french.medium with months := frenchShort.set 6 "juill." } }

def russian : DateSymbols where
  short := .padded "." year ", "
  medium :=
    ⟨[day, literal " ", monthName, literal " ", year, literal "\u202fг."], russianShort, ", "⟩
  long :=
    ⟨[day, literal " ", monthName, literal " ", year, literal "\u202fг."], russianLong, " в "⟩
  eras := (" н. э.", " до н. э.")

def polish : DateSymbols where
  short := ⟨[day, literal ".", paddedMonth, literal ".", year], [], ", "⟩
  medium := .named " " polishShort ", "
  long := .named " " polishLong " o "
  eras := (" n.e.", " p.n.e.")

def spanish : DateSymbols where
  short := ⟨[day, literal "/", month, literal "/", shortYear], [], ", "⟩
  medium := .named " " spanishShort ", "
  long := .named " de " spanishLong ", "
  eras := (" d.\u00a0C.", " a.\u00a0C.")
  hourDigits := 1

def portuguese : DateSymbols where
  short := .padded "/" year ", "
  medium := .named " de " portugueseShort ", "
  long := .named " de " portugueseLong " às "
  eras := (" d.C.", " a.C.")

def europeanPortuguese : DateSymbols :=
  { portuguese with short := .padded "/" shortYear ", ", medium := .padded "/" year ", " }

def swedish : DateSymbols where
  short := .yearFirst " "
  medium := .named " " swedishShort " "
  long := .named " " swedishLong " kl. "
  eras := (" e.Kr.", " f.Kr.")

def lithuanian : DateSymbols where
  short := .yearFirst " "
  medium := .yearFirst " "
  long :=
    ⟨[year, literal " m. ", monthName, literal " ", day, literal " d."], lithuanianLong, " "⟩
  eras := (" po Kr.", " pr. Kr.")

def slovenian : DateSymbols where
  short := ⟨[day, literal ". ", paddedMonth, literal ". ", shortYear], [], ", "⟩
  medium := ⟨[day, literal ". ", monthName, literal " ", year], slovenianShort, ", "⟩
  long := ⟨[day, literal ". ", monthName, literal " ", year], slovenianLong, " ob "⟩
  eras := (" po Kr.", " pr. Kr.")

def arabic : DateSymbols where
  short := ⟨[day, literal "\u200f/", month, literal "\u200f/", year], [], "، "⟩
  medium := .padded "\u200f/" year "، "
  long := .named " " arabicLong " في "
  eras := (" م", " ق.م")
  hours := .clock
  halves := ("ص", "م")

def hindi : DateSymbols where
  short := ⟨[day, literal "/", month, literal "/", shortYear], [], ", "⟩
  medium := .named " " hindiShort ", "
  long := .named " " hindiLong " को "
  eras := (" ईस्वी", " ईसा-पूर्व")
  hours := .clock
  halves := ("am", "pm")

def welsh : DateSymbols where
  short := .padded "/" shortYear " "
  medium := .named " " welshShort " "
  long := .named " " welshLong " am "
  eras := (" OC", " CC")

def irish : DateSymbols where
  short := .padded "/" year " "
  medium := .named " " irishShort " "
  long := .named " " irishLong " "
  eras := (" AD", " RC")

def root : DateSymbols where
  short := .yearFirst " "
  medium := ⟨[year, literal " ", monthName, literal " ", day], rootMonths, " "⟩
  long := ⟨[year, literal " ", monthName, literal " ", day], rootMonths, " "⟩
  eras := ("CE ", "BCE ")
  eraFirst := true

/-! ## Locales -/

def ofSource (source : LocaleSource) : DateSymbols :=
  match source.language, source.region with
  | "en", some "AU" => australianEnglish
  | "en", some "GB" => british
  | "en", some "IE" => british
  | "en", some "IN" => indianEnglish
  | "en", _ => english
  | "de", some "AT" => austrian
  | "de", _ => german
  | "fr", some "CA" => canadianFrench
  | "fr", _ => french
  | "ru", _ => russian
  | "pl", _ => polish
  | "es", _ => spanish
  | "pt", some "PT" => europeanPortuguese
  | "pt", _ => portuguese
  | "sv", _ => swedish
  | "lt", _ => lithuanian
  | "sl", _ => slovenian
  | "ar", _ => arabic
  | "hi", _ => hindi
  | "cy", _ => welsh
  | "ga", _ => irish
  | _, _ => root

/-- Symbols of a locale, whose `hc` keyword may ask for another count of hours. -/
def ofLocale (l : Locale) : DateSymbols :=
  let symbols := ofSource l.source
  { symbols with hours := ((l.keyword? "hc").bind HourCount.ofName?).getD symbols.hours }

def style (y : DateSymbols) : Length → DateStyle
  | .full | .long => y.long
  | .medium => y.medium
  | .short => y.short

end DateSymbols

end Phrasebook
