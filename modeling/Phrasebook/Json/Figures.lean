import Phrasebook.Json

/-!
# Numbers in figures

A number with a fraction or an exponent is a binary64 value. Which one, its figures alone decide:
the digits around the point and the power of ten behind them.
-/

namespace Phrasebook.Json

/-- A number without its sign, as it stands in a text.  A power of zero is not written. -/
structure Figures where
  integer : List Digit
  fraction : List Digit := []
  power : Int := 0

def Figures.decimal (f : Figures) : Decimal :=
  ⟨Digit.value (f.integer ++ f.fraction), f.power - f.fraction.length⟩

/-- Which magnitude figures are read as; there is none if they are out of range. -/
class NumberSource where
  magnitude? : Figures → Option Magnitude

/-- The magnitude nearest to what is written. -/
instance NumberSource.nearest : NumberSource where
  magnitude? f :=
    match Binary64.ofDecimal false f.decimal with
    | .finite _ x => some x
    | _ => none

end Phrasebook.Json
