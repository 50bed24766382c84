/-!
# Ranges of code points

A character property is given as the ascending list of the closed ranges of code points that have
it.
-/

namespace Phrasebook.Text

abbrev Ranges := List (Nat × Nat)

def Ranges.has (ranges : Ranges) (c : Char) : Bool :=
  ranges.any fun r => r.1 ≤ c.toNat && c.toNat ≤ r.2

end Phrasebook.Text
