/-!
# Edit distance

The least number of insertions, deletions and replacements of single characters that turn one text
into another, computed row by row.
-/

namespace Phrasebook.Text

/-- The next row of distances.  `above` is the previous row from its second entry on, `diagonal` its
entry before that, `left` the entry just computed. -/
def nextRow (c : Char) (diagonal left : Nat) : List Char → List Nat → List Nat
  | d :: ds, up :: above =>
    let here := min (min (up + 1) (left + 1)) (diagonal + if c = d then 0 else 1)
    here :: nextRow c up here ds above
  | _, _ => []

/-- Distances from the characters read so far to every beginning of `target`, after the rest of the
source has been read. -/
def distanceRows (target : List Char) : List Char → List Nat → List Nat
  | c :: cs, first :: row =>
    distanceRows target cs ((first + 1) :: nextRow c first (first + 1) target row)
  | _, row => row

def distance (source target : String) : Nat :=
  let start := List.range (target.toList.length + 1)
  (distanceRows target.toList source.toList start).getLastD 0

end Phrasebook.Text
