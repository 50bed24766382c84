import Phrasebook.Coverage
import Phrasebook.Numeric.Shortest
import Phrasebook.Text.Width

/-!
# The coverage table

Coverage is shown as a table with a border, a header, and one row for each target.  The first
column begins at its left edge and all others end at their right edge.
-/

namespace Phrasebook

structure TextTable where
  header : List String
  rows : List (List String)

namespace TextTable

def cellLines (cell : String) : List String := (cell.toList.splitOn '\n').map String.ofList

def cellWidth (cell : String) : Nat := ((cellLines cell).map Text.width).foldl max 0

def widest (a b : List Nat) : List Nat := List.zipWith max a b

def widths (t : TextTable) : List Nat :=
  (t.rows.map fun row => row.map cellWidth).foldl widest (t.header.map cellWidth)

def run (c : Char) (n : Nat) : String := String.ofList (List.replicate n c)

/-- Text in a column of a width, at its left or at its right edge. -/
def justify (right : Bool) (columns : Nat) (text : String) : String :=
  let gap := run ' ' (columns - Text.width text)
  " " ++ (if right then gap ++ text else text ++ gap) ++ " "

def cellLine (rights : List Bool) (columns : List Nat) (texts : List String) : String :=
  let cells := (rights.zip (columns.zip texts)).map fun c => justify c.1 c.2.1 c.2.2
  "│" ++ " ".intercalate cells ++ "│"

/-- The lines of a row: as many as its tallest cell has. -/
def rowLines (rights : List Bool) (columns : List Nat) (row : List String) : List String :=
  let cells := row.map cellLines
  let height := (cells.map List.length).foldl max 0
  (List.range height).map fun i => cellLine rights columns (cells.map fun c => c.getD i "")

def border (left line right : Char) (columns : List Nat) : String :=
  let inside := columns.foldl (fun n w => n + w + 2) 0 + (columns.length - 1)
  String.singleton left ++ run line inside ++ String.singleton right

/-- The lines of a table; `rights` says which columns end at their right edge. -/
def lines (rights : List Bool) (t : TextTable) : List String :=
  let columns := t.widths
  border '┌' '─' '┐' columns :: rowLines rights columns t.header ++
    border '╞' '═' '╡' columns :: (t.rows.flatMap (rowLines rights columns)) ++
    [border '└' '─' '┘' columns]

end TextTable

/-- A share in whole percents; of nothing, everything is there. -/
def percentText (part total : Nat) : String :=
  if total = 0 then "100%"
  else
    match ((Binary64.ofNat part).scale 100).div (Binary64.ofNat total) with
    | .finite s x => (x.fixed s 0).text ++ "%"
    | x => x.plainText ++ "%"

def Coverage.row (total : Nat) (c : Coverage) : List String :=
  [c.language, digitsText c.covered ++ "/" ++ digitsText total, percentText c.covered total,
    digitsText c.missing.length, digitsText c.extra.length]

/-- The lines of the table for a source with `total` ids. -/
def coverageLines (total : Nat) (cs : List Coverage) : List String :=
  TextTable.lines [false, true, true, true, true]
    ⟨["Language", "Coverage", "Percent", "Missing", "Extra"], cs.map (Coverage.row total)⟩

end Phrasebook
