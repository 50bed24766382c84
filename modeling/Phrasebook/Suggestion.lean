import Phrasebook.Text.Distance

/-!
# Suggestions

For a name that is not found, the names that are closest to it: at most three, by distance and then
by name.
-/

namespace Phrasebook

/-- How far a suggestion may lie from a name: short names allow one edit, longer ones two. -/
def maxDistance (key : String) : Nat := if key.length ≤ 3 then 1 else 2

/-- A name and how far it lies from the one that was meant. -/
structure Candidate where
  distance : Nat
  name : String
deriving DecidableEq

namespace Candidate

/-- By distance, then by name. -/
def le (a b : Candidate) : Bool :=
  a.distance < b.distance || (a.distance == b.distance && !(b.name < a.name))

end Candidate

/-- Leave out an item that equals the one before it. -/
def dedupAdjacent {α : Type} [DecidableEq α] : List α → List α
  | [] => []
  | [a] => [a]
  | a :: b :: rest => if a = b then dedupAdjacent (b :: rest) else a :: dedupAdjacent (b :: rest)

/-- Up to three of the available names that are close to `key`, the closest first. -/
def suggestions (key : String) (available : List String) : List String :=
  let candidates := (available.filter (· != key)).map fun n => Candidate.mk (Text.distance key n) n
  let close := candidates.filter fun c => c.distance ≤ maxDistance key
  ((dedupAdjacent (close.mergeSort Candidate.le)).take 3).map Candidate.name

end Phrasebook
