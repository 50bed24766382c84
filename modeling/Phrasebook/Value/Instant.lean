/-!
# Instants

A point in time in milliseconds from the start of 1970, shown in UTC under options that say how long
its date and its time of day are written.
-/

namespace Phrasebook

inductive Length where
  | full
  | long
  | medium
  | short
deriving DecidableEq

def Length.ofName? (name : String) : Option Length :=
  if name = "full" then some .full
  else if name = "long" then some .long
  else if name = "medium" then some .medium
  else if name = "short" then some .short
  else none

/-- With neither length, a short date is shown. -/
structure InstantOptions where
  date : Option Length := none
  time : Option Length := none
deriving DecidableEq

structure Instant where
  epochMillis : Int64
  options : InstantOptions := {}
deriving DecidableEq

namespace Instant

/-- The first and the last millisecond with a calendar date. -/
def firstMillis : Int := -8334601228800000

def lastMillis : Int := 8210266876799999

def hasDate (t : Instant) : Bool :=
  firstMillis ≤ t.epochMillis.toInt && t.epochMillis.toInt ≤ lastMillis

end Instant

end Phrasebook
