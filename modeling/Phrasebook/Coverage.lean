import Phrasebook.Resource

/-!
# Coverage

How much of a source resource another resource, the target, covers: the ids that it lacks and the
ids that only it has, each once and in the order of their resource.
-/

namespace Phrasebook

def firstOccurrences : List String → List String → List String
  | _, [] => []
  | seen, n :: rest =>
    if seen.contains n then firstOccurrences seen rest else n :: firstOccurrences (n :: seen) rest

def Resource.uniqueMessageIds (r : Resource) : List String := firstOccurrences [] r.messageIds

structure Coverage where
  language : String
  /-- How many ids of the source the target has. -/
  covered : Nat
  missing : List String
  extra : List String
deriving DecidableEq

/-- Compare the ids of a target with those of the source. -/
def Coverage.compare (language : String) (source target : List String) : Coverage :=
  let missing := source.filter fun id => !target.contains id
  { language := language
    covered := source.length - missing.length
    missing := missing
    extra := target.filter fun id => !source.contains id }

end Phrasebook
