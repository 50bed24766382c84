import Phrasebook.Pattern.Writing
import Phrasebook.Resource

/-!
# Resources as JSON

An entry always has its `value`, which is `null` when absent, and has `attributes` only when there
are any.
-/

namespace Phrasebook

def Entry.toJson (e : Entry) : Json :=
  .object
    (("id", .string e.id) :: ("value", (e.value.map Pattern.toJson).getD .null) ::
      if e.attributes.isEmpty then []
      else [("attributes", .object (e.attributes.mapValues Pattern.toJson).toList)])

def Resource.toJson (r : Resource) : Json := .object [("body", .array (r.body.map Entry.toJson))]

end Phrasebook
