/-!
# Bytes of a text

How many bytes characters take in UTF-8.
-/

namespace Phrasebook.Text

def byteSize : List Char → Nat
  | [] => 0
  | c :: cs => c.utf8Size + byteSize cs

end Phrasebook.Text
