import Phrasebook.Text.Combining
import Phrasebook.Text.Hex
import Phrasebook.Text.Ignorable
import Phrasebook.Text.Printable

/-!
# Quoted text

Text shown inside a report stands between quotes, on one line, and with everything visible: what
cannot be seen, or would attach to the character before it, is written as its code point.
-/

namespace Phrasebook.Text

def quoteChar (c : Char) : List Char :=
  if c = '"' then ['\\', '"']
  else if c = '\\' then ['\\', '\\']
  else if c = '\n' then ['\\', 'n']
  else if c = '\r' then ['\\', 'r']
  else if c = '\t' then ['\\', 't']
  else if c = '\x00' then ['\\', '0']
  else if isCombining c || isIgnorable c || !isPrintable c then
    ['\\', 'u', '\x7b'] ++ hexChars c.toNat ++ ['\x7d']
  else [c]

def quote (s : String) : String :=
  String.ofList ('"' :: s.toList.flatMap quoteChar ++ ['"'])

end Phrasebook.Text
