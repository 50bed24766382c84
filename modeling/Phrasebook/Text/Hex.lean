/-!
# Hexadecimal digits

Numbers in lower-case hexadecimal notation.
-/

namespace Phrasebook.Text

def hexDigit (n : Nat) : Char := Char.ofNat (if n < 10 then 48 + n else 87 + n)

/-- Lower-case hexadecimal digits of `n` in front of `tail`, at most `fuel` of them. -/
def hexPrepend : Nat → Nat → List Char → List Char
  | 0, _, tail => tail
  | fuel + 1, n, tail =>
    let tail := hexDigit (n % 16) :: tail
    if n < 16 then tail else hexPrepend fuel (n / 16) tail

/-- Hexadecimal digits of a number, without leading zeros. -/
def hexChars (n : Nat) : List Char := hexPrepend (n.log2 + 1) n []

end Phrasebook.Text
