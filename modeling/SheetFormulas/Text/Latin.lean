import SheetFormulas.Text.Caseless
import SheetFormulas.Text.Digit

/-!
The Basic Latin digits, and the characters that agree with a Basic Latin letter up to case.
-/

namespace SheetFormulas.Text

/-- Whether a character is one of the digits from 0 to 9. -/
def isLatinDigit (c : Char) : Bool := 0x30 ≤ c.toNat && c.toNat ≤ 0x39

/-- Whether a character agrees, up to case, with one of the letters from A to Z. -/
def isLatinLetter (c : Char) : Bool :=
  let key := (caselessKey c).toNat
  0x61 ≤ key && key ≤ 0x7a

/-- Whether a text is a row of Basic Latin digits. -/
def isLatinNumeral (text : List Char) : Bool := !text.isEmpty && text.all isLatinDigit

end SheetFormulas.Text
