import SheetFormulas.Text.Printable

/-!
Texts in quotes, as messages show them. Single quotes are used unless the text holds a single quote
and no double quote; the quote in use and the backslash are escaped, and so is what cannot be
printed.
-/

namespace SheetFormulas.Text

/-- A number in hexadecimal with at least `width` digits. -/
def hexText (width n : Nat) : List Char :=
  let digits := Nat.toDigits 16 n
  List.replicate (width - digits.length) '0' ++ digits

/-- One character of a quoted text. -/
def quoteChar (quote c : Char) : List Char :=
  let code := c.toNat
  if c = quote ∨ c = '\\' then ['\\', c]
  else if c = '\n' then ['\\', 'n']
  else if c = '\r' then ['\\', 'r']
  else if c = '\t' then ['\\', 't']
  else if isPrintable c then [c]
  else if code < 0x100 then '\\' :: 'x' :: hexText 2 code
  else if code < 0x10000 then '\\' :: 'u' :: hexText 4 code
  else '\\' :: 'U' :: hexText 8 code

def quoted (text : String) : String :=
  let chars := text.toList
  let quote := if chars.contains '\x27' && !chars.contains '\x22' then '\x22' else '\x27'
  String.ofList (quote :: chars.flatMap (quoteChar quote) ++ [quote])

end SheetFormulas.Text
