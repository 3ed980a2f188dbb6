import SheetFormulas.Binary64.Nearest
import SheetFormulas.Text.Digit

/-!
Plain numerals: digits, a point, digits after it and an exponent.
-/

namespace SheetFormulas.Numeral

open Text

/-- The parts of a plain numeral. There are digits before or after the point. -/
structure Plain where
  whole : List Char
  point : Bool
  fraction : List Char
  /-- Whether the exponent is negative, and its digits. -/
  exponent : Option (Bool × List Char)

/-- The exponent at the end of a numeral: nothing, or `e`, a sign that may be missing, and digits.
`none` if the text is anything else. -/
def readExponent : List Char → Option (Option (Bool × List Char))
  | [] => some none
  | mark :: rest =>
    if mark = 'e' ∨ mark = 'E' then
      let (negative, digits) :=
        match rest with
        | '-' :: more => (true, more)
        | '+' :: more => (false, more)
        | more => (false, more)
      if !digits.isEmpty && digits.all isDigit then some (some (negative, digits)) else none
    else none

/-- Reads a plain numeral that is the whole text. -/
def readPlain (text : List Char) : Option Plain :=
  let whole := text.takeWhile isDigit
  let rest := text.dropWhile isDigit
  match rest with
  | '.' :: afterPoint =>
    let fraction := afterPoint.takeWhile isDigit
    if whole.isEmpty && fraction.isEmpty then none
    else (readExponent (afterPoint.dropWhile isDigit)).map fun exponent =>
      ⟨whole, true, fraction, exponent⟩
  | _ =>
    if whole.isEmpty then none
    else (readExponent rest).map fun exponent => ⟨whole, false, [], exponent⟩

namespace Plain

/-- The power of ten that the exponent stands for. -/
def exponentValue (p : Plain) : Int :=
  match p.exponent with
  | none => 0
  | some (negative, digits) =>
    if negative then -(digitsValue digits : Int) else digitsValue digits

/-- The double nearest to the numeral. -/
def toFloat (p : Plain) : Float :=
  Binary64.ofDecimal (digitsValue (p.whole ++ p.fraction)) (p.exponentValue - p.fraction.length)

end Plain

end SheetFormulas.Numeral
