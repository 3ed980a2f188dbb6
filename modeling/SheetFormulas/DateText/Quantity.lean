import SheetFormulas.DateText.Token
import SheetFormulas.Decimal.Significant
import SheetFormulas.Number.Text

/-!
Numbers in date texts: digits and at most one point, with the exact value. Fractions of hours and
minutes are turned into the next smaller unit with 28 significant digits.
-/

namespace SheetFormulas.DateText

open Text

/-- Why a date text is not read. -/
inductive Unread where
  | notDate
  /-- A number with a remainder that has more digits than the arithmetic of remainders. -/
  | remainderTooLong
  /-- A year without its century that comes to lie before the first year of all. -/
  | negativeYear
  deriving DecidableEq

/-- A step of reading a date text. -/
abbrev Reader (α : Type) := Except Unread α

def notDate {α : Type} : Reader α := .error .notDate

/-- What an optional part holds; without it the text is given up. -/
def required {α : Type} : Option α → Reader α
  | some a => .ok a
  | none => notDate

/-- A number in decimal: the digits without the point, and how many stand after it. -/
structure Quantity where
  digits : Nat
  places : Nat

namespace Quantity

def whole (q : Quantity) : Nat := q.digits / tenTo q.places

/-- The numerator of the fraction after the whole part. -/
def remainder (q : Quantity) : Nat := q.digits % tenTo q.places

def exceeds (q : Quantity) (n : Nat) : Bool := n * tenTo q.places < q.digits

def isFrom1To (q : Quantity) (n : Nat) : Bool := tenTo q.places ≤ q.digits && !q.exceeds n

/-- A quotient with 28 significant digits, as a quotient. -/
def rounded (num den : Nat) : Nat × Nat :=
  let s := Decimal.significant 28 num den
  Decimal.shifted s.digits 1 (s.exponent - 27)

/-- Sixty times the fraction after the whole part, without its own fraction; none if there is no
fraction. -/
def sixtieths? (q : Quantity) : Reader (Option Nat) :=
  if tenTo 28 ≤ q.whole then .error .remainderTooLong
  else if q.remainder = 0 then .ok none
  else
    let (num, den) := rounded q.remainder (tenTo q.places)
    let (num, den) := rounded (60 * num) den
    .ok (some (num / den))

end Quantity

namespace Token

/-- The number that a token writes down. -/
def quantity? (token : Token) : Option Quantity :=
  let whole := token.takeWhile isDigit
  if whole.isEmpty then none
  else
    match token.dropWhile isDigit with
    | [] => some ⟨digitsValue whole, 0⟩
    | '.' :: fraction =>
      if fraction.all isDigit then some ⟨digitsValue (whole ++ fraction), fraction.length⟩
      else none
    | _ => none

def after (token : Token) (start : Nat) : Token := token.drop start

def part (token : Token) (start count : Nat) : Token := (token.after start).take count

/-- Whether a token is a word for infinity or for no number. -/
def isNumberWord (token : Token) : Bool :=
  let word := String.ofList (token.map Char.toLower)
  word == "inf" || word == "infinity" || word == "nan"

def isDigits (token : Token) : Bool := !token.isEmpty && token.all isDigitLike

/-- The whole number that a token writes down. -/
def int (token : Token) : Reader Nat :=
  if !token.isEmpty && token.all isDigit && token.length ≤ Number.digitLimit then
    .ok (digitsValue token)
  else notDate

/-- Seconds and microseconds of a token; digits after the sixth place are cut off. -/
def secondsOf (token : Token) : Reader (Nat × Nat) :=
  if token.contains '.' then do
    let seconds ← int (token.takeWhile (· != '.'))
    let fraction := (token.dropWhile (· != '.')).tail
    if fraction.contains '.' then notDate
    else
      let padded := (fraction ++ List.replicate (6 - fraction.length) '0').take 6
      return (seconds, ← int padded)
  else do return (← int token, 0)

end Token

end SheetFormulas.DateText
