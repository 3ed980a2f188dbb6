import SheetFormulas.Numeral.Mantissa
import SheetFormulas.Number.Text
import SheetFormulas.Text.Blank
import SheetFormulas.Text.Quoted
import SheetFormulas.Text.Search

/-!
Numbers written in a cell: a sign, a currency mark, groups of digits, a fraction, an exponent,
percent signs, and parentheses around a negative number.
-/

namespace SheetFormulas.Numeral

open Text

/-- The separators of a numeral, and whether blanks and groups are checked. -/
structure Convention where
  decimal : List Char
  group : List Char
  /-- Blanks are allowed in few places only, and groups have three digits. Otherwise blanks are
  ignored everywhere and group separators anywhere before the decimal separator. -/
  strict : Bool

/-- A point before the fraction and commas between groups of three digits. -/
def Convention.cell : Convention := ⟨['.'], [','], true⟩

/-- Why a text is no numeral. -/
inductive Flaw where
  | empty
  | emptySeparator
  | groupAfterDecimal
  | misplacedGroup
  | notNumeral
  /-- A numeral without separator or exponent that is no whole number. -/
  | notWhole (body : List Char)
  | tooManyDigits (count : Nat)
  /-- The number of percent signs is too large for the divisor to be a double. -/
  | tooManyPercents
  deriving DecidableEq

def Flaw.message (text : String) : Flaw → String
  | empty => "empty text"
  | emptySeparator => "empty separator"
  | groupAfterDecimal => "group separator after decimal separator: " ++ quoted text
  | misplacedGroup => "misplaced group separator: " ++ quoted text
  | notNumeral => "not a number: " ++ quoted text
  | notWhole body =>
    "invalid literal for int() with base 10: " ++
      String.ofList ((quoted (String.ofList body)).toList.take 200)
  | tooManyDigits count =>
    "Exceeds the limit (4300 digits) for integer string conversion: value has " ++ count.repr ++
      " digits; use sys.set_int_max_str_digits() to increase the limit"
  | tooManyPercents => "too many percent signs"

/-- Takes a sign and the blanks after it off a text; a minus sign turns `negative` over. -/
def takeSign (negative : Bool) : List Char → Bool × List Char
  | '-' :: rest => (!negative, trimLeft rest)
  | '+' :: rest => (negative, trimLeft rest)
  | text => (negative, text)

/-- Takes a currency mark off a text, with the blanks and the sign after it. -/
def takeCurrency (negative : Bool) : List Char → Bool × List Char
  | '$' :: rest => takeSign negative (trimLeft rest)
  | text => (negative, text)

/-- Takes the parentheses of a negative number off a text. -/
def takeParentheses (text : List Char) : Bool × List Char :=
  if text.head? = some '(' ∧ text.getLast? = some ')' then (true, trim text.tail.dropLast)
  else (false, text)

/-- Whether a character belongs to the run of percent signs at the end. -/
def isPercentOrBlank (c : Char) : Bool := c == '%' || isBlank c

/-- Takes the percent signs at the end off a text, with the blanks before each of them, and counts
them. The text does not end with a blank. -/
def takePercents (text : List Char) : Nat × List Char :=
  let reversed := text.reverse
  ((reversed.takeWhile isPercentOrBlank).count '%', (reversed.dropWhile isPercentOrBlank).reverse)

/-- One place in a run of groups: a given character or any digit. -/
inductive Place where
  | char (c : Char)
  | digit

/-- Whether a character may stand in a place. -/
def Place.admits : Place → Char → Bool
  | char c, d => c == d
  | digit, d => isDigit d

/-- Whether a text fills the pending places and then the group's places any number of times. -/
def fillsGroups (group : List Place) : List Place → List Char → Bool
  | [], [] => true
  | _ :: _, [] => false
  | place :: pending, c :: rest => place.admits c && fillsGroups group pending rest
  | [], c :: rest =>
    match group with
    | place :: pending => place.admits c && fillsGroups group pending rest
    | [] => false

/-- Whether a text is one to three digits followed by one or more groups, each a separator and three
digits. -/
def isGrouped (separator text : List Char) : Bool :=
  let group := separator.map Place.char ++ [.digit, .digit, .digit]
  [1, 2, 3].any fun count =>
    count < text.length && (text.take count).all isDigit && fillsGroups group [] (text.drop count)

/-- The text before the mark of an exponent. -/
def beforeExponent (text : List Char) : List Char :=
  text.takeWhile fun c => c != 'e' && c != 'E'

/-- Checks the group separators and takes them out: the digits before the decimal separator. -/
def withoutGroups (convention : Convention) (whole fraction : List Char) :
    Except Flaw (List Char) :=
  let separator := convention.group
  if separator.isEmpty then .ok whole
  else if occursIn separator fraction then .error .groupAfterDecimal
  else if occursIn separator whole then
    if convention.strict && !isGrouped separator (beforeExponent whole) then .error .misplacedGroup
    else .ok (eraseAll separator whole)
  else .ok whole

/-- The number of an unsigned numeral without percent signs or separators: whole if it has neither a
decimal separator nor an exponent and no double is asked for. -/
def plainNumber (isFloat : Bool) (body : List Char) : Except Flaw Number :=
  match readPlain body with
  | none => .error .notNumeral
  | some plain =>
    if isFloat || plain.exponent.isSome then .ok (.float plain.toFloat)
    else if plain.point then .error (.notWhole body)
    else if Number.digitLimit < plain.whole.length then
      .error (.tooManyDigits plain.whole.length)
    else .ok (.int (digitsValue plain.whole))

/-- A number divided by one hundred for each percent sign. -/
def dividePercents (percents : Nat) (number : Number) : Except Flaw Number :=
  if percents = 0 then .ok number
  else
    match number.div (.int (tenTo (2 * percents))) with
    | .ok x => .ok (.float x)
    | .error _ => .error .tooManyPercents

/-- The number of an unsigned numeral. -/
def unsignedNumber (convention : Convention) (percents : Nat) (text : List Char) :
    Except Flaw Number := do
  if convention.decimal.isEmpty then throw .emptySeparator
  let split := splitAtFirst convention.decimal text
  let (whole, fraction) := split.getD (text, [])
  let whole ← withoutGroups convention whole fraction
  let body := if split.isSome then whole ++ '.' :: fraction else whole
  dividePercents percents (← plainNumber (split.isSome || 0 < percents) body)

def read (convention : Convention) (text : List Char) : Except Flaw Number := do
  let text := if convention.strict then trim text else text.filter (!isBlank ·)
  if text.isEmpty then throw .empty
  let (negative, text) := takeParentheses text
  let (percents, text) := takePercents text
  let (negative, text) := takeSign negative text
  let (negative, text) := takeCurrency negative text
  let number ← unsignedNumber convention percents text
  return if negative then number.neg else number

end SheetFormulas.Numeral
