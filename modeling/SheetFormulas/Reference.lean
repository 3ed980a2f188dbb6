import SheetFormulas.Number.Text
import SheetFormulas.Text.Blank
import SheetFormulas.Text.Latin
import SheetFormulas.Text.Search
import SheetFormulas.Text.Uppercase
import SheetFormulas.Value.Coercion

/-!
References to cells of a sheet, as text. A cell is written with letters for its column and a number
for its row, or with two numbers; a range has two cells; a sheet name may come first.
`Reference.read` accepts every spelling and `Reference.written` is the canonical one.
-/

namespace SheetFormulas

/-- A cell of a sheet, by its row and column, both counted from one. -/
structure Cell where
  row : Nat
  column : Nat
  deriving DecidableEq

/-- The ways to write a cell. -/
inductive Cell.Style where
  /-- Column letters and a row number, each after an optional dollar sign: `B7`. -/
  | lettered
  /-- A row number and a column number: `R7C2`. -/
  | numbered
  deriving DecidableEq

/-- One cell, or the range from one cell to another, on a sheet that may be named. -/
structure Reference where
  sheet : Option (List Char)
  first : Cell
  last : Option Cell
  deriving DecidableEq

namespace Cell

def rowLimit : Nat := 1048576

def columnLimit : Nat := 16384

def isOnSheet (cell : Cell) : Bool :=
  1 ≤ cell.row && cell.row ≤ rowLimit && 1 ≤ cell.column && cell.column ≤ columnLimit

/-- The number of a column letter, counted from one. -/
def letterNumber? (c : Char) : Option Nat :=
  if 'A'.toNat ≤ c.toNat ∧ c.toNat ≤ 'Z'.toNat then some (c.toNat - 'A'.toNat + 1) else none

/-- The number of a column: its letters are digits from 1 to 26 in base 26. -/
def columnNumber? (letters : List Char) : Option Nat :=
  letters.foldlM (fun number c => (letterNumber? c).map (number * 26 + ·)) 0

/-- The letters of a column. -/
def columnLetters (number : Nat) : List Char :=
  if number = 0 then []
  else
    columnLetters ((number - 1) / 26) ++ [Char.ofNat ('A'.toNat + (number - 1) % 26)]
termination_by number
decreasing_by omega

/-- A text without a dollar sign in front. -/
def dropDollar : List Char → List Char
  | '$' :: rest => rest
  | text => text

/-- The letters and the digits of a cell with column letters. -/
def letteredParts? (text : List Char) : Option (List Char × List Char) :=
  let text := dropDollar text
  let letters := text.takeWhile Text.isLatinLetter
  let digits := dropDollar (text.drop letters.length)
  if 1 ≤ letters.length ∧ letters.length ≤ 3 ∧ Text.isLatinNumeral digits then
    some (letters, digits)
  else none

/-- A text without a letter in front, in either case, if that letter is there. -/
def dropLetter? (letter : Char) : List Char → Option (List Char)
  | c :: rest => if Text.caselessKey c = letter then some rest else none
  | [] => none

/-- The row digits and the column digits of a cell with two numbers. -/
def numberedParts? (text : List Char) : Option (List Char × List Char) := do
  let text ← dropLetter? 'r' text
  let row := text.takeWhile Text.isLatinDigit
  let column ← dropLetter? 'c' (text.drop row.length)
  if Text.isLatinNumeral row && Text.isLatinNumeral column then some (row, column) else none

/-- The number that a row of digits writes down. It fails where there are too many digits. -/
def readNumber (digits : List Char) : Outcome Nat :=
  if digits.length ≤ Number.digitLimit then .ok (Text.digitsValue digits) else fail .invalid

/-- The cell that a text writes down, whether or not it lies on a sheet. Blanks around it do not
count. -/
def readAnywhere (style : Style) (text : List Char) : Outcome Cell := do
  match style with
  | .lettered =>
    match letteredParts? (Text.trim text) with
    | none => refuse (.malformedReference (String.ofList text))
    | some (letters, digits) =>
      match columnNumber? (Text.upper letters) with
      | none => refuse (.badColumn (String.ofList text))
      | some column => return ⟨← readNumber digits, column⟩
  | .numbered =>
    match numberedParts? (Text.trim text) with
    | none => refuse (.malformedReference (String.ofList text))
    | some (row, column) => return ⟨← readNumber row, ← readNumber column⟩

/-- The cell of a sheet that a text writes down. -/
def read (style : Style) (text : List Char) : Outcome Cell := do
  let cell ← readAnywhere style text
  if cell.isOnSheet then return cell else refuse (.outsideGrid (String.ofList text))

/-- The canonical text of a cell. -/
def written (style : Style) (cell : Cell) : List Char :=
  match style with
  | .lettered => columnLetters cell.column ++ Nat.toDigits 10 cell.row
  | .numbered => 'R' :: Nat.toDigits 10 cell.row ++ 'C' :: Nat.toDigits 10 cell.column

end Cell

namespace Reference

/-- The parts of a text before and after the last exclamation mark, if it has one. -/
def splitSheet (text : List Char) : Option (List Char) × List Char :=
  match Text.splitAtFirst ['!'] text.reverse with
  | some (after, before) => (some before.reverse, after.reverse)
  | none => (none, text)

/-- The reference that a text writes down. In a range the second cell is neither above nor to the
left of the first. -/
def read (style : Cell.Style) (text : List Char) : Outcome Reference := do
  let (sheet, cells) := splitSheet (Text.trim text)
  if sheet = some [] then refuse .emptySheet
  else
    match Text.splitAll ':' cells with
    | [cell] => return ⟨sheet, ← Cell.read style cell, none⟩
    | [first, last] =>
      let first ← Cell.read style first
      let last ← Cell.read style last
      if last.row < first.row ∨ last.column < first.column then refuse .reversedRange
      else return ⟨sheet, first, some last⟩
    | _ => refuse (.malformedReference (String.ofList text))

/-- The canonical text of a reference. -/
def written (style : Cell.Style) (reference : Reference) : List Char :=
  let sheet := reference.sheet.elim [] (· ++ ['!'])
  let last := reference.last.elim [] fun cell => ':' :: cell.written style
  sheet ++ reference.first.written style ++ last

/-- The canonical text of the reference that a text writes down, with column letters or with two
numbers. -/
def canonical (text isLettered : Value) : Outcome String := do
  match text with
  | .text s =>
    let style := if ← isLettered.toBool then Cell.Style.lettered else .numbered
    return String.ofList ((← read style s.toList).written style)
  | _ => refuseCoercion (.textExpected "INDIRECT" "reference text")

end Reference

end SheetFormulas
