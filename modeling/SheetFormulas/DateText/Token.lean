import SheetFormulas.Text.Blank
import SheetFormulas.Text.Digit
import SheetFormulas.Text.Letter

/-!
The tokens of a date text: words, numbers and single other characters. A dot joins the parts of a
word or a number, and a comma may stand for the decimal point; tokens that turn out to be several
words or numbers are split again at their dots and commas.
-/

namespace SheetFormulas.DateText

open Text

abbrev Token := List Char

namespace Token

/-- What the token being read is made of so far. -/
inductive Shape where
  | word
  | number
  | dottedWord
  | dottedNumber
  deriving DecidableEq

/-- A token being read, last character first. -/
structure Open where
  shape : Shape
  /-- Whether more was met after a letter. -/
  lettered : Bool
  reversed : List Char

namespace Open

/-- The token that a character begins, if it does. -/
def ofChar? (c : Char) : Option Open :=
  if isLetter c then some ⟨.word, false, [c]⟩
  else if isDigitLike c then some ⟨.number, false, [c]⟩
  else none

/-- The token with one more character, if the character belongs to it. -/
def extend? (t : Open) (c : Char) : Option Open :=
  let add (shape : Shape) (lettered : Bool) : Option Open := some ⟨shape, lettered, c :: t.reversed⟩
  match t.shape with
  | .word =>
    if isLetter c then add .word true
    else if c = '.' then add .dottedWord true
    else none
  | .number =>
    if isDigitLike c then add .number t.lettered
    else if c = '.' ∨ (c = ',' ∧ 2 ≤ t.reversed.length) then add .dottedNumber t.lettered
    else none
  | .dottedWord =>
    if c = '.' ∨ isLetter c then add .dottedWord true
    else if isDigitLike c ∧ t.reversed.head? = some '.' then add .dottedNumber true
    else none
  | .dottedNumber =>
    if c = '.' ∨ isDigitLike c then add .dottedNumber t.lettered
    else if isLetter c ∧ t.reversed.head? = some '.' then add .dottedWord t.lettered
    else none

/-- The token once a character that does not belong to it was met. -/
def interrupted (t : Open) : Open :=
  if t.shape = .dottedWord then { t with lettered := true } else t

def isSplit (c : Char) : Bool := c == '.' || c == ','

/-- The parts of a text between dots and commas, with these as parts of their own; empty parts are
left out. -/
def splitParts (text : List Char) : List Token :=
  text.foldr (fun c parts =>
    if isSplit c then [c] :: parts
    else
      match parts with
      | part :: rest => if part.all isSplit then [c] :: parts else (c :: part) :: rest
      | [] => [[c]]) []

/-- The tokens that a finished token stands for. -/
def finish (t : Open) : List Token :=
  let text := t.reversed.reverse
  let dotted := t.shape = .dottedWord ∨ t.shape = .dottedNumber
  if dotted ∧ (t.lettered ∨ 1 < text.count '.' ∨ t.reversed.head?.any isSplit) then
    splitParts text
  else if t.shape = .dottedNumber ∧ text.count '.' = 0 then
    [text.map fun c => if c = ',' then '.' else c]
  else [text]

end Open

/-- The tokens of a text, with a token that is being read already. -/
def readFrom (reading : Option Open) : List Char → List Token
  | [] => (reading.map Open.finish).getD []
  | c :: rest =>
    match reading.bind (·.extend? c) with
    | some t => readFrom (some t) rest
    | none =>
      (reading.map fun t => t.interrupted.finish).getD [] ++
        match Open.ofChar? c with
        | some t => readFrom (some t) rest
        | none => [if isBlank c then ' ' else c] :: readFrom none rest

/-- The tokens of a text; null characters are left out. -/
def split (text : List Char) : List Token :=
  readFrom none (text.filter (· != '\x00'))

end Token

end SheetFormulas.DateText
