/-!
The error values that a cell can hold, and their spellings.
-/

namespace SheetFormulas

/-- An error value. Errors are ordinary values that flow through formulas. -/
inductive ErrorKind where
  | divisionByZero
  | notAvailable
  | unknownName
  | emptyIntersection
  | badNumber
  | badReference
  | badValue
  | circular
  deriving DecidableEq

namespace ErrorKind

/-- All error values, in the order of their codes. -/
def all : List ErrorKind :=
  [divisionByZero, notAvailable, unknownName, emptyIntersection, badNumber, badReference,
    badValue, circular]

/-- The text shown in a cell. -/
def display : ErrorKind → String
  | divisionByZero => "#DIV/0!"
  | notAvailable => "#N/A"
  | unknownName => "#NAME?"
  | emptyIntersection => "#NULL!"
  | badNumber => "#NUM!"
  | badReference => "#REF!"
  | badValue => "#VALUE!"
  | circular => "#CIRC!"

/-- The short code, without punctuation. -/
def code : ErrorKind → String
  | divisionByZero => "DIV0"
  | notAvailable => "NA"
  | unknownName => "NAME"
  | emptyIntersection => "NULL"
  | badNumber => "NUM"
  | badReference => "REF"
  | badValue => "VALUE"
  | circular => "CIRC"

/-- The error value with this display text, letter case included. -/
def ofDisplay? (text : String) : Option ErrorKind :=
  all.find? (fun kind => kind.display = text)

theorem ofDisplay?_display (kind : ErrorKind) : ofDisplay? kind.display = some kind := by
  cases kind <;> decide

end ErrorKind

end SheetFormulas
