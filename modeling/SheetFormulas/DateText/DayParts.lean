import SheetFormulas.Calendar.Gregorian
import SheetFormulas.DateText.Quantity

/-!
The numbers of a date text that stand for year, month and day. Some are known by their form (a month
by its name, a year by its length); the others are told apart by their order and size.
-/

namespace SheetFormulas.DateText

/-- The numbers met so far, and the places of those whose meaning is known. -/
structure DayParts where
  numbers : List Nat
  yearAt : Option Nat
  monthAt : Option Nat
  /-- Whether a year was written with its century. -/
  fullYear : Bool
  /-- Whether the year is meant a century earlier than its number says. -/
  centuryBefore : Bool

/-- Year, month and day as far as the text gives them. -/
structure DayFields where
  year : Option Nat
  month : Option Nat
  day : Option Nat

namespace DayParts

def none : DayParts := ⟨[], Option.none, Option.none, false, false⟩

def count (p : DayParts) : Nat := p.numbers.length

/-- One more number of unknown meaning. -/
def addNumber (p : DayParts) (n : Nat) : DayParts := { p with numbers := p.numbers ++ [n] }

def addMonth (p : DayParts) (n : Nat) : Reader DayParts :=
  if p.monthAt.isSome then notDate
  else .ok { p.addNumber n with monthAt := some p.count }

def addYear (p : DayParts) (n : Nat) (full : Bool) : Reader DayParts :=
  if p.yearAt.isSome then notDate
  else .ok { p.addNumber n with yearAt := some p.count, fullYear := p.fullYear || full }

/-- One more number as written; three digits or more make it the year. -/
def addToken (p : DayParts) (token : Token) : Reader DayParts := do
  let full := token.isDigits && 2 < token.length
  let n ← token.int
  if full then p.addYear n true else return p.addNumber n

/-- One more number by its value; above one hundred it is the year. -/
def addQuantity (p : DayParts) (q : Quantity) : Reader DayParts :=
  if q.exceeds 100 then p.addYear q.whole true else .ok (p.addNumber q.whole)

def addYearToken (p : DayParts) (token : Token) : Reader DayParts := do
  p.addYear (← token.int) (token.isDigits && 2 < token.length)

/-- One more number, the year near the current one. A year before the first year of all is kept with
its number in the first century, where the same years are leap years. -/
def addNearYear (p : DayParts) (year : Int) : Reader DayParts := do
  if year < 0 then return { ← p.addYear (year + 100).toNat false with centuryBefore := true }
  else p.addYear year.toNat (100 ≤ year)

def at? (p : DayParts) (place : Option Nat) : Option Nat := place.bind (p.numbers[·]?)

/-- Whether a number may be the day, given what is known. Without a year February has 29 days. -/
def admitsDay (p : DayParts) (q : Quantity) : Bool :=
  match p.at? p.monthAt with
  | Option.none => q.isFrom1To 31
  | some month => q.isFrom1To (Calendar.monthLength ((p.at? p.yearAt).getD 2000) month)

/-- The meaning of three numbers of which the place of the month may be known. -/
def orderOfThree (p : DayParts) (a b c : Nat) : DayFields :=
  match p.monthAt with
  | some 0 => if 31 < b then ⟨b, a, c⟩ else ⟨c, a, b⟩
  | some 1 => if 31 < a then ⟨a, b, c⟩ else ⟨c, b, a⟩
  | some _ => if 31 < b then ⟨b, c, a⟩ else ⟨a, c, b⟩
  | Option.none =>
    if 31 < a ∨ p.yearAt = some 0 then ⟨a, b, c⟩
    else if 12 < a then ⟨c, b, a⟩
    else ⟨c, a, b⟩

/-- The meaning of the numbers where it does not follow from what is known of each. -/
def resolveByOrder (p : DayParts) : Reader DayFields :=
  match p.numbers, p.monthAt with
  | [], _ => .ok ⟨.none, .none, .none⟩
  | [a], some _ => .ok ⟨.none, some a, .none⟩
  | [a], .none => .ok (if 31 < a then ⟨some a, .none, .none⟩ else ⟨.none, .none, some a⟩)
  | [a, b], some place =>
    let (month, other) := if place = 0 then (a, b) else (b, a)
    .ok (if 31 < other then ⟨some other, some month, .none⟩ else ⟨.none, some month, some other⟩)
  | [a, b], .none =>
    .ok (if 31 < a then ⟨some a, some b, .none⟩
      else if 31 < b then ⟨some b, some a, .none⟩
      else ⟨.none, some a, some b⟩)
  | [a, b, c], _ => .ok (p.orderOfThree a b c)
  | _, _ => notDate

/-- The year, month and day that the numbers stand for. -/
def resolve (p : DayParts) : Reader DayFields :=
  match p.count, p.yearAt, p.monthAt with
  | 1, some _, Option.none => .ok ⟨p.at? p.yearAt, .none, .none⟩
  | 2, some _, some _ => .ok ⟨p.at? p.yearAt, p.at? p.monthAt, .none⟩
  | 3, some y, some m => .ok ⟨p.at? p.yearAt, p.at? p.monthAt, p.at? (some (3 - y - m))⟩
  | _, _, _ => p.resolveByOrder

end DayParts

end SheetFormulas.DateText
