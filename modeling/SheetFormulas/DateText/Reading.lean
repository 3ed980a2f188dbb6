import SheetFormulas.Calendar.Serial
import SheetFormulas.DateText.Fields

/-!
Dates and times written as text. Fields that the text leaves out are filled from a given day;
reading the text twice with two days that differ in every field shows which fields it holds.
-/

namespace SheetFormulas.DateText

namespace Fields

def isBlank (f : Fields) (d : DayFields) : Bool :=
  d.year.isNone && d.month.isNone && d.day.isNone && f.weekday.isNone && f.hour.isNone &&
    f.minute.isNone && f.second.isNone && f.microsecond.isNone && f.zone.isNone && f.offset.isNone

/-- The year meant by the text: a year without its century is one near the current year. Years
before the first one become zero, which is no year either. -/
def meantYear (f : Fields) (currentYear year : Nat) : Nat :=
  if f.parts.fullYear then year else (nearYear currentYear year).toNat

/-- Whether the distance from universal time is less than a billion days. Universal time and the
local zone have no distance. -/
def hasOffsetInRange (f : Fields) : Bool :=
  match f.offset, f.zone with
  | some seconds, Option.none => inRange seconds
  | some seconds, some zone => zone.isUniversal || inRange seconds
  | Option.none, _ => true
where
  inRange (seconds : Int) : Bool :=
    -(999999999 * 86400) ≤ seconds && seconds < 1000000000 * 86400

/-- The time that the text says; missing fields are zero. -/
def time (f : Fields) : TimeOfDay :=
  ⟨f.hour.getD 0, f.minute.getD 0, f.second.getD 0, f.microsecond.getD 0⟩

/-- The date that the text says, missing fields filled from `default`. A day of the week without a
day moves the date on to the next such day. -/
def date (f : Fields) (d : DayFields) (default : Date) : Reader Date := do
  let filled : Date :=
    ⟨d.year.getD default.year, d.month.getD default.month, d.day.getD default.day⟩
  if !filled.isValid then notDate
  else
    match f.weekday, d.day with
    | some weekday, Option.none =>
      required (filled.addDays? (((7 - filled.weekday + weekday) % 7 : Nat) : Int))
    | _, _ => return filled

end Fields

/-- What a text says: a date, unless it holds a time only, and the fraction of the day. -/
structure Reading where
  date : Option Date
  fraction : Float

/-- The text as two dates, filled from two days, and a time. -/
def readTwice (currentYear : Nat) (text : List Char) : Reader (Date × Date × TimeOfDay) := do
  let f ← Fields.none.readTokens currentYear [] (Token.split text)
  let d ← f.parts.resolve
  if f.parts.centuryBefore then throw .negativeYear
  let d := { d with year := d.year.map (f.meantYear currentYear) }
  if f.isBlank d then notDate
  else
    let first ← f.date d ⟨2000, 1, 1⟩
    let second ← f.date d ⟨2001, 2, 2⟩
    if !f.time.isValid || !f.hasOffsetInRange then notDate
    else return (first, second, f.time)

/-- Reads a date and a time. A text without a year means the current year. -/
def read (now : Moment) (text : String) : Outcome Reading :=
  if (Text.trim text.toList).isEmpty then refuseCoercion .emptyDate
  else
    match readTwice now.date.year text.toList with
    | .error .notDate => refuseCoercion (.unreadableDate text)
    | .error .remainderTooLong => fail .remainderTooLong
    | .error .negativeYear => fail .negativeYear
    | .ok (first, second, time) =>
      let fraction := Serial.fractionOf time
      if first.month ≠ second.month ∧ first.day ≠ second.day then .ok ⟨none, fraction⟩
      else if first.year = second.year then .ok ⟨some first, fraction⟩
      else
        let thisYear : Date := { first with year := now.date.year }
        if thisYear.isValid then .ok ⟨some thisYear, fraction⟩
        else refuseCoercion (.notThisYear text)

end SheetFormulas.DateText
