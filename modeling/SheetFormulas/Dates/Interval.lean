import SheetFormulas.Dates.Clock

/-!
Dates some months away, and the time between two dates.
-/

namespace SheetFormulas.Dates

variable (now : Moment)

/-- A count of months. A count that no double holds leads out of every calendar. -/
def monthCount (v : Value) : Outcome Int :=
  match v.toInt with
  | .error (.failure _) => refuse .dateOutOfRange
  | count => count

/-- The same day some months away, or the last day of a shorter month. -/
def monthsAway (start months : Value) : Outcome Nat := do
  let date ← Serial.date (← dayOf now start)
  let months ← monthCount months
  serialOfDate? (date.shiftMonths? months date.day)

/-- The last day of the month some months away. -/
def monthEnd (start months : Value) : Outcome Nat := do
  let date ← Serial.date (← dayOf now start)
  let months ← monthCount months
  serialOfDate? (date.shiftMonths? months 31)

def daysBetween (first second : Date) : Int := (second.number : Int) - first.number

/-- The days since the last day of the month `startDay` at or before a date. -/
def daysIgnoringMonths (startDay endDay : Nat) (date : Date) : Outcome Int :=
  if startDay ≤ endDay then .ok ((endDay : Int) - startDay)
  else
    match date.shiftMonths? (-1) startDay with
    | some anchor => .ok (daysBetween anchor date)
    | none => fail .overflow

/-- The days since the last anniversary of `start` at or before a date. -/
def daysIgnoringYears (start date : Date) : Int :=
  let thisYear := Date.clipped date.year start.month start.day
  let anchor :=
    if date.number < thisYear.number then Date.clipped (date.year - 1) start.month start.day
    else thisYear
  daysBetween anchor date

/-- The difference of two serials in a unit, by calendar years and months or by days. -/
def differenceIn (unit : String) (start finish : Nat) : Outcome Int := do
  let first := Serial.parts start
  let last := Serial.parts finish
  let months : Int := ((last.year : Int) - first.year) * 12 + ((last.month : Int) - first.month)
  if unit = "Y" then return (last.year : Int) - first.year
  else if unit = "M" then return months
  else if unit = "D" then return (finish : Int) - start
  else if unit = "YM" then return months % 12
  else
    let date ← Serial.date finish
    if unit = "MD" then daysIgnoringMonths first.day last.day date
    else if unit = "YD" then return daysIgnoringYears (← Serial.date start) date
    else refuse (.unknownUnit unit)

def difference (start finish unit : Value) : Outcome Int := do
  let first ← dayOf now start
  let last ← dayOf now finish
  let unit := String.ofList (Text.upper (← unit.toText).toList)
  if last < first then refuse .startAfterEnd else differenceIn unit first last

def days (finish start : Value) : Outcome Int := do
  let last ← dayOf now finish
  let first ← dayOf now start
  return (last : Int) - first

end SheetFormulas.Dates
