/-!
The proleptic Gregorian calendar: dates and their day numbers. Day 1 is January 1st of the year 1,
a Monday; the last day is December 31st of the year 9999.
-/

namespace SheetFormulas

structure Date where
  year : Nat
  month : Nat
  day : Nat
  deriving DecidableEq

namespace Calendar

def lastYear : Nat := 9999

/-- The number of the last day. -/
def lastDay : Nat := 3652059

/-- Whether a year has a February 29th. -/
def isLeap (year : Nat) : Bool := year % 4 == 0 && (year % 100 != 0 || year % 400 == 0)

/-- The lengths of the months of a year. -/
def monthLengths (leap : Bool) : List Nat :=
  [31, if leap then 29 else 28, 31, 30, 31, 30, 31, 31, 30, 31, 30, 31]

/-- The length of a month of a year; months are counted from one. -/
def monthLength (year month : Nat) : Nat := (monthLengths (isLeap year))[month - 1]?.getD 0

def daysBeforeYear (year : Nat) : Nat :=
  let past := year - 1
  365 * past + past / 4 - past / 100 + past / 400

def daysBeforeMonth (year month : Nat) : Nat :=
  ((monthLengths (isLeap year)).take (month - 1)).foldl (· + ·) 0

/-- The year that holds the day after `days` days. A year has `146097 / 400` days on average, and
the estimate from that is off by one at most. -/
def yearAfter (days : Nat) : Nat :=
  let estimate := days * 400 / 146097 + 1
  if days < daysBeforeYear estimate then estimate - 1
  else if daysBeforeYear (estimate + 1) ≤ days then estimate + 1
  else estimate

/-- How many whole months fit in a number of days, and the days left over. -/
def wholeMonths : List Nat → Nat → Nat × Nat
  | [], days => (0, days)
  | length :: rest, days =>
    if days < length then (0, days)
    else
      let (months, left) := wholeMonths rest (days - length)
      (months + 1, left)

/-- The date with a day number. -/
def dateOf (number : Nat) : Date :=
  let year := yearAfter (number - 1)
  let (months, left) := wholeMonths (monthLengths (isLeap year)) (number - 1 - daysBeforeYear year)
  ⟨year, months + 1, left + 1⟩

end Calendar

namespace Date

open Calendar

/-- Whether the date is one of the calendar. -/
def isValid (d : Date) : Bool :=
  1 ≤ d.year && d.year ≤ lastYear && 1 ≤ d.month && d.month ≤ 12 &&
    1 ≤ d.day && d.day ≤ monthLength d.year d.month

/-- The day number of a date. -/
def number (d : Date) : Nat :=
  daysBeforeYear d.year + daysBeforeMonth d.year d.month + d.day

/-- The date a number of days later, or earlier, if the calendar holds it. -/
def addDays? (d : Date) (days : Int) : Option Date :=
  let number : Int := d.number + days
  if 1 ≤ number ∧ number ≤ lastDay then some (dateOf number.toNat) else none

/-- The day of the week, Monday being zero. -/
def weekday (d : Date) : Nat := (d.number + 6) % 7

/-- A date with the day moved back to the end of its month where the month is too short. -/
def clipped (year month day : Nat) : Date := ⟨year, month, min day (monthLength year month)⟩

/-- The date a number of months later, or earlier, in the month that the calendar holds, with the
given day or the last one of that month. -/
def shiftMonths? (d : Date) (months : Int) (day : Nat) : Option Date :=
  let index : Int := d.year * 12 + (d.month - 1 : Nat) + months
  let year := index / 12
  if 1 ≤ year ∧ year ≤ lastYear then
    some (clipped year.toNat ((index % 12).toNat + 1) day)
  else none

/-- The week of the year by the rule that a week starts on Monday and belongs to the year of its
Thursday. -/
def isoWeek (d : Date) : Nat :=
  let thursday := d.number - d.weekday + 3
  (thursday - 1 - daysBeforeYear (yearAfter (thursday - 1))) / 7 + 1

end Date

end SheetFormulas
