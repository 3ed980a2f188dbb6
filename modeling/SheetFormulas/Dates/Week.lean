import SheetFormulas.Dates.Clock

/-!
Days of the week and weeks of the year. A type says on which day a week starts.
-/

namespace SheetFormulas.Dates

variable (now : Moment)

/-- The first day of the week for a type, Sunday being zero. -/
def weekStart? (type : Int) : Option Nat :=
  match type with
  | 1 => some 0
  | 2 => some 1
  | 11 => some 1
  | 12 => some 2
  | 13 => some 3
  | 14 => some 4
  | 15 => some 5
  | 16 => some 6
  | 17 => some 0
  | _ => none

/-- How many days a day of the week comes after the start of the week. -/
def daysInto (start dayOfWeek : Nat) : Nat := (dayOfWeek + 7 - start) % 7

/-- The day of the week of a serial, one being the first; type 3 counts Monday as zero. -/
def weekdayOf (serial : Nat) (type : Int) : Outcome Nat :=
  if type = 3 then .ok (daysInto 1 (Serial.dayOfWeek serial))
  else
    match weekStart? type with
    | some start => .ok (daysInto start (Serial.dayOfWeek serial) + 1)
    | none => refuse (.weekType "WEEKDAY" type)

def weekday (serial type : Value) : Outcome Nat := do
  let day ← dayOf now serial
  weekdayOf day (← type.toInt)

/-- The week of the year of a serial: the week of January 1st is the first one. -/
def weekAfter (start januaryFirst serial : Nat) : Nat :=
  ((serial : Int) - januaryFirst + daysInto start (Serial.dayOfWeek januaryFirst)) / 7 + 1 |>.toNat

/-- The week of the year of a serial. Type 21 counts by the Thursdays. -/
def weekNumberOf (serial : Nat) (type : Int) : Outcome Nat :=
  if type = 21 then do return (← Serial.date serial).isoWeek
  else
    match weekStart? type with
    | none => refuse (.weekType "WEEKNUM" type)
    | some start => do
      return weekAfter start (← Serial.ofDate ⟨(Serial.parts serial).year, 1, 1⟩) serial

def weekNumber (serial type : Value) : Outcome Nat := do
  let day ← dayOf now serial
  weekNumberOf day (← type.toInt)

end SheetFormulas.Dates
