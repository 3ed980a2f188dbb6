import SheetFormulas.Dates.Argument
import SheetFormulas.Value.Leaves
import Std.Data.HashSet.Basic

/-!
Working days: Monday to Friday, less the holidays.
-/

namespace SheetFormulas.Dates

variable (now : Moment)

/-- The whole serials of holidays. -/
abbrev Holidays := Std.HashSet Nat

/-- Whether a serial is a day from Monday to Friday. -/
def isWeekday (serial : Nat) : Bool :=
  let day := Serial.dayOfWeek serial
  day != 0 && day != 6

def isWorkday (holidays : Holidays) (serial : Nat) : Bool :=
  isWeekday serial && !holidays.contains serial

/-- The serials of the holidays in an argument; empty values do not count. -/
def holidaySerials (holidays : Value) : Outcome (List Nat) :=
  ((flatten [holidays]).filter (!·.isEmpty)).mapM (dayOf now)

def holidaysOf (holidays : Value) : Outcome Holidays := do
  return Std.HashSet.ofList (← holidaySerials now holidays)

/-- How many of `length` serials from `first` on are working days, added to `found`. -/
def countWorkdays (isWorking : Nat → Bool) (found first : Nat) : Nat → Nat
  | 0 => found
  | length + 1 =>
    countWorkdays isWorking (if isWorking first then found + 1 else found) (first + 1) length

/-- The number of working days from one date to another, both included; negative if the first date
is later. -/
def workdaysBetween (start finish holidays : Value) : Outcome Int := do
  let first ← dayOf now start
  let last ← dayOf now finish
  let isWorking := isWorkday (← holidaysOf now holidays)
  if first ≤ last then return countWorkdays isWorking 0 first (last + 1 - first)
  else return -(countWorkdays isWorking 0 last (first + 1 - last) : Int)

/-- The serial reached from `day` after `remaining` working days upward, if it lies among the next
`room` serials. -/
def walkUp (isWorking : Nat → Bool) : Nat → Nat → Nat → Option Nat
  | _, day, 0 => some day
  | 0, _, _ + 1 => none
  | room + 1, day, remaining + 1 =>
    if isWorking (day + 1) then walkUp isWorking room (day + 1) remaining
    else walkUp isWorking room (day + 1) (remaining + 1)

/-- The serial reached from `day` after `remaining` working days downward, if there is one. -/
def walkDown (isWorking : Nat → Bool) : Nat → Nat → Option Nat
  | day, 0 => some day
  | 0, _ + 1 => none
  | day + 1, remaining + 1 =>
    if isWorking day then walkDown isWorking day remaining
    else walkDown isWorking day (remaining + 1)

/-- The serial a number of working days after a day, or before it. -/
def walk (isWorking : Nat → Bool) (day : Nat) (days : Int) : Outcome Nat :=
  if 0 ≤ days then
    match walkUp isWorking (Serial.last - day) day days.toNat with
    | some reached => .ok reached
    | none => refuse (.serialOutOfRange (Serial.last + 1).repr)
  else
    match walkDown isWorking day (-days).toNat with
    | some reached => .ok reached
    | none => refuse (.serialOutOfRange "-1")

/-- The date a number of working days away. -/
def workday (start days holidays : Value) : Outcome Nat := do
  let day ← dayOf now start
  let days ← days.toInt
  walk (isWorkday (← holidaysOf now holidays)) day days

end SheetFormulas.Dates
