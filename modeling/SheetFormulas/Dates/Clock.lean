import SheetFormulas.Dates.Argument

/-!
Serials from their parts, and the parts of serials.
-/

namespace SheetFormulas.Dates

variable (now : Moment)

/-- The date a number of days after the first day of a month, counted from January of a year. -/
def rolledDate? (year : Nat) (month day : Int) : Option Date :=
  ((⟨year, 1, 1⟩ : Date).shiftMonths? (month - 1) 1).bind (·.addDays? (day - 1))

/-- The serial of a date that has to exist. -/
def serialOfDate? : Option Date → Outcome Nat
  | some date => Serial.ofDate date
  | none => refuse .dateOutOfRange

/-- The serial of a year, month and day. Years below 1900 count from 1900, and months and days
outside their range roll over. -/
def date (year month day : Value) : Outcome Nat := do
  let y ← year.toInt
  let m ← month.toInt
  let d ← day.toInt
  if y < 0 ∨ 10000 ≤ y then refuse (.yearOutOfRange y)
  else
    let y := if y < 1900 then y + 1900 else y
    serialOfDate? (rolledDate? y.toNat m d)

/-- The fraction of the day of a time. Totals outside one day wrap around. -/
def time (hour minute second : Value) : Outcome Float := do
  let h ← hour.toInt
  let m ← minute.toInt
  let s ← second.toInt
  (Number.int ((h * 3600 + m * 60 + s) % Serial.secondsPerDay)).div (.int Serial.secondsPerDay)

def today : Outcome Nat := Serial.ofDate now.date

def currentTime : Outcome Number := Serial.ofMoment now

def year (serial : Value) : Outcome Nat := do return (Serial.parts (← dayOf now serial)).year

def month (serial : Value) : Outcome Nat := do return (Serial.parts (← dayOf now serial)).month

def day (serial : Value) : Outcome Nat := do return (Serial.parts (← dayOf now serial)).day

/-- The seconds since midnight of a serial, to the nearest second. -/
def secondsOfSerial : Number → Nat
  | .int _ => 0
  | .float x =>
    let fraction := x - Binary64.ofInt (Binary64.floor x)
    (Binary64.round (fraction * Binary64.ofInt Serial.secondsPerDay) % Serial.secondsPerDay).toNat

def secondsOf (serial : Value) : Outcome Nat := do return secondsOfSerial (← serialOf now serial)

def hour (serial : Value) : Outcome Nat := do return (← secondsOf now serial) / 3600

def minute (serial : Value) : Outcome Nat := do return (← secondsOf now serial) / 60 % 60

def second (serial : Value) : Outcome Nat := do return (← secondsOf now serial) % 60

end SheetFormulas.Dates
