import SheetFormulas.Calendar.Moment
import SheetFormulas.Number.Order
import SheetFormulas.Number.Text

/-!
Serial numbers of days. Serial 1 is January 1st, 1900. Serial 60 is February 29th, 1900, a day that
the calendar does not have, so from March 1st, 1900 on serials are one ahead of a plain day count.
Serial 0 is called January 0th, 1900, and the fraction of a serial is the time of the day.
-/

namespace SheetFormulas.Serial

/-- The serial of the last day of the calendar. -/
def last : Nat := 2958465

/-- The serial of the day that does not exist. -/
def phantom : Nat := 60

/-- The day number from which serials after the phantom day are counted: December 30th, 1899. -/
def epoch : Nat := 693594

def secondsPerDay : Nat := 86400

/-- A serial in range: at least zero and before the end of the calendar. -/
def check (serial : Number) : Outcome Number := do
  if !(← serial.isFinite) || serial.lt (.int 0) || (Number.int (last + 1)).le serial then
    refuse (.serialOutOfRange (← serial.shown))
  else return serial

/-- The days of a date since the epoch, less one up to the phantom day. -/
def daysSinceEpoch (d : Date) : Nat :=
  let days := d.number - epoch
  if days ≤ phantom then days - 1 else days

/-- The serial of a date; there is none before December 31st, 1899, which is serial zero. -/
def ofDate (d : Date) : Outcome Nat :=
  if d.number ≤ epoch then refuse (.beforeCalendar d.text) else .ok (daysSinceEpoch d)

/-- The fraction of the day, in double arithmetic. -/
def fractionOf (t : TimeOfDay) : Float :=
  (Binary64.ofInt t.seconds + Binary64.ofInt t.microsecond / Binary64.ofInt 1000000) /
    Binary64.ofInt secondsPerDay

/-- The serial of a point in time, a whole number at midnight. -/
def ofMoment (m : Moment) : Outcome Number :=
  if m.date.number ≤ epoch then refuse (.beforeCalendar m.text)
  else
    let serial := Binary64.ofInt (daysSinceEpoch m.date) + fractionOf m.time
    .ok (if Binary64.isWhole serial then .int (Binary64.floor serial) else .float serial)

/-- The day number of a whole serial that is not zero; the phantom day counts as the day after. -/
def dayNumber (serial : Nat) : Nat :=
  if serial ≤ phantom then epoch + serial + 1 else epoch + serial

/-- The date of a whole serial. A serial of zero is a bare time and has no date. -/
def date (serial : Nat) : Outcome Date :=
  if serial = 0 then fail .timeOnly else .ok (Calendar.dateOf (dayNumber serial))

/-- Year, month and day of a whole serial, with the days that the calendar does not have. -/
def parts (serial : Nat) : Date :=
  if serial = 0 then ⟨1900, 1, 0⟩
  else if serial = phantom then ⟨1900, 2, 29⟩
  else Calendar.dateOf (dayNumber serial)

/-- The day of the week of a serial, Sunday being zero. Serial 1 is a Sunday. -/
def dayOfWeek (serial : Int) : Nat := ((serial + 6) % 7).toNat

/-- What a serial stands for: a time of the day below one, and a point in time from one on. -/
inductive Reading where
  | time (t : TimeOfDay)
  | moment (m : Moment)

/-- The whole days and the milliseconds of a serial that is not negative. -/
def daysAndMilliseconds : Number → Nat × Nat
  | .int n => (n.toNat, 0)
  | .float x =>
    let days := Binary64.floor x
    let fraction := x - Binary64.ofInt days
    (days.toNat, (Binary64.round (fraction * 86400 * 1000)).toNat)

/-- The point in time of a serial, rounded to milliseconds. -/
def reading (serial : Number) : Outcome Reading := do
  let serial ← check serial
  let serial ← if serial.truncate = phantom then serial.add (.int 1) else pure serial
  let (days, milliseconds) := daysAndMilliseconds serial
  let overflow := milliseconds / 86400000
  if serial.lt (.int 1) ∧ overflow = 0 then return .time (.ofMilliseconds milliseconds)
  else
    let early := (Number.int 0).lt serial && serial.lt (.int phantom)
    let number := epoch + days + (if early then 1 else 0) + overflow
    if Calendar.lastDay < number then fail .overflow
    else return .moment ⟨Calendar.dateOf number, .ofMilliseconds (milliseconds % 86400000)⟩

end SheetFormulas.Serial
