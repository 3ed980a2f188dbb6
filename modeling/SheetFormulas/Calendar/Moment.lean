import SheetFormulas.Calendar.Gregorian

/-!
Points in time and times of the day.
-/

namespace SheetFormulas

structure TimeOfDay where
  hour : Nat
  minute : Nat
  second : Nat
  microsecond : Nat
  deriving DecidableEq

namespace TimeOfDay

def midnight : TimeOfDay := ⟨0, 0, 0, 0⟩

/-- The whole seconds since midnight. -/
def seconds (t : TimeOfDay) : Nat := t.hour * 3600 + t.minute * 60 + t.second

/-- The time a number of milliseconds after midnight. -/
def ofMilliseconds (n : Nat) : TimeOfDay :=
  let seconds := n / 1000
  ⟨seconds / 3600, seconds / 60 % 60, seconds % 60, n % 1000 * 1000⟩

def isValid (t : TimeOfDay) : Bool :=
  t.hour < 24 && t.minute < 60 && t.second < 60 && t.microsecond < 1000000

end TimeOfDay

structure Moment where
  date : Date
  time : TimeOfDay
  deriving DecidableEq

/-- A number with at least `width` digits. -/
def paddedText (width n : Nat) : String :=
  let digits := Nat.toDigits 10 n
  String.ofList (List.replicate (width - digits.length) '0' ++ digits)

def Date.text (d : Date) : String :=
  paddedText 4 d.year ++ "-" ++ paddedText 2 d.month ++ "-" ++ paddedText 2 d.day

/-- A point in time; microseconds are written only if there are any. -/
def Moment.text (m : Moment) : String :=
  m.date.text ++ " " ++ paddedText 2 m.time.hour ++ ":" ++ paddedText 2 m.time.minute ++ ":" ++
    paddedText 2 m.time.second ++
    (if m.time.microsecond = 0 then "" else "." ++ paddedText 6 m.time.microsecond)

end SheetFormulas
