import SheetFormulas.DateText.Reading
import SheetFormulas.Value.Coercion

/-!
Dates as arguments: a serial number, a numeral, or a date written as text.
-/

namespace SheetFormulas.Dates

/-- The serial that a text says. -/
def serialOfText (now : Moment) (text : String) : Outcome Number := do
  let reading ← DateText.read now text
  let days ←
    match reading.date with
    | some date => Serial.ofDate date
    | none => pure 0
  Serial.check (← (Number.int days).add (.float reading.fraction))

/-- The serial of an argument. A text that is no numeral is read as a date. -/
def serialOf (now : Moment) (v : Value) : Outcome Number :=
  match v.toNumber, v with
  | .ok n, _ => Serial.check n
  | .error (.refusal (.coercion _)), .text s => serialOfText now s
  | .error fault, _ => .error fault

/-- The whole days of a serial argument. -/
def dayOf (now : Moment) (v : Value) : Outcome Nat := do
  return (← serialOf now v).truncate.toNat

def isNumeric (text : String) : Outcome Bool :=
  match (Value.text text).toNumber with
  | .ok _ => .ok true
  | .error (.refusal cause) => if cause.isCoercion then .ok false else refuse cause
  | .error (.failure cause) => fail cause

/-- A text argument that has to be a date or a time, and no numeral. -/
def readText (now : Moment) (function what : String) : Value → Outcome (String × DateText.Reading)
  | .text s => do
    if ← isNumeric s then refuseCoercion (.numericDate s what)
    else return (s, ← DateText.read now s)
  | _ => refuseCoercion (.textExpected function "text")

/-- The serial of a date written as text; without a date it is zero. -/
def dateValue (now : Moment) (v : Value) : Outcome Nat := do
  let (text, reading) ← readText now "DATEVALUE" "date" v
  match reading.date with
  | none => return 0
  | some date =>
    if date.year < 1900 then refuseCoercion (.dateTooEarly text) else Serial.ofDate date

/-- The fraction of the day of a time written as text. -/
def timeValue (now : Moment) (v : Value) : Outcome Float := do
  return (← readText now "TIMEVALUE" "time" v).2.fraction

end SheetFormulas.Dates
