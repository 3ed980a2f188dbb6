import SheetFormulas.Aggregate
import SheetFormulas.Number.Calculation
import SheetFormulas.Summation

/-!
Cash flows and what they are worth at a rate. A flow has an amount and a time in years or periods;
discounting runs on doubles, where nothing is refused.
-/

namespace SheetFormulas.Finance

/-- A payment at a time. -/
structure Flow where
  amount : Float
  time : Float

namespace CashFlow

/-- The sum of an array of doubles. -/
def sumFloat (amounts : List Float) : Float := Summation.sum (· + ·) 0 amounts

/-- The amounts of an array: its numbers. Everything else but error values is skipped. -/
def amounts (values : Value) : Outcome (List Float) := do
  (← Aggregate.memberNumbers (flatten [values])).mapM Number.toFloat

/-- The days of an array of serials, none of which is skipped, as doubles. -/
def days (dates : Value) : Outcome (List Float) := do
  return (← (flatten [dates]).mapM Value.toFloor).map Binary64.ofInt

/-- Amounts at the times `start`, `start + 1`, …. -/
def periodicFrom (start : Nat) : List Float → List Flow
  | [] => []
  | amount :: rest => ⟨amount, Binary64.ofInt start⟩ :: periodicFrom (start + 1) rest

def daysPerYear : Float := 365

/-- The time between two days, in years. -/
def yearsBetween (first day : Float) : Float := (day - first) / daysPerYear

/-- Flows on days, timed from the first of them, which none precedes. -/
def dated (values dates : Value) : Outcome (List Flow) := do
  let amounts ← amounts values
  match ← days dates with
  | [] => refuse .lengthsDiffer
  | first :: rest =>
    if amounts.length ≠ rest.length + 1 then refuse .lengthsDiffer
    else if rest.any (· < first) then refuse .earlyDate
    else
      let times := (first :: rest).map (yearsBetween first)
      return List.zipWith Flow.mk amounts times

/-- Refuses flows that do not hold both a payment in and a payment out. -/
def requireBothSigns (amounts : List Float) (kind : ErrorKind) : Outcome Unit :=
  if amounts.any (0 < ·) && amounts.any (· < 0) then .ok () else refuse (.missingSign kind)

/-- Flows with what one unit grows to until their times, given one plus the rate. -/
def grown (flows : List Flow) (base : Float) : List (Flow × Float) :=
  flows.map fun flow => (flow, Binary64.pow base flow.time)

def valueOf (flows : List (Flow × Float)) : Float :=
  sumFloat (flows.map fun (flow, growth) => flow.amount / growth)

/-- The slope of the present value in the rate. -/
def slopeOf (flows : List (Flow × Float)) (base : Float) : Float :=
  sumFloat (flows.map fun (flow, growth) => -flow.time * flow.amount / (growth * base))

/-- The present value of flows, given one plus the rate. -/
def valueAt (flows : List Flow) (base : Float) : Float := valueOf (grown flows base)

/-- One plus a rate, as a double. -/
def baseOf (rate : Number) : Outcome Float := do return 1 + (← rate.toFloat)

/-- The present value of payments at the ends of the periods 1, 2, …. -/
def netPresent (rate : Value) (values : List Value) : Outcome Float := do
  let rate ← rate.toNumber
  if rate.eq (.int (-1)) then refuse .rateIsMinusOne
  else
    let amounts ← (← Aggregate.numbers values).mapM Number.toFloat
    return valueAt (periodicFrom 1 amounts) (← baseOf rate)

def netPresentDated (rate values dates : Value) : Outcome Float := do
  let rate ← rate.toNumber
  if rate.le (.int (-1)) then refuse .rateTooLow
  else
    let flows ← dated values dates
    return valueAt flows (← baseOf rate)

/-- The flows that pass a test; all others become nothing. -/
def keeping (test : Float → Bool) (flows : List Flow) : List Flow :=
  flows.map fun flow => if test flow.amount then flow else { flow with amount := 0 }

/-- The value of flows at the last of `count` periods. -/
def futureAt (flows : List Flow) (count : Nat) (base : Float) : Float :=
  sumFloat (flows.map fun flow =>
    flow.amount * Binary64.pow base (Binary64.ofInt ((count : Int) - 1) - flow.time))

/-- The rate that links the payments out, discounted to the start at one rate, to the payments in,
compounded to the end at another. -/
def modifiedReturn (values finance reinvest : Value) : Outcome Float := do
  let amounts ← amounts values
  let finance ← finance.toNumber
  let reinvest ← reinvest.toNumber
  if finance.eq (.int (-1)) || reinvest.eq (.int (-1)) then refuse .rateIsMinusOne
  else
    requireBothSigns amounts .divisionByZero
    let flows := periodicFrom 0 amounts
    let paid := valueAt (keeping (· < 0) flows) (← baseOf finance)
    let earned := futureAt (keeping (0 < ·) flows) amounts.length (← baseOf reinvest)
    let ratio := earned / -paid
    if ratio <= 0 then refuse .noRealRate
    else return Binary64.pow ratio (1 / Binary64.ofInt ((amounts.length : Int) - 1)) - 1

end CashFlow

end SheetFormulas.Finance
