import SheetFormulas.Finance.Annuity
import SheetFormulas.Run

/-!
The interest rate of an annuity. Newton's method runs from a guess; where it stalls, diverges or
oscillates, some brackets are halved instead.
-/

namespace SheetFormulas.Finance

/-- An annuity whose rate is wanted. -/
structure PaymentPlan where
  periods : Number
  payment : Number
  present : Number
  future : Number
  /-- By how much of a period the payments come early: zero at the end of each period, one at its
  start. -/
  advance : Number

namespace PaymentPlan

/-- The most steps of Newton's method. -/
def newtonSteps : Nat := 50

/-- The most halvings of a bracket. -/
def halvings : Nat := 100

/-- A value, or a step, below this counts as zero. -/
def rateTolerance : Float := 1e-7

/-- Slopes below this are too flat to follow. -/
def flatSlope : Float := 1e-10

/-- The ranges of rates that are halved, in order. -/
def brackets : List (Float × Float) := [(-0.99, 2.0), (0.0001, 1.0), (-0.5, 5.0)]

/-- The worth of an annuity at a rate that is almost zero, and the slope there. -/
def worthAtZero (plan : PaymentPlan) : Outcome (Number × Number) := do
  let ⟨periods, payment, present, future, advance⟩ := plan
  let value ← (present + payment * periods + future : Calculation)
  let slope ← (-payment * periods * (periods + 1) / 2 + payment * advance * periods
    - future * periods : Calculation)
  return (value, slope)

/-- The worth of an annuity at a rate, and its slope there. It fails where the discount factor is
not finite. -/
def worth (plan : PaymentPlan) (rate : Number) : Outcome (Number × Number) := do
  if rate.abs.lt (.float 1e-10) then plan.worthAtZero
  else
    let ⟨periods, payment, present, future, advance⟩ := plan
    let discount ← ((1 + rate) ^ (periods.neg : Calculation) : Calculation)
    if !(← discount.isFinite) then fail .overflow
    else
      let factor ← ((1 - discount) / rate : Calculation)
      let factorSlope ← (periods * discount / (rate * (1 + rate))
        - (1 - discount) / rate ^ (2 : Calculation) : Calculation)
      let adjusted ← (payment * (1 + rate * advance) : Calculation)
      let value ← (present + adjusted * factor + future * discount : Calculation)
      let slope ← (adjusted * factorSlope + payment * advance * factor
        - future * periods * discount / (1 + rate) : Calculation)
      return (value, slope)

/-- A rate to start from. -/
def startingRate (plan : PaymentPlan) : Outcome Number := do
  let ⟨periods, payment, present, future, _⟩ := plan
  if present.isZero then return .float 0.1
  else if payment.abs.lt (.float 1e-10) then
    let ratio := (← (future / present : Calculation)).abs
    if (Number.int 0).lt ratio then (ratio ^ (1 / periods : Calculation) - 1 : Calculation)
    else return .float 0.1
  else
    let guess := (← ((future - present - payment * periods) / (present * periods) :
      Calculation)).abs
    return (guess.max (.float 0.001)).min (.float 0.5)

/-- The worth of an annuity, or nothing where it cannot be worked out. -/
def worth? (plan : PaymentPlan) (rate : Number) : Outcome (Option (Number × Number)) :=
  match plan.worth rate with
  | .ok result => .ok (some result)
  | .error (.failure .overflow) | .error (.failure .zeroDivision) => .ok none
  | .error fault => .error fault

def distance (a b : Number) : Outcome Number := do return (← a.sub b).abs

/-- Newton's method with a number of steps left. It gives up where the slope is flat, where a step
leaves the rates above -0.999 and up to 10, and, after some steps, where it bounces between two
points. -/
def newtonFrom (plan : PaymentPlan) (previous rate : Number) : Nat → Outcome (Option Number)
  | 0 => return none
  | left + 1 => do
    match ← plan.worth? rate with
    | none => return none
    | some (value, slope) =>
      if slope.abs.lt (.float flatSlope) then return none
      else
        let next ← (rate - value / slope : Calculation)
        if !(← next.isFinite) || next.le (.float (-0.999)) || (Number.int 10).lt next then
          return none
        else
          let step ← distance next rate
          if step.lt (.float rateTolerance) then return some next
          else if 20 < newtonSteps - (left + 1)
              && (← distance next previous).lt (← (Number.float 0.5).mul step) then
            return none
          else plan.newtonFrom rate next left

def newton (plan : PaymentPlan) (start : Number) : Outcome (Option Number) :=
  plan.newtonFrom start start newtonSteps

/-- Halves a range of rates with a number of halvings left. The half that is kept has a change of
sign. -/
def bisect (plan : PaymentPlan) (low high : Float) (atLow : Number) : Nat → Outcome Float
  | 0 => return (low + high) / 2
  | left + 1 => do
    let middle := (low + high) / 2
    let (value, _) ← plan.worth (.float middle)
    if value.abs.lt (.float rateTolerance) || high - low < 1e-12 then return middle
    else if (← atLow.mul value).lt (.int 0) then plan.bisect low middle atLow left
    else plan.bisect middle high value left

/-- The worth of an annuity at the ends of a range, or nothing where it cannot be worked out. -/
def ends? (plan : PaymentPlan) (low high : Float) : Outcome (Option (Number × Number)) := do
  match ← plan.worth? (.float low) with
  | none => return none
  | some (atLow, _) =>
    match ← plan.worth? (.float high) with
    | none => return none
    | some (atHigh, _) => return some (atLow, atHigh)

/-- Halves the first range whose ends do not have the same sign. -/
def bisectFirst (plan : PaymentPlan) : List (Float × Float) → Outcome (Option Float)
  | [] => return none
  | (low, high) :: rest => do
    match ← plan.ends? low high with
    | none => plan.bisectFirst rest
    | some (atLow, atHigh) =>
      if (Number.int 0).lt (← atLow.mul atHigh) then plan.bisectFirst rest
      else return some (← plan.bisect low high atLow halvings)

/-- The interest rate of an annuity, from a starting rate if one is given. -/
def rate (plan : PaymentPlan) (guess : Value) : Run Number := do
  let ⟨periods, payment, present, future, _⟩ := plan
  if periods.le (.int 0) then refuse .periodsNotPositive
  else if (← (present + future + payment * periods : Calculation)).abs.lt (.float 1e-10) then
    return .float 0
  else
    let start ← (if guess.isEmpty then plan.startingRate else guess.toNumber : Outcome Number)
    match ← (plan.newton start : Outcome (Option Number)) with
    | some rate => return rate
    | none =>
      Run.noteShown do
        return "RATE: Newton-Raphson failed from " ++ (← start.shown) ++ ", trying bisection"
      match ← (plan.bisectFirst brackets : Outcome (Option Float)) with
      | some rate => return .float rate
      | none => refuse .noSignChange

/-- The interest rate of the annuity that arguments describe. -/
def rateOf (periods payment present future timing guess : Value) : Run Number := do
  let periods ← (periods.toNumber : Outcome Number)
  let payment ← (payment.toNumber : Outcome Number)
  let present ← (present.toNumber : Outcome Number)
  let future ← (future.toNumber : Outcome Number)
  let timing ← (Timing.ofValue timing : Outcome Timing)
  rate ⟨periods, payment, present, future, .int timing.weight⟩ guess

end PaymentPlan

end SheetFormulas.Finance
