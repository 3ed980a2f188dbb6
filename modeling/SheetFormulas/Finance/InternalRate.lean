import SheetFormulas.Finance.CashFlow
import SheetFormulas.Run

/-!
Internal rates of return: the rate at which flows are worth nothing, by Newton's method.
-/

namespace SheetFormulas.Finance.InternalRate

def stepLimit : Nat := 100

/-- A value, or a step, below this counts as zero. -/
def tolerance : Float := 1e-7

/-- Slopes below this are too flat to follow. -/
def flatSlope : Float := 1e-10

/-- The least rate that a step may reach. -/
def leastRate : Float := -0.99999

/-- Where the method ends: at a solution, or at a rate from which it cannot go on. -/
inductive End where
  | solved (rate : Number)
  | stopped (rate : Number)

/-- Newton's method with a number of steps left. -/
def newtonFrom (flows : List Flow) (rate : Number) : Nat → Outcome End
  | 0 => return .stopped rate
  | left + 1 => do
    let base ← CashFlow.baseOf rate
    let grown := CashFlow.grown flows base
    let value := CashFlow.valueOf grown
    let slope := CashFlow.slopeOf grown base
    if !(value.isFinite && slope.isFinite) then return .stopped rate
    else if value.abs < tolerance then return .solved rate
    else if slope.abs < flatSlope then return .stopped rate
    else
      let current ← rate.toFloat
      let next := current - value / slope
      if next < leastRate then return .stopped rate
      else if (next - current).abs < tolerance then return .solved (.float next)
      else newtonFrom flows (.float next) left

/-- The rate at which flows are worth nothing, from a guess. -/
def solve (name : String) (flows : List Flow) (guess : Number) : Run Number := do
  match ← (newtonFrom flows guess stepLimit : Outcome End) with
  | .solved rate => return rate
  | .stopped rate =>
    Run.noteShown do
      return name ++ ": no convergence from guess " ++ (← guess.shown) ++ ", stopped at "
        ++ (← rate.shown)
    refuse (.noConvergence name)

/-- The internal rate of return of payments in successive periods. -/
def periodic (values guess : Value) : Run Number := do
  let amounts ← (CashFlow.amounts values : Outcome (List Float))
  CashFlow.requireBothSigns amounts .badNumber
  solve "IRR" (CashFlow.periodicFrom 0 amounts) (← (guess.toNumber : Outcome Number))

/-- The internal rate of return of dated payments. -/
def dated (values dates guess : Value) : Run Number := do
  let flows ← (CashFlow.dated values dates : Outcome (List Flow))
  if flows.length < 2 then refuse .tooFewFlows
  else
    CashFlow.requireBothSigns (flows.map Flow.amount) .badNumber
    solve "XIRR" flows (← (guess.toNumber : Outcome Number))

end SheetFormulas.Finance.InternalRate
