import SheetFormulas.Number.Calculation
import SheetFormulas.Value.Coercion

/-!
Annuities: equal payments over a number of periods at a fixed rate, with a present value at the
start and a future value at the end. Any one of the three amounts follows from the others, because
all cash flows together are worth nothing at the given rate.
-/

namespace SheetFormulas.Finance

/-- When in its period a payment is made. -/
inductive Timing where
  | atEnd
  | atStart
  deriving DecidableEq

namespace Timing

/-- One for payments at the start, zero for payments at the end. -/
def weight : Timing → Int
  | atEnd => 0
  | atStart => 1

def weightFloat : Timing → Float
  | atEnd => 0
  | atStart => 1

/-- The timing that an argument names: zero for the end, any other number for the start. -/
def ofValue (v : Value) : Outcome Timing := do
  return if (← v.toNumber).isZero then atEnd else atStart

end Timing

namespace Annuity

/-- What is left of an annuity without its amounts. -/
structure Terms where
  /-- What one unit grows to. -/
  growth : Float
  /-- What payments of one unit, one in each period, grow to. -/
  factor : Float

def growth (rate periods : Float) : Float := Binary64.pow (1 + rate) periods

def terms (timing : Timing) (rate periods : Float) : Terms :=
  let growth := growth rate periods
  ⟨growth,
    if rate == 0 then periods else (1 + rate * timing.weightFloat) * (growth - 1) / rate⟩

def Terms.futureValue (terms : Terms) (payment present : Float) : Float :=
  -(present * terms.growth + payment * terms.factor)

def Terms.presentValue (terms : Terms) (payment future : Float) : Float :=
  -(future + payment * terms.factor) / terms.growth

def Terms.payment (terms : Terms) (present future : Float) : Float :=
  -(future + present * terms.growth) / terms.factor

/-- A finite result, or else a refusal that names the formula. -/
def finite (formula : String) (result : Float) : Outcome Float :=
  if result.isFinite then .ok result else refuse (.resultNotFinite formula)

def futureValue (rate periods payment present : Number) (timing : Timing) : Outcome Float := do
  let rate ← rate.toFloat
  let periods ← periods.toFloat
  let payment ← payment.toFloat
  let present ← present.toFloat
  finite "fv" ((terms timing rate periods).futureValue payment present)

def presentValue (rate periods payment future : Number) (timing : Timing) : Outcome Float := do
  let rate ← rate.toFloat
  let periods ← periods.toFloat
  let payment ← payment.toFloat
  let future ← future.toFloat
  finite "pv" ((terms timing rate periods).presentValue payment future)

/-- The payment that turns a present value into a future value. -/
def payment (rate periods present future : Number) (timing : Timing) : Outcome Float := do
  if periods.isZero then refuse .zeroPeriods
  else
    let rate ← rate.toFloat
    let periods ← periods.toFloat
    let present ← present.toFloat
    let future ← future.toFloat
    finite "pmt" ((terms timing rate periods).payment present future)

/-- A closed form applied to four arguments and a timing. -/
def fromArguments (form : Number → Number → Number → Number → Timing → Outcome Float)
    (a b c d timing : Value) : Outcome Float := do
  let a ← a.toNumber
  let b ← b.toNumber
  let c ← c.toNumber
  let d ← d.toNumber
  form a b c d (← Timing.ofValue timing)

/-- The number of periods after which the payments reach the future value; it may be negative. -/
def periodCount (rate payment present future timing : Value) : Outcome Number := do
  let rate ← rate.toNumber
  let payment ← payment.toNumber
  let present ← present.toNumber
  let future ← future.toNumber
  let timing ← Timing.ofValue timing
  if rate.isZero then
    if payment.isZero then refuse .noRateNoPayment
    else (-(present + future) / payment : Calculation)
  else if rate.le (.int (-1)) then refuse .rateTooLow
  else
    let adjusted ← (payment * (1 + rate * timing.weight) / rate : Calculation)
    let numerator ← (adjusted - future : Calculation)
    let denominator ← (adjusted + present : Calculation)
    if denominator.isZero then refuse .noPeriodFits
    else
      let quotient ← (numerator / denominator : Calculation)
      if quotient.le (.int 0) then refuse .noPeriodFits
      else
        let base ← (1 + rate : Calculation)
        (quotient.ln / base.ln : Calculation)

end Annuity

end SheetFormulas.Finance
