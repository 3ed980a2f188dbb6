import SheetFormulas.Decimal.Places
import SheetFormulas.Number.Calculation
import SheetFormulas.Value.Coercion

/-!
Depreciation of an asset from its cost to its salvage value over its life.
-/

namespace SheetFormulas.Finance.Depreciation

/-- The same amount in each period. -/
def straightLine (cost salvage life : Value) : Outcome Number := do
  let life ← life.toNumber
  if life.isZero then refuse .zeroLife
  else
    let cost ← cost.toNumber
    let salvage ← salvage.toNumber
    ((cost - salvage) / life : Calculation)

/-- Amounts in proportion to the periods that are left. -/
def digitSum (cost salvage life period : Value) : Outcome Number := do
  let life ← life.toNumber
  let period ← period.toNumber
  if life.le (.int 0) || period.le (.int 0) || life.lt period then refuse .lifeOrPeriod
  else
    let cost ← cost.toNumber
    let salvage ← salvage.toNumber
    let base ← (cost - salvage : Calculation)
    (base * (life - period + 1) * 2 / (life * (life + 1)) : Calculation)

/-- The rate by which the value declines in each period to reach the salvage value, to three
decimal places. -/
def fixedRate (cost salvage life : Number) : Outcome Number := do
  let rate ← (1 - (salvage / cost) ^ (1 / life : Calculation) : Calculation)
  return .float (Decimal.roundToPlaces 3 (← rate.toFloat))

/-- The depreciation of later periods, given that of the last and of all so far. If the first year
was a part of a year, the period after the last takes the months that are left. -/
def fixedFrom (cost rate life : Number) (months : Int) (last total : Number) (period : Int) :
    Nat → Outcome Number
  | 0 => return last
  | left + 1 => do
    let full ← ((cost - total) * rate : Calculation)
    let amount ←
      if (← (life + 1 : Calculation)).eq (.int period) then
        (full * ((12 - months) / 12) : Calculation)
      else pure full
    fixedFrom cost rate life months amount (← total.add amount) (period + 1) left

/-- A fixed part of the value that is left, where the first year may be a part of a year. -/
def fixedBalance (cost salvage life period months : Value) : Outcome Number := do
  let cost ← cost.toNumber
  let salvage ← salvage.toNumber
  let life ← life.toNumber
  let period ← period.toInt
  let months ← months.toInt
  let lastPeriod ← if months < 12 then life.add (.int 1) else pure life
  if cost.lt (.int 0) || salvage.lt (.int 0) || life.le (.int 0) || period ≤ 0
      || lastPeriod.lt (.int period) then
    refuse .fixedBalanceArguments
  else if months < 1 ∨ 12 < months then refuse .partialYearMonths
  else if cost.isZero then return .float 0
  else
    let rate ← fixedRate cost salvage life
    let first ← (cost * rate * months / 12 : Calculation)
    fixedFrom cost rate life months first first 2 (period - 1).toNat

/-- The values at the start and at the end of a period when a part of what is left is taken off in
each period. -/
def decliningEnds (cost life period factor : Number) : Outcome (Number × Number) := do
  let rate ← (factor / life : Calculation)
  if (Number.int 1).le rate then
    let new ← (cost * (0 : Float) ^ (period : Calculation) : Calculation)
    return (if period.eq (.int 1) then cost else .float 0, new)
  else
    let old ← (cost * (1 - rate) ^ (period - 1 : Calculation) : Calculation)
    let new ← (cost * (1 - rate) ^ (period : Calculation) : Calculation)
    return (old, new)

/-- A multiple of the straight line rate applied to the value that is left, down to the salvage
value. -/
def declining (cost salvage life period factor : Number) : Outcome Number := do
  let (old, new) ← decliningEnds cost life period factor
  let amount ← if new.lt salvage then old.sub salvage else old.sub new
  return amount.max (.float 0)

def decliningBalance (cost salvage life period factor : Value) : Outcome Number := do
  let cost ← cost.toNumber
  let salvage ← salvage.toNumber
  let life ← life.toNumber
  let period ← period.toNumber
  let factor ← factor.toNumber
  if cost.lt (.int 0) || salvage.lt (.int 0) || life.le (.int 0) || period.le (.int 0)
      || life.lt period || factor.le (.int 0) then
    refuse .doubleBalanceArguments
  else declining cost salvage life period factor

end SheetFormulas.Finance.Depreciation
