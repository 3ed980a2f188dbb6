import SheetFormulas.Finance.Depreciation

/-!
Declining balance depreciation between any two points of the life of an asset, with a change to the
straight line once that gives more.
-/

namespace SheetFormulas.Finance.VariableBalance

/-- The state of a schedule: the amount that is left, the total so far, and the straight line amount
once the schedule has changed to it. -/
structure State where
  remaining : Number
  total : Number
  line : Option Number

/-- Adds the depreciation of one period, counted from zero. -/
def step (cost salvage life remainingLife factor : Number) (state : State) (elapsed : Nat) :
    Outcome State := do
  match state.line with
  | some line => return { state with total := ← state.total.add line }
  | none =>
    let amount ← Depreciation.declining cost salvage life (.int (elapsed + 1)) factor
    let line ← (state.remaining / (remainingLife - (elapsed : Int)) : Calculation)
    if amount.lt line then return ⟨state.remaining, ← state.total.add line, some line⟩
    else
      let remaining ← state.remaining.sub amount
      return ⟨remaining, ← state.total.add amount, none⟩

/-- The depreciation over the first periods. -/
def cumulative (cost salvage life remainingLife : Number) (periods : Int) (factor : Number) :
    Outcome Number := do
  let start : State := ⟨← cost.sub salvage, .float 0, none⟩
  return (← (List.range periods.toNat).foldlM
    (step cost salvage life remainingLife factor) start).total

/-- An asset, and the points in its life between which it is depreciated. -/
structure Asset where
  cost : Number
  salvage : Number
  life : Number
  start : Number
  finish : Number
  factor : Number

namespace Asset

/-- The start, rounded down to a whole period. -/
def firstPeriod (asset : Asset) : Int := asset.start.floor

/-- The end, rounded up to a whole period. -/
def lastPeriod (asset : Asset) : Int := asset.finish.ceil

/-- The depreciation over the first periods of the whole life. -/
def upTo (asset : Asset) (periods : Int) : Outcome Number :=
  cumulative asset.cost asset.salvage asset.life asset.life periods asset.factor

/-- The depreciation over some periods after the first `elapsed` ones, from the value that is left
then. -/
def after (asset : Asset) (elapsed periods : Int) (remainingLife : Number) : Outcome Number := do
  let value ← asset.cost.sub (← asset.upTo elapsed)
  cumulative value asset.salvage asset.life remainingLife periods asset.factor

/-- The part of a whole period that counts, without a change to the straight line. -/
def share? (asset : Asset) (period : Int) : Option Calculation :=
  if period = asset.firstPeriod + 1 then
    some (asset.finish.min (.int (asset.firstPeriod + 1)) - asset.start : Calculation)
  else if period = asset.lastPeriod then some (asset.finish + 1 - asset.lastPeriod : Calculation)
  else none

/-- The declining balance depreciation of a period, as far as the period counts. -/
def sharedAmount (asset : Asset) (period : Int) : Outcome Number := do
  let ⟨cost, salvage, life, _, _, factor⟩ := asset
  let amount ← Depreciation.declining cost salvage life (.int period) factor
  match asset.share? period with
  | some share => amount.mul (← share)
  | none => return amount

/-- The depreciation without a change to the straight line. -/
def withoutSwitch (asset : Asset) : Outcome Number :=
  (List.range (asset.lastPeriod - asset.firstPeriod).toNat).foldlM
    (fun total (i : Nat) => do
      total.add (← asset.sharedAmount (asset.firstPeriod + 1 + i)))
    (.float 0)

/-- The depreciation in the first whole period before the start. -/
def beforeStart (asset : Asset) : Outcome Number := do
  let first := asset.firstPeriod
  if asset.start.eq (.int first) then return .float 0
  else
    let skipped ← (asset.start - first : Calculation)
    let part ← skipped.mul (← asset.after first 1 (← asset.life.sub (.int first)))
    (Number.float 0).add part

/-- The depreciation in the first and in the last whole period that falls outside the points. -/
def outside (asset : Asset) : Outcome Number := do
  let last := asset.lastPeriod
  let before ← asset.beforeStart
  if asset.finish.eq (.int last) then return before
  else
    let skipped ← (last - asset.finish : Calculation)
    let left ← (asset.life - last + 1 : Calculation)
    before.add (← skipped.mul (← asset.after (last - 1) 1 left))

/-- The depreciation with a change to the straight line: that of whole periods without what falls
outside the points. -/
def withSwitch (asset : Asset) : Outcome Number := do
  let first := asset.firstPeriod
  let outside ← asset.outside
  let whole ← asset.after first (asset.lastPeriod - first) (← asset.life.sub (.int first))
  whole.sub outside

def ofArguments (cost salvage life start finish factor : Value) : Outcome Asset := do
  let cost ← cost.toNumber
  let salvage ← salvage.toNumber
  let life ← life.toNumber
  let start ← start.toNumber
  let finish ← finish.toNumber
  let factor ← factor.toNumber
  if !(← life.isFinite) || start.lt (.int 0) || finish.lt start || life.lt finish then
    refuse .variableBalancePeriods
  else if cost.lt (.int 0) || cost.lt salvage || factor.le (.int 0) then
    refuse .variableBalanceArguments
  else return ⟨cost, salvage, life, start, finish, factor⟩

end Asset

def depreciation (cost salvage life start finish factor noSwitch : Value) : Outcome Number := do
  let asset ← Asset.ofArguments cost salvage life start finish factor
  if ← noSwitch.toBool then asset.withoutSwitch else asset.withSwitch

end SheetFormulas.Finance.VariableBalance
