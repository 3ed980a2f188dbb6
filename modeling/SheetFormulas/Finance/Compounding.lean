import SheetFormulas.Number.Calculation
import SheetFormulas.Value.Coercion
import SheetFormulas.Value.Leaves

/-!
Compound interest: nominal and effective rates, and a principal under changing rates.
-/

namespace SheetFormulas.Finance.Compounding

/-- The effective rate of a year for a nominal rate that is compounded in each period. -/
def effectiveRate (nominal periods : Value) : Outcome Number := do
  let rate ← nominal.toNumber
  let periods ← periods.toInt
  if rate.le (.int 0) || periods < 1 then refuse .effectiveArguments
  else ((1 + rate / periods) ^ (periods : Calculation) - 1 : Calculation)

/-- The nominal rate that is compounded in each period to an effective rate of a year. -/
def nominalRate (effective periods : Value) : Outcome Number := do
  let rate ← effective.toNumber
  let periods ← periods.toInt
  if rate.le (.int 0) || periods < 1 then refuse .nominalArguments
  else (((1 + rate) ^ (1 / periods : Calculation) - 1) * periods : Calculation)

/-- An amount after one more period at a rate. -/
def compound (amount : Number) (rate : Value) : Outcome Number := do
  let rate ← rate.toNumber
  (amount * (1 + rate) : Calculation)

/-- What a principal grows to under a list of rates. -/
def schedule (principal rates : Value) : Outcome Number := do
  (flatten [rates]).foldlM compound (← principal.toNumber)

end SheetFormulas.Finance.Compounding
