import SheetFormulas.Finance.Annuity

/-!
Amortization: how a payment of an annuity splits into interest and principal.
-/

namespace SheetFormulas.Finance.Amortization

/-- What is owed when a period begins. Of payments at the start of a period, the first bears no
interest. -/
def balanceBefore (rate period periods present future : Number) (timing : Timing) :
    Outcome Number := do
  let payment ← Annuity.payment rate periods present future timing
  if period.eq (.int 1) then
    match timing with
    | .atStart => return .float 0
    | .atEnd => return present.neg
  else
    match timing with
    | .atStart =>
      let elapsed ← period.sub (.int 2)
      let future ← Annuity.futureValue rate elapsed (.float payment) present .atStart
      return .float (future - payment)
    | .atEnd =>
      let elapsed ← period.sub (.int 1)
      return .float (← Annuity.futureValue rate elapsed (.float payment) present .atEnd)

/-- The interest part of the payment of a period. -/
def interest (rate period periods present future : Number) (timing : Timing) : Outcome Number := do
  if period.lt (.int 1) || periods.lt period then refuse (.periodOutOfRange (← period.shown))
  else (← balanceBefore rate period periods present future timing).mul rate

def interestPart (rate period periods present future timing : Value) : Outcome Number := do
  let rate ← rate.toNumber
  let period ← period.toNumber
  let periods ← periods.toNumber
  let present ← present.toNumber
  let future ← future.toNumber
  interest rate period periods present future (← Timing.ofValue timing)

def principalPart (rate period periods present future timing : Value) : Outcome Number := do
  let rate ← rate.toNumber
  let periods ← periods.toNumber
  let present ← present.toNumber
  let future ← future.toNumber
  let timing ← Timing.ofValue timing
  let interest ← interest rate (← period.toNumber) periods present future timing
  (← Annuity.payment rate periods present future timing : Float) - interest

/-- A loan and a range of its periods, both ends included. -/
structure Span where
  rate : Number
  periods : Number
  present : Number
  first : Int
  last : Int
  timing : Timing

namespace Span

/-- The timing with this number, which is zero or one. -/
def timingOf? (n : Number) : Option Timing :=
  if n.isZero then some .atEnd else if n.eq (.int 1) then some .atStart else none

/-- The span that arguments describe. -/
def ofArguments (rate periods present first last timing : Value) : Outcome Span := do
  let rate ← rate.toNumber
  let periods ← periods.toNumber
  let present ← present.toNumber
  let first ← first.toInt
  let last ← last.toInt
  let timing ← timing.toNumber
  if rate.le (.int 0) || periods.le (.int 0) || present.le (.int 0) then refuse .cumulativeSigns
  else if first < 1 ∨ last < first ∨ periods.lt (.int last) then refuse .cumulativeRange
  else
    match timingOf? timing with
    | none => refuse .cumulativeRange
    | some timing => return ⟨rate, periods, present, first, last, timing⟩

/-- The sum of an amount over all periods of the span, from the first on. -/
def sumOver (span : Span) (amount : Number → Outcome Number) : Outcome Number :=
  (List.range (span.last + 1 - span.first).toNat).foldlM
    (fun total (i : Nat) => do total.add (← amount (.int (span.first + i)))) (.int 0)

def interest (span : Span) (period : Number) : Outcome Number :=
  Amortization.interest span.rate period span.periods span.present (.int 0) span.timing

def totalInterest (span : Span) : Outcome Number := span.sumOver span.interest

def totalPrincipal (span : Span) : Outcome Number := do
  let payment ← Annuity.payment span.rate span.periods span.present (.int 0) span.timing
  span.sumOver fun period => do (Number.float payment).sub (← span.interest period)

end Span

end SheetFormulas.Finance.Amortization
