import SheetFormulas.Proofs.Binary64.NonFinite
import SheetFormulas.Proofs.Catalog.Call
import SheetFormulas.Proofs.Finance.InternalRate
import SheetFormulas.Proofs.Number.Arithmetic
import SheetFormulas.Session

/-!
Which rates of return are reported. A reported rate always solves its flows: they are worth almost
nothing there, or it is one short step of Newton's method from a rate with a finite value and slope.
The bound for rates is checked after a step only. The guess is not checked, and an infinite rate is
not below the bound; all other reported rates are finite and keep it.
-/

namespace SheetFormulas

open Outcome

namespace Finance.InternalRate

open CashFlow

variable {flows : List Flow} {rate guess next found : Number} {base : Float} {n : Nat}

/-- Whether flows have a finite value and a finite slope at a rate. -/
structure FiniteAt (flows : List Flow) (rate : Number) (base : Float) : Prop where
  baseOf_eq : baseOf rate = .ok base
  value : (valueOf (grown flows base)).isFinite = true
  slope : (slopeOf (grown flows base) base).isFinite = true

/-- Whether flows are worth almost nothing at a rate. -/
def Worthless (flows : List Flow) (rate : Number) : Prop :=
  ∃ base, FiniteAt flows rate base ∧ (valueOf (grown flows base)).abs < tolerance

/-- The rate that a step of Newton's method leads to. -/
def stepTo (flows : List Flow) (base current : Float) : Float :=
  current - valueOf (grown flows base) / slopeOf (grown flows base) base

/-- Whether a step of Newton's method from one rate to another is short. -/
structure ShortStep (flows : List Flow) (previous rate : Number) (base current : Float) : Prop where
  finite : FiniteAt flows previous base
  current_eq : previous.toFloat = .ok current
  rate_eq : rate = .float (stepTo flows base current)
  short : (stepTo flows base current - current).abs < tolerance

/-- Whether a rate solves flows. -/
def Solves (flows : List Flow) (rate : Number) : Prop :=
  Worthless flows rate ∨ ∃ previous base current, ShortStep flows previous rate base current

/-- Whether a rate is finite and keeps the bound for rates. -/
def Admissible (rate : Number) : Prop :=
  rate.IsFinite ∧ (Number.float leastRate).le rate = true

/-- Whether a rate is above all numbers. -/
def IsInfinite (rate : Number) : Prop :=
  ∃ x, rate = .float x ∧ x.isInf = true ∧ Binary64.isNegative x = false

/-- What a rate has that is reported for flows and a guess. -/
structure Reported (flows : List Flow) (guess rate : Number) : Prop where
  isNumber : rate.isNaN = false
  solves : Solves flows rate
  admissible : Admissible rate ∨ Worthless flows rate ∧ (rate = guess ∨ IsInfinite rate)

theorem isFinite_tolerance : tolerance.isFinite = true := by decide +kernel

theorem isFinite_leastRate : leastRate.isFinite = true := by decide +kernel

/-- There is no finite slope at what is no number. -/
theorem FiniteAt.isNaN_eq (h : FiniteAt flows rate base) (hne : flows ≠ []) : rate.isNaN = false := by
  cases rate with
  | int n => rfl
  | float x =>
    by_contra hnan
    have hx : x.isNaN = true := Bool.of_not_eq_false hnan
    have hbase : base.isNaN = true := by
      have hsum : (1 : Float) + x = base := Except.ok.inj h.baseOf_eq
      rw [← hsum]
      exact Binary64.isNaN_add_right hx
    obtain ⟨flow, hmem⟩ := List.exists_mem_of_ne_nil flows hne
    have hslope := h.slope
    rw [slopeOf_grown] at hslope
    have hterm := isFinite_of_sumFloat hslope _ (List.mem_map_of_mem hmem)
    have hterm' : (slopeTerm base flow).isNaN = true :=
      Binary64.isNaN_div_right (Binary64.isNaN_mul_right hbase)
    rw [Binary64.not_isNaN_of_isFinite hterm] at hterm'
    cases hterm'

/-- A step that leads to no rate has come to a solution, before or after it moves. -/
theorem eq_of_step_solved (h : step flows rate = .ok (.inl (.solved found))) :
    found = rate ∧ Worthless flows rate ∨
      ∃ base current, ShortStep flows rate found base current ∧
        ¬ stepTo flows base current < leastRate := by
  obtain ⟨base, hbase, h⟩ := bind_eq_ok_iff.mp h
  dsimp only at h
  split_ifs at h with hfinite hsmall hflat
  · cases h
  · cases h
    rw [Bool.not_eq_true', Bool.not_eq_false, Bool.and_eq_true] at hfinite
    exact .inl ⟨rfl, base, ⟨hbase, hfinite.1, hfinite.2⟩, hsmall⟩
  · cases h
  · obtain ⟨current, hcurrent, h⟩ := bind_eq_ok_iff.mp h
    rw [Bool.not_eq_true', Bool.not_eq_false, Bool.and_eq_true] at hfinite
    split_ifs at h with hleast hclose
    · cases h
    · cases h
      exact .inr ⟨base, current,
        ⟨⟨hbase, hfinite.1, hfinite.2⟩, hcurrent, rfl, hclose⟩, hleast⟩
    · cases h

/-- A step that goes on leads to a rate that is not below the bound. -/
theorem not_lt_of_step (h : step flows rate = .ok (.inr next)) :
    ∃ x, next = .float x ∧ ¬ x < leastRate := by
  obtain ⟨base, -, h⟩ := bind_eq_ok_iff.mp h
  dsimp only at h
  split_ifs at h
  · cases h
  · cases h
  · cases h
  · obtain ⟨current, -, h⟩ := bind_eq_ok_iff.mp h
    split_ifs at h with hleast
    · cases h
    · cases h
    · cases h
      exact ⟨_, rfl, hleast⟩

/-- All rates that a search comes to but the guess have passed the check after a step. -/
theorem eq_guess_or_not_lt_of_visits (h : Visits (step flows) guess n rate) :
    rate = guess ∨ ∃ x, rate = .float x ∧ ¬ x < leastRate := by
  cases h with
  | start => exact .inl rfl
  | next _ hstep => exact .inr (not_lt_of_step hstep)

/-- A finite rate that is not below the bound keeps it. -/
theorem admissible_of_not_lt {x : Float} (hx : x.isFinite = true) (h : ¬ x < leastRate) :
    Admissible (.float x) := by
  refine ⟨(Number.isFinite_float x).mpr hx, ?_⟩
  rw [Binary64.lt_iff hx isFinite_leastRate, not_lt] at h
  exact ((Number.isExact_float isFinite_leastRate).le_iff (Number.isExact_float hx)).mpr h

/-- Of the other rates that are not below the bound, one is above all numbers. -/
theorem admissible_or_infinite {x : Float} (hx : x.isNaN = false) (h : ¬ x < leastRate) :
    Admissible (.float x) ∨ IsInfinite (.float x) := by
  cases hinf : x.isInf with
  | false => exact .inl (admissible_of_not_lt (Binary64.isFinite_of_not hx hinf) h)
  | true => exact .inr ⟨x, rfl, hinf, Binary64.isNegative_of_not_lt isFinite_leastRate hinf h⟩

theorem ShortStep.isFinite {current : Float} (h : ShortStep flows rate found base current) :
    (stepTo flows base current).isFinite = true :=
  (Binary64.isFinite_of_sub (Binary64.isFinite_of_abs_lt isFinite_tolerance h.short)).1

/-- What Newton's method comes to as a solution. -/
theorem reported_of_newtonFrom (hne : flows ≠ [])
    (h : newtonFrom flows guess stepLimit = .ok (.solved rate)) : Reported flows guess rate := by
  rw [newtonFrom_eq_loop] at h
  rcases loop_eq_ok h with ⟨n, -, previous, hvisits, hstep⟩ | ⟨last, -, hlast⟩
  · rcases eq_of_step_solved hstep with ⟨rfl, hworthless⟩ | ⟨base, current, hshort, hleast⟩
    · obtain ⟨base, hfinite, -⟩ := id hworthless
      have hnan := hfinite.isNaN_eq hne
      refine ⟨hnan, .inl hworthless, ?_⟩
      rcases eq_guess_or_not_lt_of_visits hvisits with hguess | ⟨x, rfl, hx⟩
      · exact .inr ⟨hworthless, .inl hguess⟩
      · exact (admissible_or_infinite hnan hx).imp_right fun hinf => ⟨hworthless, .inr hinf⟩
    · have hf := hshort.isFinite
      refine ⟨?_, .inr ⟨previous, base, current, hshort⟩, .inl ?_⟩
      · rw [hshort.rate_eq]
        exact Binary64.not_isNaN_of_isFinite hf
      · rw [hshort.rate_eq]
        exact admissible_of_not_lt hf hleast
  · cases hlast

/-- A guess is reported as it is where flows are worth almost nothing at it. -/
theorem newtonFrom_of_worthless (h : Worthless flows guess) (left : Nat) :
    newtonFrom flows guess (left + 1) = .ok (.solved guess) := by
  obtain ⟨base, hfinite, hsmall⟩ := h
  rw [newtonFrom, hfinite.baseOf_eq, ok_bind]
  dsimp only
  rw [hfinite.value, hfinite.slope, Bool.and_self, Bool.not_true, if_neg Bool.false_ne_true,
    if_pos hsmall]
  rfl

/-! The calls. -/

/-- The rate of flows, without a note where there is none. -/
def solution (name : String) (flows : List Flow) (guess : Number) : Outcome Number := do
  match ← newtonFrom flows guess stepLimit with
  | .solved rate => return rate
  | .stopped _ => refuse (.noConvergence name)

theorem noteShown_yields (text : Outcome String) : (Run.noteShown text).Yields (.ok ()) [] := by
  cases text with
  | ok text => exact .note text
  | error fault => exact .pure ()

theorem solve_yields (name : String) (flows : List Flow) (guess : Number) :
    (solve name flows guess).Yields (solution name flows guess) [] := by
  refine .bind_ofOutcome fun last _ => ?_
  cases last with
  | solved rate => exact .pure rate
  | stopped rate => exact (noteShown_yields _).bind (.ofOutcome (refuse (.noConvergence name)))

/-- The flows of payments in successive periods. -/
def periodicFlows (values : Value) : Outcome (List Flow) := do
  return periodicFrom 0 (← amounts values)

/-- The flows of dated payments, of which there are two at least. -/
def datedFlows (values dates : Value) : Outcome (List Flow) := do
  let flows ← CashFlow.dated values dates
  if flows.length < 2 then refuse .tooFewFlows else return flows

/-- The rate of flows with payments in and out. -/
def search (name : String) (flows : Outcome (List Flow)) (guess : Value) : Outcome Number := do
  let flows ← flows
  requireBothSigns (flows.map Flow.amount) .badNumber
  solution name flows (← guess.toNumber)

theorem map_amount_periodicFrom (start : Nat) (amounts : List Float) :
    (periodicFrom start amounts).map Flow.amount = amounts := by
  induction amounts generalizing start with
  | nil => rfl
  | cons amount rest ih => rw [periodicFrom, List.map_cons, ih]

theorem periodic_yields (values guess : Value) :
    (periodic values guess).Yields (search "IRR" (periodicFlows values) guess) [] := by
  rw [search, periodicFlows, bind_assoc]
  refine .bind_ofOutcome fun amounts _ => ?_
  rw [pure_bind, map_amount_periodicFrom]
  refine .bind_ofOutcome fun _ _ => ?_
  exact .bind_ofOutcome fun guess _ => solve_yields _ _ _

theorem dated_yields (values dates guess : Value) :
    (dated values dates guess).Yields (search "XIRR" (datedFlows values dates) guess) [] := by
  rw [search, datedFlows, bind_assoc]
  refine .bind_ofOutcome fun flows _ => ?_
  split_ifs
  · exact .ofOutcome (refuse .tooFewFlows)
  · rw [pure_bind]
    refine .bind_ofOutcome fun _ _ => ?_
    exact .bind_ofOutcome fun guess _ => solve_yields _ _ _

/-- A rate that is found for flows and a guess is reported as it should be. -/
theorem reported_of_search {name : String} {outcome : Outcome (List Flow)} {guess : Value}
    (h : search name outcome guess = .ok rate) :
    ∃ flows start, outcome = .ok flows ∧ guess.toNumber = .ok start ∧
      Reported flows start rate := by
  obtain ⟨flows, hflows, h⟩ := bind_eq_ok_iff.mp h
  obtain ⟨_, hsigns, h⟩ := bind_eq_ok_iff.mp h
  obtain ⟨start, hstart, h⟩ := bind_eq_ok_iff.mp h
  obtain ⟨last, hlast, h⟩ := bind_eq_ok_iff.mp h
  have hne : flows ≠ [] := by
    rintro rfl
    cases hsigns
  cases last with
  | solved found =>
    cases h
    exact ⟨flows, start, hflows, hstart, reported_of_newtonFrom hne hlast⟩
  | stopped last => cases h

/-- Calls of the functions for internal rates of return, with the flows and the guess that they
search from. -/
inductive ReturnCall : String → List Value → Outcome (List Flow) → Value → Prop where
  | periodic (values : Value) : ReturnCall "IRR" [values] (periodicFlows values) (.ofFloat 0.1)
  | periodicFrom (values guess : Value) : ReturnCall "IRR" [values, guess] (periodicFlows values) guess
  | dated (values dates : Value) :
      ReturnCall "XIRR" [values, dates] (datedFlows values dates) (.ofFloat 0.1)
  | datedFrom (values dates guess : Value) :
      ReturnCall "XIRR" [values, dates, guess] (datedFlows values dates) guess

theorem ReturnCall.yields (context : Context) {name : String} {arguments : List Value}
    {outcome : Outcome (List Flow)} {guess : Value} (h : ReturnCall name arguments outcome guess) :
    (Catalog.standard.call context name arguments []).Yields
      (Entry.guarded arguments (Value.number <$> search name outcome guess)) [] := by
  cases h with
  | periodic values =>
    rw [Catalog.standard_call rfl]
    exact Entry.call_yields_guarded rfl ((periodic_yields values _).map Answer.toValue)
  | periodicFrom values guess =>
    rw [Catalog.standard_call rfl]
    exact Entry.call_yields_guarded rfl ((periodic_yields values guess).map Answer.toValue)
  | dated values dates =>
    rw [Catalog.standard_call rfl]
    exact Entry.call_yields_guarded rfl ((dated_yields values dates _).map Answer.toValue)
  | datedFrom values dates guess =>
    rw [Catalog.standard_call rfl]
    exact Entry.call_yields_guarded rfl ((dated_yields values dates guess).map Answer.toValue)

theorem eq_ok_of_guarded {arguments : List Value} {outcome : Outcome Number}
    (h : Entry.guarded arguments (Value.number <$> outcome) = .ok (.number rate)) :
    outcome = .ok rate := by
  unfold Entry.guarded at h
  split at h
  · cases h
  · rcases outcome with (cause | cause) | found
    · cases h
    · cases h
    · cases h
      rfl

/-- A rate that is reported solves its flows. It is finite and keeps the bound for rates, unless it is
the guess or above all numbers; then the flows are worth almost nothing there. -/
theorem reported_rate_admissible_unless_unchecked (context : Context) {name : String}
    {arguments : List Value} {outcome : Outcome (List Flow)} {guess : Value}
    (h : ReturnCall name arguments outcome guess)
    (hr : (Catalog.standard.call context name arguments []).Yields (.ok (.number rate)) []) :
    ∃ flows start, outcome = .ok flows ∧ guess.toNumber = .ok start ∧ Reported flows start rate :=
  reported_of_search (eq_ok_of_guarded ((h.yields context).unique hr).1)

/-- A rate that is far below the bound is reported where it is the guess. -/
theorem reported_rate_admissible_unless_low_guess :
    let context := Environment.contextAt ⟨Catalog.standard, [], ⟨⟨2024, 1, 15⟩, .midnight⟩⟩ 1
    let payments : Value := .array [.ofInt (-1), .ofInt 1, .ofInt 2]
    (Catalog.standard.call context "IRR" [payments, .ofInt (-2)] []).Yields (.ok (.ofInt (-2))) [] ∧
      ¬ Admissible (.int (-2)) ∧
      ∃ flows start, periodicFlows payments = .ok flows ∧ (Value.ofInt (-2)).toNumber = .ok start ∧
        Reported flows start (.int (-2)) := by
  intro context payments
  have hamounts : CashFlow.amounts payments = .ok [-1, 1, 2] := by
    rw [CashFlow.amounts, flatten_eq_leavesOf]
    decide +kernel
  have hflows : periodicFlows payments = .ok (periodicFrom 0 [-1, 1, 2]) := by
    rw [periodicFlows, hamounts]
    rfl
  have hguess : (Value.ofInt (-2)).toNumber = .ok (.int (-2)) := Value.toNumber_number rfl
  have hworthless : Worthless (periodicFrom 0 [-1, 1, 2]) (.int (-2)) :=
    ⟨-1, ⟨by decide +kernel, by decide +kernel, by decide +kernel⟩, by decide +kernel⟩
  have hsearch : search "IRR" (periodicFlows payments) (.ofInt (-2)) = .ok (.int (-2)) := by
    rw [search, hflows, ok_bind, map_amount_periodicFrom, hguess]
    rw [show requireBothSigns [-1, 1, 2] .badNumber = .ok () by decide +kernel, ok_bind, ok_bind,
      solution, stepLimit, newtonFrom_of_worthless hworthless]
    rfl
  have hcall := (ReturnCall.periodicFrom payments (.ofInt (-2))).yields context
  rw [hsearch] at hcall
  refine ⟨hcall, fun hadmissible => absurd hadmissible.2 (by decide +kernel), ?_⟩
  exact reported_rate_admissible_unless_unchecked context (.periodicFrom payments (.ofInt (-2))) hcall

end Finance.InternalRate

end SheetFormulas
