import SheetFormulas.Proofs.Catalog.Call
import SheetFormulas.Proofs.Finance.InterestRate
import SheetFormulas.Proofs.Finance.InternalRate
import SheetFormulas.Session

/-!
Rates in another currency unit. The functions that search for a rate answer the same when all amounts
are multiplied by a power of two, errors and notes included, as long as their searches agree: at each
rate that a search comes to, what is worked out from the amounts stays in the range of doubles, and
each test of an amount has the same outcome. The bounds of these tests do not go with the unit.
-/

namespace SheetFormulas

open Outcome

theorem Catalog.standard_call_congr {context : Context} {name : String} {entry : Entry}
    {arguments arguments' : List Value} (h : standard.find? name = some entry)
    (herror : Entry.firstErrorOf arguments [] = Entry.firstErrorOf arguments' [])
    (hbody : entry.body context arguments [] = entry.body context arguments' []) :
    standard.call context name arguments [] = standard.call context name arguments' [] := by
  rw [standard_call h, standard_call h, Entry.call, Entry.call, Entry.run, Entry.run, herror, hbody]

namespace Finance

/-- Calls of the functions that search for a rate, and calls with `2 ^ j` times their amounts whose
searches agree with theirs. -/
inductive Rescaled (j : Nat) : String → List Value → List Value → Prop where
  | periodic {values values' : Value} (guess : Value) :
      ArrayScaled j values values' →
      (∀ xs ys rate, CashFlow.amounts values = .ok xs → CashFlow.amounts values' = .ok ys →
        guess.toNumber = .ok rate → (∀ x ∈ xs, x.isFinite = true) →
        InternalRate.Agrees j (CashFlow.periodicFrom 0 xs) (CashFlow.periodicFrom 0 ys) rate) →
      Rescaled j "IRR" [values, guess] [values', guess]
  | dated {values values' : Value} (dates guess : Value) :
      ArrayScaled j values values' →
      (∀ flows flows' rate, CashFlow.dated values dates = .ok flows →
        CashFlow.dated values' dates = .ok flows' → guess.toNumber = .ok rate →
        (∀ flow ∈ flows, flow.amount.isFinite = true) →
        InternalRate.Agrees j flows flows' rate) →
      Rescaled j "XIRR" [values, dates, guess] [values', dates, guess]
  | annuity {payment payment' present present' future future' : Number}
      (periods timing guess : Value) :
      Number.Scaled j payment payment' → Number.Scaled j present present' →
      Number.Scaled j future future' →
      (∀ plan plan',
        PaymentPlan.ofArguments periods (.number payment) (.number present) (.number future) timing =
          .ok plan →
        PaymentPlan.ofArguments periods (.number payment') (.number present') (.number future')
          timing = .ok plan' →
        plan.periods.le (.int 0) = false → plan.Agrees j plan' guess) →
      Rescaled j "RATE"
        [periods, .number payment, .number present, .number future, timing, guess]
        [periods, .number payment', .number present', .number future', timing, guess]

/-- Rates do not depend on the currency unit where the searches for them agree. -/
theorem rates_eq_of_rescaled (context : Context) {j : Nat} {name : String}
    {arguments arguments' : List Value} (h : Rescaled j name arguments arguments') :
    Catalog.standard.call context name arguments [] =
      Catalog.standard.call context name arguments' [] := by
  cases h with
  | periodic guess hvalues ha =>
    refine Catalog.standard_call_congr rfl ?_ (congrArg answerRun (InternalRate.periodic_eq hvalues ha))
    simp only [Entry.firstErrorOf, List.map_nil, List.append_nil, List.findSome?_cons,
      hvalues.error?_eq]
  | dated dates guess hvalues ha =>
    refine Catalog.standard_call_congr rfl ?_ (congrArg answerRun (InternalRate.dated_eq hvalues ha))
    simp only [Entry.firstErrorOf, List.map_nil, List.append_nil, List.findSome?_cons,
      hvalues.error?_eq]
  | annuity periods timing guess hpayment hpresent hfuture ha =>
    exact Catalog.standard_call_congr rfl rfl
      (congrArg answerRun (PaymentPlan.rateOf_eq hpayment hpresent hfuture ha))

theorem leavesOf_floats (xs : List Float) :
    Value.leavesOf (xs.map .ofFloat) = xs.map .ofFloat := by
  induction xs with
  | nil => rfl
  | cons x rest ih =>
    rw [List.map_cons, Value.leavesOf, ih]
    rfl

theorem arrayScaled_of_floats {j : Nat} {xs ys : List Float}
    (h : List.Forall₂ (Binary64.Scaled j) xs ys) :
    ArrayScaled j (.array (xs.map .ofFloat)) (.array (ys.map .ofFloat)) where
  error?_eq := rfl
  leaves := by
    rw [Value.leaves, Value.leaves, leavesOf_floats, leavesOf_floats, List.forall₂_map_left_iff,
      List.forall₂_map_right_iff]
    exact h.imp fun _ _ hx => .number (.ok (.finite hx))

/-- Twice the amounts have the same rates. -/
theorem rates_eq_of_doubled :
    let context := Environment.contextAt ⟨Catalog.standard, [], ⟨⟨2024, 1, 15⟩, .midnight⟩⟩ 1
    let flows : Value := .array ([-1, 1.5].map .ofFloat)
    let flows' : Value := .array ([-2, 3].map .ofFloat)
    let dates : Value := .array [.ofInt 1, .ofInt 366]
    let guess : Value := .ofFloat 0.4375
    let terms (payment present : Int) : List Value :=
      [.ofInt 2, .ofInt payment, .ofInt present, .ofInt 0, .ofInt 1, guess]
    (Rescaled 1 "IRR" [flows, guess] [flows', guess] ∧
      Catalog.standard.call context "IRR" [flows, guess] [] =
        Catalog.standard.call context "IRR" [flows', guess] []) ∧
    (Rescaled 1 "XIRR" [flows, dates, guess] [flows', dates, guess] ∧
      Catalog.standard.call context "XIRR" [flows, dates, guess] [] =
        Catalog.standard.call context "XIRR" [flows', dates, guess] []) ∧
    (Rescaled 1 "RATE" (terms (-2) 3) (terms (-4) 6) ∧
      Catalog.standard.call context "RATE" (terms (-2) 3) [] =
        Catalog.standard.call context "RATE" (terms (-4) 6) []) := by
  intro context flows flows' dates guess terms
  have hflows : ArrayScaled 1 flows flows' := arrayScaled_of_floats (by decide +kernel)
  have hguess : guess.toNumber = .ok (.float 0.4375) := Value.toNumber_number (by decide +kernel)
  have hamounts : CashFlow.amounts flows = .ok [-1, 1.5] := by
    rw [CashFlow.amounts, flatten_eq_leavesOf]
    rfl
  have hamounts' : CashFlow.amounts flows' = .ok [-2, 3] := by
    rw [CashFlow.amounts, flatten_eq_leavesOf]
    rfl
  have hperiodic : Rescaled 1 "IRR" [flows, guess] [flows', guess] := by
    refine .periodic guess hflows fun xs ys rate hxs hys hrate _ => ?_
    obtain rfl := Except.ok.inj (hamounts.symm.trans hxs)
    obtain rfl := Except.ok.inj (hamounts'.symm.trans hys)
    obtain rfl := Except.ok.inj (hguess.symm.trans hrate)
    exact InternalRate.agrees_of_throughout (by decide +kernel)
  have hdated : Rescaled 1 "XIRR" [flows, dates, guess] [flows', dates, guess] := by
    let days : List Float := [Binary64.ofInt 1, Binary64.ofInt 366]
    have hserial (n : Int) (h : n.natAbs < 2 ^ 9) : (Value.ofInt n).toFloor = .ok n :=
      Value.toFloor_ofInt n (h.trans_le (Nat.pow_le_pow_right (by decide) (by decide)))
    have hdays : CashFlow.days dates = .ok days := by
      have hleaves : flatten [dates] = [.ofInt 1, .ofInt 366] := flatten_eq_leavesOf _
      rw [CashFlow.days, hleaves, List.mapM_cons, List.mapM_cons, hserial 1 (by decide),
        hserial 366 (by decide)]
      rfl
    have htimed {values : Value} {x y : Float} (h : CashFlow.amounts values = .ok [x, y]) :
        CashFlow.dated values dates = .ok (List.zipWith Flow.mk [x, y]
          (days.map (CashFlow.yearsBetween (Binary64.ofInt 1)))) := by
      have hlength : ¬ [x, y].length ≠ [Binary64.ofInt 366].length + 1 := by simp
      have hinOrder : ¬ [Binary64.ofInt 366].any (· < Binary64.ofInt 1) = true := by decide +kernel
      rw [CashFlow.dated, h, hdays, ok_bind, ok_bind]
      dsimp only [days]
      rw [if_neg hlength, if_neg hinOrder]
      rfl
    refine .dated dates guess hflows fun _ _ rate hxs hys hrate _ => ?_
    obtain rfl := Except.ok.inj ((htimed hamounts).symm.trans hxs)
    obtain rfl := Except.ok.inj ((htimed hamounts').symm.trans hys)
    obtain rfl := Except.ok.inj (hguess.symm.trans hrate)
    exact InternalRate.agrees_of_throughout (by decide +kernel)
  have hannuity : Rescaled 1 "RATE" (terms (-2) 3) (terms (-4) 6) := by
    refine .annuity (.ofInt 2) (.ofInt 1) guess (.ofInt (n := -2) (by decide +kernel))
      (.ofInt (n := 3) (by decide +kernel)) (.ofInt (n := 0) (by decide +kernel)) ?_
    intro plan plan' hplan hplan' _
    cases hplan
    cases hplan'
    exact .of_newton (by decide +kernel) (by decide +kernel) rfl hguess (by decide +kernel)
      (by decide +kernel)
  exact ⟨⟨hperiodic, rates_eq_of_rescaled context hperiodic⟩,
    ⟨hdated, rates_eq_of_rescaled context hdated⟩,
    hannuity, rates_eq_of_rescaled context hannuity⟩

/-- Whether a run answers with a number below a bound. -/
def answersBelow (bound : Number) (run : Run Value) : Bool :=
  match run.start.1 >>= Value.toNumber with
  | .ok answer => answer.lt bound
  | .error _ => false

theorem ne_of_answersBelow (bound : Number) {run run' : Run Value}
    (h : answersBelow bound run = true) (h' : answersBelow bound run' = false) : run ≠ run' := by
  rintro rfl
  rw [h] at h'
  cases h'

/-- Rates depend on the currency unit where the searches for them do not agree: where the tests for
no interest or for a small value differ, where amounts leave the range of doubles or come down to the
least doubles, and where whole numbers become doubles. -/
theorem rates_ne_of_rescaled :
    let context := Environment.contextAt ⟨Catalog.standard, [], ⟨⟨2024, 1, 15⟩, .midnight⟩⟩ 1
    let call := fun name arguments => Catalog.standard.call context name arguments []
    let floats : List Float → Value := fun xs => .array (xs.map .ofFloat)
    let guess : Value := .ofFloat 0.1
    let loan : Number → Number → List Value := fun present future =>
      [.ofInt 1, .ofInt 0, .number present, .number future, .ofInt 0, guess]
    let annuity : Number → Number → List Value := fun payment present =>
      [.ofInt 3, .number payment, .number present, .ofInt 0, .ofInt 0, guess]
    let dates : Value := .array [.ofInt 1, .ofInt 36001]
    (Number.Scaled 40 (.float (-9.094947017729282e-13)) (.float (-1)) ∧
      Number.Scaled 40 (.float 1.3642420526593924e-12) (.float 1.5) ∧
      call "RATE" (loan (.float (-9.094947017729282e-13)) (.float 1.3642420526593924e-12)) ≠
        call "RATE" (loan (.float (-1)) (.float 1.5))) ∧
    (ArrayScaled 30 (floats [-9.313225746154785e-10, 1.3969838619232178e-9]) (floats [-1, 1.5]) ∧
      call "IRR" [floats [-9.313225746154785e-10, 1.3969838619232178e-9], guess] ≠
        call "IRR" [floats [-1, 1.5], guess]) ∧
    (ArrayScaled 1023 (floats [-1, 1, 1])
        (floats [-8.98846567431158e307, 8.98846567431158e307, 8.98846567431158e307]) ∧
      call "IRR" [floats [-1, 1, 1], guess] ≠ call "IRR"
        [floats [-8.98846567431158e307, 8.98846567431158e307, 8.98846567431158e307], guess]) ∧
    (ArrayScaled 10 (floats [-1.52587890625e-5, 1.5e-323]) (floats [-0.015625, 1.518e-320]) ∧
      call "XIRR" [floats [-1.52587890625e-5, 1.5e-323], dates, .ofFloat (-0.9994)] ≠
        call "XIRR" [floats [-0.015625, 1.518e-320], dates, .ofFloat (-0.9994)]) ∧
    Binary64.Scaled 1 (Number.int 9007199254740991).double 18014398509481982 ∧
      Binary64.Scaled 1 (Number.int (-27021597764222972)).double (-54043195528445944) ∧
      call "RATE" (annuity (.int 9007199254740991) (.int (-27021597764222972))) ≠
        call "RATE" (annuity (.float 18014398509481982) (.float (-54043195528445944))) := by
  intro context call floats guess loan annuity dates
  refine ⟨⟨.ofFloat (by decide +kernel), .ofFloat (by decide +kernel), ?_⟩,
    ⟨arrayScaled_of_floats (by decide +kernel), ?_⟩,
    ⟨arrayScaled_of_floats (by decide +kernel), ?_⟩,
    ⟨arrayScaled_of_floats (by decide +kernel), ?_⟩,
    by decide +kernel, by decide +kernel, ?_⟩
  · exact ne_of_answersBelow (.float 0.25) (by decide +kernel) (by decide +kernel)
  · exact ne_of_answersBelow (.float 0.25) (by decide +kernel) (by decide +kernel)
  · exact ne_of_answersBelow (.int 1) (by decide +kernel) (by decide +kernel)
  · exact ne_of_answersBelow (.float (-0.99940337)) (by decide +kernel) (by decide +kernel)
  · -- the doubles cancel, and there is no interest
    exact (ne_of_answersBelow (.float 1e-11) (by decide +kernel) (by decide +kernel)).symm

end Finance

end SheetFormulas
