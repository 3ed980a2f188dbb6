import SheetFormulas.Proofs.Finance.AdmissibleRates
import SheetFormulas.Proofs.Finance.Bisection

/-!
The domain of interest rates. Newton's method tests each rate that it steps to, and the halving of a
range never leaves the range, whatever the worths in it are; so a rate that is found is a finite double
above -0.999 and at most ten.
-/

namespace SheetFormulas

open Outcome

namespace Finance.PaymentPlan

open Binary64

attribute [local irreducible] unitsPerOne

/-- Whether a rate is a finite double above -0.999 and at most ten. -/
structure InDomain (rate : Number) : Prop where
  finite : rate.IsFinite
  above : (Number.float (-0.999)).lt rate = true
  atMost : rate.le (.int 10) = true

variable {plan : PaymentPlan} {search : Search} {low high rate : Float} {atLow found : Number}
variable {guess : Value} {n : Nat}

theorem isExact_leastRate : (Number.float (-0.999)).IsExact :=
  Number.isExact_float (by decide +kernel)

theorem isExact_ten : (Number.int 10).IsExact :=
  Number.IsDatum.isExact (show (10 : Int).natAbs ≤ 2 ^ 53 by decide)

theorem inDomain_zero : InDomain (.float 0) where
  finite := (Number.isFinite_float 0).mpr isFinite_zero
  above := by decide +kernel
  atMost := by decide +kernel

/-! Newton's method. -/

/-- A step of Newton's method leads to a double. -/
theorem exists_float_of_step {rate value slope next : Number}
    (h : (rate - value / slope : Calculation) = .ok next) : ∃ x, next = .float x := by
  open Calculation in
  have hcomputes : Computes (Number.DoubleIf true) (rate - value / slope : Calculation) :=
    computes_sub (computes_ok rate) (computes_div (computes_ok value) (computes_ok slope))
  rw [h] at hcomputes
  exact hcomputes rfl

/-- A rate that passes the test after a step is in the domain. -/
theorem inDomain_of_passes {x : Float} (hx : x.isFinite = true)
    (hlow : (Number.float x).le (.float (-0.999)) = false)
    (hhigh : (Number.int 10).lt (.float x) = false) : InDomain (.float x) := by
  have hexact := Number.isExact_float hx
  refine ⟨(Number.isFinite_float x).mpr hx, ?_, ?_⟩
  · rw [← Bool.not_eq_true, hexact.le_iff isExact_leastRate, not_le] at hlow
    exact (isExact_leastRate.lt_iff hexact).mpr hlow
  · rw [← Bool.not_eq_true, isExact_ten.lt_iff hexact, not_lt] at hhigh
    exact (hexact.le_iff isExact_ten).mpr hhigh

theorem inDomain_of_newtonStep (h : plan.newtonStep search = .ok (.inl (some found))) :
    InDomain found := by
  obtain ⟨worth, -, h⟩ := bind_eq_ok_iff.mp h
  cases worth with
  | none => cases h
  | some worth =>
    obtain ⟨value, slope⟩ := worth
    dsimp only at h
    split_ifs at h with hflat
    · cases h
    · obtain ⟨next, hnext, h⟩ := bind_eq_ok_iff.mp h
      obtain ⟨x, rfl⟩ := exists_float_of_step hnext
      obtain ⟨isFinite, hfinite, h⟩ := bind_eq_ok_iff.mp h
      split_ifs at h with hfails
      · cases h
      · simp only [Bool.or_eq_true, Bool.not_eq_true', not_or, Bool.not_eq_false,
          Bool.not_eq_true] at hfails
        obtain ⟨⟨rfl, hlow⟩, hhigh⟩ := hfails
        obtain ⟨step, -, h⟩ := bind_eq_ok_iff.mp h
        split_ifs at h with hshort
        · cases h
          exact inDomain_of_passes ((Number.isFinite_float x).mp hfinite) hlow hhigh
        · obtain ⟨back, -, h⟩ := bind_eq_ok_iff.mp h
          obtain ⟨half, -, h⟩ := bind_eq_ok_iff.mp h
          split_ifs at h <;> cases h

/-- Newton's method only comes to rates that passed the test after its last step. -/
theorem inDomain_of_newton {start : Number} (h : plan.newton start = .ok (some found)) :
    InDomain found := by
  rw [newton, newtonFrom_eq_loop plan start start le_rfl] at h
  rcases loop_eq_ok h with ⟨n, -, search, -, hstep⟩ | ⟨last, -, hlast⟩
  · exact inDomain_of_newtonStep hstep
  · cases hlast

/-! The halving of ranges. -/

/-- All brackets that a range is halved to lie in the range. -/
theorem nested_of_visits {bracket : Bracket} (hm : Modest low high)
    (h : Visits plan.halve ⟨low, high, atLow⟩ n bracket) : Nested low high bracket := by
  induction h with
  | start => exact ⟨hm.finite_low, hm.finite_high, le_rfl, le_rfl, hm.wide⟩
  | next _ hstep ih => exact ih.of_halve hm hstep

/-- The rate that the halving of a range comes to lies in the range. -/
theorem mem_range_of_bisect (hm : Modest low high)
    (h : plan.bisect low high atLow halvings = .ok rate) :
    rate.isFinite = true ∧ value low ≤ value rate ∧ value rate ≤ value high := by
  have hmiddle {bracket : Bracket} (hn : Nested low high bracket) :
      bracket.middle.isFinite = true ∧ value low ≤ value bracket.middle ∧
        value bracket.middle ≤ value high := by
    obtain ⟨hf, hlow, hhigh, -⟩ := hn.middle_spec hm
    exact ⟨hf, hn.low_le.trans hlow, hhigh.trans hn.le_high⟩
  rw [bisect_eq_loop] at h
  rcases loop_eq_ok h with ⟨n, -, bracket, hvisits, hstep⟩ | ⟨bracket, hvisits, rfl⟩
  · rw [(halve_eq_inl hstep).1]
    exact hmiddle (nested_of_visits hm hvisits)
  · exact hmiddle (nested_of_visits hm hvisits)

/-- The ranges that are halved lie in the domain. -/
theorem signedUnits_of_mem_brackets : ∀ range ∈ brackets,
    signedUnits (-0.999) < signedUnits range.1 ∧
      signedUnits range.2 ≤ 10 * (unitsPerOne : Int) := by
  decide +kernel

theorem inDomain_of_bisectFirst (h : plan.bisectFirst brackets = .ok (some rate)) :
    InDomain (.float rate) := by
  obtain ⟨low, high, v, w, product, hmem, -, -, -, hbisect⟩ := exists_of_bisectFirst h
  obtain ⟨hf, hlow, hhigh⟩ := mem_range_of_bisect (modest_of_mem_brackets _ hmem) hbisect
  obtain ⟨habove, hatMost⟩ := signedUnits_of_mem_brackets _ hmem
  rw [value, value, div_le_div_iff_of_pos_right unitsPerOne_rat_pos, Int.cast_le] at hlow hhigh
  have hexact := Number.isExact_float hf
  refine ⟨(Number.isFinite_float rate).mpr hf, ?_, ?_⟩
  · exact (isExact_leastRate.lt_iff hexact).mpr (habove.trans_le hlow)
  · exact (hexact.le_iff isExact_ten).mpr (hhigh.trans hatMost)

/-! The calls. -/

/-- The rate of a plan, without a note where Newton's method fails. -/
def rateFrom (plan : PaymentPlan) (guess : Value) : Outcome Number := do
  if plan.periods.le (.int 0) then refuse .periodsNotPositive
  else
    let total ← (plan.present + plan.future + plan.payment * plan.periods : Calculation)
    if total.abs.lt (.float 1e-10) then return .float 0
    else
      let start ← plan.startOf guess
      match ← plan.newton start with
      | some rate => return rate
      | none =>
        match ← plan.bisectFirst brackets with
        | some rate => return .float rate
        | none => refuse .noSignChange

theorem rate_yields (plan : PaymentPlan) (guess : Value) :
    (plan.rate guess).Yields (plan.rateFrom guess) [] := by
  unfold rate rateFrom
  dsimp only
  by_cases hperiods : plan.periods.le (.int 0) = true
  · rw [if_pos hperiods, if_pos hperiods]
    exact .ofOutcome (refuse .periodsNotPositive)
  · rw [if_neg hperiods, if_neg hperiods]
    refine .bind_ofOutcome fun total _ => ?_
    by_cases hfree : total.abs.lt (.float 1e-10) = true
    · rw [if_pos hfree, if_pos hfree]
      exact .pure _
    · rw [if_neg hfree, if_neg hfree]
      refine .bind_ofOutcome fun start _ => .bind_ofOutcome fun rate? _ => ?_
      cases rate? with
      | some rate => exact .pure rate
      | none =>
        refine (InternalRate.noteShown_yields _).bind (.bind_ofOutcome fun rate? _ => ?_)
        cases rate? with
        | some rate => exact .pure _
        | none => exact .ofOutcome (refuse .noSignChange)

/-- The rate of a plan is in the domain, wherever it comes from. -/
theorem inDomain_of_rateFrom (h : plan.rateFrom guess = .ok found) : InDomain found := by
  unfold rateFrom at h
  split_ifs at h with hperiods
  · cases h
  · obtain ⟨total, -, h⟩ := bind_eq_ok_iff.mp h
    split_ifs at h with hfree
    · cases h
      exact inDomain_zero
    · obtain ⟨start, -, h⟩ := bind_eq_ok_iff.mp h
      obtain ⟨rate?, hnewton, h⟩ := bind_eq_ok_iff.mp h
      cases rate? with
      | some rate =>
        cases h
        exact inDomain_of_newton hnewton
      | none =>
        obtain ⟨rate?, hbisection, h⟩ := bind_eq_ok_iff.mp h
        cases rate? with
        | some rate =>
          cases h
          exact inDomain_of_bisectFirst hbisection
        | none => cases h

/-- Whether a run asks for no deferred values, and any number that it comes to is in the domain. -/
def FindsInDomain (run : Run Value) : Prop :=
  ∃ outcome, run.Yields outcome [] ∧ ∀ rate, outcome = .ok (.number rate) → InDomain rate

theorem rateOf_yields (periods payment present future timing guess : Value) :
    (answerRun (rateOf periods payment present future timing guess)).Yields
      (Value.number <$> (ofArguments periods payment present future timing >>=
        fun plan => plan.rateFrom guess)) [] := by
  rw [rateOf_eq_bind]
  exact (Run.Yields.bind_ofOutcome fun plan _ => rate_yields plan guess).map Answer.toValue

theorem findsInDomain_rateOf (periods payment present future timing guess : Value) :
    FindsInDomain (answerRun (rateOf periods payment present future timing guess)) := by
  refine ⟨_, rateOf_yields periods payment present future timing guess, ?_⟩
  intro rate h
  obtain ⟨found, hfound, heq⟩ : ∃ found, (ofArguments periods payment present future timing >>=
      fun plan => plan.rateFrom guess) = .ok found ∧ Value.number found = .number rate := by
    generalize (ofArguments periods payment present future timing >>=
      fun plan => plan.rateFrom guess) = outcome at h
    cases outcome with
    | ok found => exact ⟨found, rfl, Except.ok.inj h⟩
    | error fault => cases h
  obtain ⟨plan, -, hrate⟩ := bind_eq_ok_iff.mp hfound
  cases heq
  exact inDomain_of_rateFrom hrate

theorem rate_body_findsInDomain (context : Context) (arguments : List Value)
    (named : List (String × Value)) {entry : Entry}
    (h : Catalog.standard.find? "RATE" = some entry) :
    FindsInDomain (entry.body context arguments named) := by
  cases h
  refine Body.apply_of_always ?_ _ _ _ (fun periods payment present future timing guess _ => ?_) _ _
  · exact ⟨_, .ofOutcome (fail .arguments), fun _ h => nomatch h⟩
  · exact findsInDomain_rateOf periods payment present future timing guess

theorem rate_call_yields (context : Context) (periods payment present future timing guess : Value) :
    (Catalog.standard.call context "RATE"
      [periods, payment, present, future, timing, guess] []).Yields
      (Entry.guarded [periods, payment, present, future, timing, guess]
        (Value.number <$> (ofArguments periods payment present future timing >>=
          fun plan => plan.rateFrom guess))) [] := by
  rw [Catalog.standard_call rfl]
  exact Entry.call_yields_guarded rfl (rateOf_yields periods payment present future timing guess)

/-- A rate that is found for any arguments, however they are given, is in the domain. -/
theorem found_rate_in_domain (context : Context) (arguments : List Value)
    (named : List (String × Value)) {labels : List String}
    (h : (Catalog.standard.call context "RATE" arguments named).Yields (.ok (.number found)) labels) :
    InDomain found := by
  obtain ⟨entry, hentry⟩ : ∃ entry, Catalog.standard.find? "RATE" = some entry := ⟨_, rfl⟩
  obtain ⟨outcome, hbody, hfound⟩ := rate_body_findsInDomain context arguments named hentry
  have hcall : Catalog.standard.call context "RATE" arguments named =
      entry.call context arguments named := by
    rw [Catalog.call, Catalog.entryOf, hentry]
    rfl
  rw [hcall] at h
  exact hfound found (Entry.eq_number_of_call hbody h)

/-- Newton's method cannot start from -1, so that a range is halved for the loan that is not paid back
in full. -/
theorem found_rate_in_domain_of_lossyLoan :
    let context := Environment.contextAt ⟨Catalog.standard, [], ⟨⟨2024, 1, 15⟩, .midnight⟩⟩ 1
    let arguments : List Value :=
      [.ofInt 1, .ofInt 0, .ofInt (-1), .ofFloat 0.7575, .ofInt 0, .ofInt (-1)]
    (Catalog.standard.call context "RATE" arguments []).Yields (.ok (.ofFloat (-0.2425))) [] ∧
      InDomain (.float (-0.2425)) := by
  intro context arguments
  have hrate : lossyLoan.rateFrom (.ofInt (-1)) = .ok (.float (-0.2425)) := by
    have hcheck : (match lossyLoan.rateFrom (.ofInt (-1)) with
      | .ok (.float x) => decide (x = -0.2425)
      | _ => false) = true := by decide +kernel
    split at hcheck
    next x hx => rw [hx, of_decide_eq_true hcheck]
    next => cases hcheck
  have hplan : ofArguments (.ofInt 1) (.ofInt 0) (.ofInt (-1)) (.ofFloat 0.7575) (.ofInt 0) =
      .ok lossyLoan := by
    have hwhole (n : Int) : (Value.ofInt n).toNumber = .ok (.int n) := Value.toNumber_number rfl
    have hfuture : (Value.ofFloat 0.7575).toNumber = .ok (.float 0.7575) :=
      Value.toNumber_number (by decide +kernel)
    have htiming : Timing.ofValue (.ofInt 0) = .ok .atEnd := by
      rw [Timing.ofValue, hwhole, ok_bind, if_pos (by decide +kernel)]
      rfl
    rw [ofArguments, hwhole, hwhole, hwhole, hfuture, htiming]
    rfl
  have hcall := rate_call_yields context (.ofInt 1) (.ofInt 0) (.ofInt (-1)) (.ofFloat 0.7575)
    (.ofInt 0) (.ofInt (-1))
  rw [hplan, ok_bind, hrate, Entry.guarded_of_no_error rfl] at hcall
  exact ⟨hcall, found_rate_in_domain context arguments [] hcall⟩

end Finance.PaymentPlan

end SheetFormulas
