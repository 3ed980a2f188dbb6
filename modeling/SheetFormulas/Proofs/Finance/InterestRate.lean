import SheetFormulas.Finance.InterestRate
import SheetFormulas.Proofs.Number.Scaling
import SheetFormulas.Proofs.Value.Coercion

/-!
The interest rate of an annuity whose amounts are multiplied by a power of two. What the search works
out from the amounts is linear in them, and is multiplied too as long as it stays in the range; the
next rate of a step is the same, so the search can only part at its tests for small amounts.
-/

namespace SheetFormulas.Finance.PaymentPlan

open Outcome

variable {j : Nat} {plan plan' : PaymentPlan} {rate : Number}

/-- Whether a plan has multiples of the amounts of another, on the same terms. -/
structure Scaled (j : Nat) (plan plan' : PaymentPlan) : Prop where
  periods_eq : plan'.periods = plan.periods
  advance_eq : plan'.advance = plan.advance
  payment : Number.Scaled j plan.payment plan'.payment
  present : Number.Scaled j plan.present plan'.present
  future : Number.Scaled j plan.future plan'.future

/-- Formulas that are linear in the amounts of a plan. -/
inductive Linear where
  | payment
  | present
  | future
  | neg (f : Linear)
  | add (f g : Linear)
  | sub (f g : Linear)
  | times (f : Linear) (factor : Calculation)
  | dividedBy (f : Linear) (divisor : Calculation)

namespace Linear

def eval (plan : PaymentPlan) : Linear → Calculation
  | payment => .ok plan.payment
  | present => .ok plan.present
  | future => .ok plan.future
  | neg f => -f.eval plan
  | add f g => f.eval plan + g.eval plan
  | sub f g => f.eval plan - g.eval plan
  | times f factor => f.eval plan * factor
  | dividedBy f divisor => f.eval plan / divisor

/-- Whether no intermediate amount leaves the range when it is multiplied, or comes down to the least
doubles by a factor or a divisor. -/
def Roomy (j : Nat) (plan : PaymentPlan) : Linear → Prop
  | payment | present | future => True
  | neg f => f.Roomy j plan
  | add f g => f.Roomy j plan ∧ g.Roomy j plan ∧ ∀ r, (add f g).eval plan = .ok r → r.Fits j
  | sub f g => f.Roomy j plan ∧ g.Roomy j plan ∧ ∀ r, (sub f g).eval plan = .ok r → r.Fits j
  | times f factor =>
    f.Roomy j plan ∧ ∀ a, f.eval plan = .ok a → ∀ c, factor = .ok c → a.KeepsProduct j c
  | dividedBy f divisor =>
    f.Roomy j plan ∧ ∀ a, f.eval plan = .ok a → ∀ c, divisor = .ok c → a.KeepsQuotient j c

instance decidableRoomy (j : Nat) (plan : PaymentPlan) : (f : Linear) → Decidable (f.Roomy j plan)
  | payment | present | future => isTrue trivial
  | neg f => decidableRoomy j plan f
  | add f g =>
    have := decidableRoomy j plan f
    have := decidableRoomy j plan g
    inferInstanceAs (Decidable (f.Roomy j plan ∧ g.Roomy j plan ∧
      ∀ r, (add f g).eval plan = .ok r → r.Fits j))
  | sub f g =>
    have := decidableRoomy j plan f
    have := decidableRoomy j plan g
    inferInstanceAs (Decidable (f.Roomy j plan ∧ g.Roomy j plan ∧
      ∀ r, (sub f g).eval plan = .ok r → r.Fits j))
  | times f factor =>
    have := decidableRoomy j plan f
    inferInstanceAs (Decidable (f.Roomy j plan ∧
      ∀ a, f.eval plan = .ok a → ∀ c, factor = .ok c → a.KeepsProduct j c))
  | dividedBy f divisor =>
    have := decidableRoomy j plan f
    inferInstanceAs (Decidable (f.Roomy j plan ∧
      ∀ a, f.eval plan = .ok a → ∀ c, divisor = .ok c → a.KeepsQuotient j c))

/-- Multiples of the amounts give a multiple of the result. -/
theorem eval_related (h : plan.Scaled j plan') {f : Linear} (hr : f.Roomy j plan) :
    Related (Number.Scaled j) (f.eval plan) (f.eval plan') := by
  induction f with
  | payment => exact .ok h.payment
  | present => exact .ok h.present
  | future => exact .ok h.future
  | neg f ih => exact (ih hr).bind fun _ _ _ _ hab => .ok hab.neg
  | add f g ihf ihg =>
    obtain ⟨hf, hg, hfits⟩ := hr
    refine (ihf hf).bind fun a _ ha _ hab => (ihg hg).bind fun c _ hc _ hcd => hab.add hcd ?_
    intro r hsum
    refine hfits r ?_
    rw [eval, ha, hc]
    exact hsum
  | sub f g ihf ihg =>
    obtain ⟨hf, hg, hfits⟩ := hr
    refine (ihf hf).bind fun a _ ha _ hab => (ihg hg).bind fun c _ hc _ hcd => hab.sub hcd ?_
    intro r hdifference
    refine hfits r ?_
    rw [eval, ha, hc]
    exact hdifference
  | times f factor ih =>
    obtain ⟨hf, hkeeps⟩ := hr
    refine (ih hf).bind fun a _ ha _ hab => (Related.of_eq rfl).bind fun c _ hc _ hsame => ?_
    subst hsame
    exact hab.mul (hkeeps a ha c hc)
  | dividedBy f divisor ih =>
    obtain ⟨hf, hkeeps⟩ := hr
    refine (ih hf).bind fun a _ ha _ hab => (Related.of_eq rfl).bind fun c _ hc _ hsame => ?_
    subst hsame
    exact Related.bind (hab.div (hkeeps a ha c hc)) fun _ _ _ _ hxy => .ok (.ofFloat hxy)

/-- The worth of an annuity at a rate that is almost zero, and the slope there, as formulas. -/
def formsAtZero (periods advance : Number) : Linear × Linear :=
  (add (add present (times payment periods)) future,
    sub (add (dividedBy (times (times (neg payment) periods) (periods + 1)) 2)
      (times (times payment advance) periods)) (times future periods))

/-- The worth of an annuity at a rate, and its slope there, as formulas. -/
def forms (periods advance rate : Number) : Outcome (Linear × Linear) := do
  if rate.abs.lt (.float 1e-10) then return formsAtZero periods advance
  else
    let discount ← ((1 + rate) ^ (periods.neg : Calculation) : Calculation)
    if !(← discount.isFinite) then fail .overflow
    else
      let factor ← ((1 - discount) / rate : Calculation)
      let factorSlope ← (periods * discount / (rate * (1 + rate))
        - (1 - discount) / rate ^ (2 : Calculation) : Calculation)
      let adjusted := times payment (1 + rate * advance : Calculation)
      return (add (add present (times adjusted factor)) (times future discount),
        sub (add (times adjusted factorSlope) (times (times payment advance) factor))
          (dividedBy (times (times future periods) discount) (1 + rate : Calculation)))

end Linear

open Linear (forms formsAtZero)

theorem worth_eq (plan : PaymentPlan) (rate : Number) :
    plan.worth rate = forms plan.periods plan.advance rate >>= fun (value, slope) => do
      return (← value.eval plan, ← slope.eval plan) := by
  unfold worth forms
  split_ifs
  · rfl
  · dsimp only
    rw [bind_assoc]
    refine bind_congr fun discount _ => ?_
    rw [bind_assoc]
    refine bind_congr fun isFinite _ => ?_
    split_ifs
    · rfl
    · rw [bind_assoc]
      refine bind_congr fun factor _ => ?_
      rw [bind_assoc]
      refine bind_congr fun factorSlope _ => ?_
      simp only [Linear.eval, pure_bind]
      generalize (Except.ok plan.payment * (1 + Except.ok rate * Except.ok plan.advance) :
        Calculation) = adjusted
      cases adjusted <;> rfl

/-- Whether two worths, and the slopes there, are multiples. -/
def WorthScaled (j : Nat) (a b : Number × Number) : Prop :=
  Number.Scaled j a.1 b.1 ∧ Number.Scaled j a.2 b.2

/-- Whether all amounts that the worth at a rate is worked out from stay in the range. -/
def RoomyAt (j : Nat) (plan : PaymentPlan) (rate : Number) : Prop :=
  ∀ value slope, forms plan.periods plan.advance rate = .ok (value, slope) →
    value.Roomy j plan ∧ slope.Roomy j plan

instance (j : Nat) (plan : PaymentPlan) (rate : Number) : Decidable (plan.RoomyAt j rate) :=
  decidable_of_iff (∀ both, forms plan.periods plan.advance rate = .ok both →
      both.1.Roomy j plan ∧ both.2.Roomy j plan)
    ⟨fun h _ _ hforms => h _ hforms, fun h both hforms => h both.1 both.2 hforms⟩

theorem worth_related (h : plan.Scaled j plan') (hr : plan.RoomyAt j rate) :
    Related (WorthScaled j) (plan.worth rate) (plan'.worth rate) := by
  rw [worth_eq, worth_eq, h.periods_eq, h.advance_eq]
  refine (Related.of_eq rfl).bind fun (value, slope) _ hforms _ hsame => ?_
  subst hsame
  obtain ⟨hvalue, hslope⟩ := hr value slope hforms
  refine (Linear.eval_related h hvalue).bind fun _ _ _ _ hv => ?_
  exact (Linear.eval_related h hslope).bind fun _ _ _ _ hs => .ok ⟨hv, hs⟩

theorem worth?_related (h : plan.Scaled j plan') (hr : plan.RoomyAt j rate) :
    Related (Option.Rel (WorthScaled j)) (plan.worth? rate) (plan'.worth? rate) := by
  have hworth := worth_related h hr
  unfold worth?
  generalize plan.worth rate = outcome, plan'.worth rate = outcome' at hworth
  cases hworth with
  | ok hw => exact .ok (.some hw)
  | error fault =>
    cases fault with
    | refusal cause => exact .error _
    | failure cause => cases cause <;> first | exact .ok .none | exact .error _

/-! Newton's method. -/

/-- A step of the search: the rate, the one before, and the number of steps taken. -/
structure Search where
  previous : Number
  rate : Number
  taken : Nat

def newtonStep (plan : PaymentPlan) (search : Search) : Outcome (Option Number ⊕ Search) := do
  match ← plan.worth? search.rate with
  | none => return .inl none
  | some (value, slope) =>
    if slope.abs.lt (.float flatSlope) then return .inl none
    else
      let next ← (search.rate - value / slope : Calculation)
      if !(← next.isFinite) || next.le (.float (-0.999)) || (Number.int 10).lt next then
        return .inl none
      else
        let step ← distance next search.rate
        if step.lt (.float rateTolerance) then return .inl (some next)
        else if 20 < search.taken
            && (← distance next search.previous).lt (← (Number.float 0.5).mul step) then
          return .inl none
        else return .inr ⟨search.rate, next, search.taken + 1⟩

theorem newtonFrom_eq_loop (plan : PaymentPlan) (previous rate : Number) {left : Nat}
    (h : left ≤ newtonSteps) :
    plan.newtonFrom previous rate left =
      loop plan.newtonStep (fun _ => none) ⟨previous, rate, newtonSteps - left⟩ left := by
  induction left generalizing previous rate with
  | zero => rfl
  | succ left ih =>
    have htaken : newtonSteps - left = newtonSteps - (left + 1) + 1 := by omega
    rw [newtonFrom, loop, newtonStep, bind_assoc]
    refine bind_congr fun worth _ => ?_
    cases worth with
    | none => rfl
    | some worth =>
      obtain ⟨value, slope⟩ := worth
      dsimp only
      split_ifs
      · rfl
      · rw [bind_assoc]
        refine bind_congr fun next _ => ?_
        rw [bind_assoc]
        refine bind_congr fun isFinite _ => ?_
        split_ifs
        · rfl
        · rw [bind_assoc]
          refine bind_congr fun step _ => ?_
          split_ifs
          · rfl
          · rw [bind_assoc]
            refine bind_congr fun back _ => ?_
            rw [bind_assoc]
            refine bind_congr fun half _ => ?_
            split_ifs
            · rfl
            · rw [ih _ _ (by omega), htaken]
              rfl

/-- Whether, at a rate, all amounts stay in the range when they are multiplied, and the test for a
flat slope has the same outcome. -/
structure StepAgrees (j : Nat) (plan plan' : PaymentPlan) (rate : Number) : Prop where
  roomy : plan.RoomyAt j rate
  flat : ∀ worth worth', plan.worth rate = .ok worth → plan'.worth rate = .ok worth' →
    worth.2.abs.lt (.float flatSlope) = worth'.2.abs.lt (.float flatSlope)

instance (j : Nat) (plan plan' : PaymentPlan) (rate : Number) :
    Decidable (StepAgrees j plan plan' rate) :=
  decidable_of_iff (plan.RoomyAt j rate ∧ ∀ worth, plan.worth rate = .ok worth →
      ∀ worth', plan'.worth rate = .ok worth' →
        worth.2.abs.lt (.float flatSlope) = worth'.2.abs.lt (.float flatSlope))
    ⟨fun ⟨hr, hf⟩ => ⟨hr, fun worth worth' hw hw' => hf worth hw worth' hw'⟩,
      fun h => ⟨h.roomy, fun worth hw worth' hw' => h.flat worth worth' hw hw'⟩⟩

theorem worth?_eq_some_iff {worth : Number × Number} :
    plan.worth? rate = .ok (some worth) ↔ plan.worth rate = .ok worth := by
  unfold worth?
  cases plan.worth rate with
  | ok result => simp
  | error fault =>
    cases fault with
    | refusal cause => simp
    | failure cause => cases cause <;> simp

theorem newtonStep_eq (h : plan.Scaled j plan') {search : Search}
    (ha : StepAgrees j plan plan' search.rate) :
    plan.newtonStep search = plan'.newtonStep search := by
  refine Related.eq ((worth?_related h ha.roomy).bind fun worth worth' hw hw' hscaled => .of_eq ?_)
  cases hscaled with
  | none => rfl
  | @some a b hab =>
    obtain ⟨value, slope⟩ := a
    obtain ⟨value', slope'⟩ := b
    have hflat := ha.flat _ _ (worth?_eq_some_iff.mp hw) (worth?_eq_some_iff.mp hw')
    have hratio : (value / slope : Calculation) = (value' / slope' : Calculation) := by
      rw [Calculation.ok_div, Calculation.ok_div, hab.1.div_eq_div hab.2]
    dsimp only
    rw [hflat, hratio]

/-- Whether the searches from a rate agree at all rates that they come to. -/
def NewtonAgrees (j : Nat) (plan plan' : PaymentPlan) (start : Number) : Prop :=
  ∀ n < newtonSteps, ∀ search, Visits plan.newtonStep ⟨start, start, 0⟩ n search →
    StepAgrees j plan plan' search.rate

theorem newtonAgrees_of_throughout {start : Number}
    (h : Throughout plan.newtonStep (fun search => StepAgrees j plan plan' search.rate)
      ⟨start, start, 0⟩ newtonSteps) :
    NewtonAgrees j plan plan' start :=
  fun _ hn _ hv => h.of_visits hn hv

theorem newton_eq (h : plan.Scaled j plan') {start : Number}
    (ha : NewtonAgrees j plan plan' start) : plan.newton start = plan'.newton start := by
  rw [newton, newton, newtonFrom_eq_loop _ _ _ le_rfl, newtonFrom_eq_loop _ _ _ le_rfl,
    Nat.sub_self]
  refine loop_eq_loop (R := (· = ·)) newtonSteps rfl (fun _ _ _ => rfl) ?_
  rintro n hn search _ hvisits - rfl
  rw [newtonStep_eq h (ha n hn search hvisits)]
  exact (Related.of_eq rfl).mono fun result _ h => h ▸ alike_self result

/-! The halving of brackets. -/

/-- A range of rates, and the worth at its low end. -/
structure Bracket where
  low : Float
  high : Float
  atLow : Number

def Bracket.middle (bracket : Bracket) : Float := (bracket.low + bracket.high) / 2

def halve (plan : PaymentPlan) (bracket : Bracket) : Outcome (Float ⊕ Bracket) := do
  let (value, _) ← plan.worth (.float bracket.middle)
  if value.abs.lt (.float rateTolerance) || bracket.high - bracket.low < 1e-12 then
    return .inl bracket.middle
  else if (← bracket.atLow.mul value).lt (.int 0) then
    return .inr ⟨bracket.low, bracket.middle, bracket.atLow⟩
  else return .inr ⟨bracket.middle, bracket.high, value⟩

theorem bisect_eq_loop (plan : PaymentPlan) (low high : Float) (atLow : Number) (left : Nat) :
    plan.bisect low high atLow left =
      loop plan.halve Bracket.middle ⟨low, high, atLow⟩ left := by
  induction left generalizing low high atLow with
  | zero => rfl
  | succ left ih =>
    rw [bisect, loop, halve]
    dsimp only
    rw [bind_assoc]
    refine bind_congr fun worth _ => ?_
    obtain ⟨value, slope⟩ := worth
    dsimp only
    split_ifs with hdone
    · rfl
    · rw [bind_assoc]
      refine bind_congr fun product _ => ?_
      split_ifs
      · exact ih _ _ _
      · exact ih _ _ _

/-- Whether two brackets are of the same rates, with multiples at the low end. -/
structure Bracket.Scaled (j : Nat) (bracket bracket' : Bracket) : Prop where
  low_eq : bracket.low = bracket'.low
  high_eq : bracket.high = bracket'.high
  atLow : Number.Scaled j bracket.atLow bracket'.atLow

/-- Whether, when a bracket is halved, all amounts stay in the range when they are multiplied, and
the tests for a small worth and for the side of the solution have the same outcome. -/
structure HalvingAgrees (j : Nat) (plan plan' : PaymentPlan) (bracket bracket' : Bracket) : Prop where
  roomy : plan.RoomyAt j (.float bracket.middle)
  small : ∀ worth worth', plan.worth (.float bracket.middle) = .ok worth →
    plan'.worth (.float bracket.middle) = .ok worth' →
    worth.1.abs.lt (.float rateTolerance) = worth'.1.abs.lt (.float rateTolerance)
  side : ∀ worth worth' product product', plan.worth (.float bracket.middle) = .ok worth →
    plan'.worth (.float bracket.middle) = .ok worth' →
    worth.1.abs.lt (.float rateTolerance) = false → bracket.atLow.mul worth.1 = .ok product →
    bracket'.atLow.mul worth'.1 = .ok product' → product.lt (.int 0) = product'.lt (.int 0)

theorem halve_related (h : plan.Scaled j plan') {bracket bracket' : Bracket}
    (hb : bracket.Scaled j bracket') (ha : HalvingAgrees j plan plan' bracket bracket') :
    Related (Alike (Bracket.Scaled j)) (plan.halve bracket) (plan'.halve bracket') := by
  have hmiddle : bracket'.middle = bracket.middle := by
    rw [Bracket.middle, Bracket.middle, hb.low_eq, hb.high_eq]
  unfold halve
  rw [hmiddle]
  refine (worth_related h ha.roomy).bind fun worth worth' hw hw' hscaled => ?_
  obtain ⟨value, slope⟩ := worth
  obtain ⟨value', slope'⟩ := worth'
  dsimp only
  rw [ha.small _ _ hw hw', hb.low_eq, hb.high_eq]
  refine .ite Iff.rfl (fun _ => .ok (.inl rfl)) fun hgoes => ?_
  have hlarge : value.abs.lt (.float rateTolerance) = false := by
    rw [Bool.or_eq_true, not_or, Bool.not_eq_true, ← ha.small _ _ hw hw'] at hgoes
    exact hgoes.1
  refine (hb.atLow.mul_scaled hscaled.1).bind fun product product' hp hp' _ => ?_
  rw [ha.side _ _ product product' hw hw' hlarge hp hp']
  refine .ite Iff.rfl (fun _ => .ok (.inr ?_)) fun _ => .ok (.inr ?_)
  · exact ⟨rfl, rfl, hb.atLow⟩
  · exact ⟨rfl, rfl, hscaled.1⟩

/-- Whether the halvings of two brackets agree. -/
def HalvingsAgree (j : Nat) (plan plan' : PaymentPlan) (start start' : Bracket) : Prop :=
  ∀ n < halvings, ∀ bracket bracket', Visits plan.halve start n bracket →
    Visits plan'.halve start' n bracket' → HalvingAgrees j plan plan' bracket bracket'

theorem bisect_eq (h : plan.Scaled j plan') {low high : Float} {atLow atLow' : Number}
    (hlow : Number.Scaled j atLow atLow')
    (ha : HalvingsAgree j plan plan' ⟨low, high, atLow⟩ ⟨low, high, atLow'⟩) :
    plan.bisect low high atLow halvings = plan'.bisect low high atLow' halvings := by
  rw [bisect_eq_loop, bisect_eq_loop]
  refine loop_eq_loop (R := Bracket.Scaled j) halvings ⟨rfl, rfl, hlow⟩ ?_ ?_
  · intro bracket bracket' hb
    rw [Bracket.middle, Bracket.middle, hb.low_eq, hb.high_eq]
  · intro n hn bracket bracket' hv hv' hb
    exact halve_related h hb (ha n hn bracket bracket' hv hv')

/-- Whether two searches through brackets agree where they come to: all amounts stay in the range when
they are multiplied, and the tests for a change of sign have the same outcome. -/
def BracketsAgree (j : Nat) (plan plan' : PaymentPlan) : List (Float × Float) → Prop
  | [] => True
  | (low, high) :: rest =>
    plan.RoomyAt j (.float low) ∧
      (∀ worth, plan.worth? (.float low) = .ok (some worth) → plan.RoomyAt j (.float high)) ∧
      (plan.ends? low high = .ok none → BracketsAgree j plan plan' rest) ∧
      ∀ ends ends' product product', plan.ends? low high = .ok (some ends) →
        plan'.ends? low high = .ok (some ends') → ends.1.mul ends.2 = .ok product →
        ends'.1.mul ends'.2 = .ok product' →
        (Number.int 0).lt product = (Number.int 0).lt product' ∧
          if (Number.int 0).lt product then BracketsAgree j plan plan' rest
          else HalvingsAgree j plan plan' ⟨low, high, ends.1⟩ ⟨low, high, ends'.1⟩

theorem ends?_related (h : plan.Scaled j plan') {low high : Float}
    (hlow : plan.RoomyAt j (.float low))
    (hhigh : ∀ worth, plan.worth? (.float low) = .ok (some worth) → plan.RoomyAt j (.float high)) :
    Related (Option.Rel (WorthScaled j)) (plan.ends? low high) (plan'.ends? low high) := by
  refine (worth?_related h hlow).bind fun worth _ hw _ hscaled => ?_
  cases hscaled with
  | none => exact .ok .none
  | some hl =>
    refine (worth?_related h (hhigh _ hw)).bind fun _ _ _ _ hscaled => ?_
    cases hscaled with
    | none => exact .ok .none
    | some hr => exact .ok (.some ⟨hl.1, hr.1⟩)

theorem bisectFirst_eq (h : plan.Scaled j plan') {ranges : List (Float × Float)}
    (ha : BracketsAgree j plan plan' ranges) :
    plan.bisectFirst ranges = plan'.bisectFirst ranges := by
  induction ranges with
  | nil => rfl
  | cons range rest ih =>
    obtain ⟨low, high⟩ := range
    obtain ⟨hlow, hhigh, hskip, hsigns⟩ := ha
    refine Related.eq ((ends?_related h hlow hhigh).bind fun ends ends' he he' hscaled => .of_eq ?_)
    cases hscaled with
    | none => exact ih (hskip he)
    | @some ends ends' hscaled =>
      refine Related.eq ((hscaled.1.mul_scaled hscaled.2).bind fun p p' hp hp' _ => ?_)
      obtain ⟨hsame, hgoes⟩ := hsigns ends ends' p p' he he' hp hp'
      rw [← hsame]
      refine .ite Iff.rfl (fun hpositive => .of_eq ?_) fun hpositive => .of_eq ?_
      · rw [if_pos hpositive] at hgoes
        exact ih hgoes
      · rw [if_neg hpositive] at hgoes
        rw [bisect_eq h hscaled.1 hgoes]

/-! The whole search. -/

/-- The amounts without interest, whose sum is next to zero where there is none. -/
def totalForm (periods : Number) : Linear :=
  .add (.add .present .future) (.times .payment periods)

/-- What the starting rate is the quotient of. -/
def guessForms (periods : Number) : Linear × Linear :=
  (.sub (.sub .future .present) (.times .payment periods), .times .present periods)

/-- Whether the choices of a starting rate agree. -/
structure StartAgrees (j : Nat) (plan plan' : PaymentPlan) : Prop where
  small : plan.payment.abs.lt (.float 1e-10) = plan'.payment.abs.lt (.float 1e-10)
  roomy : plan.payment.abs.lt (.float 1e-10) = false →
    (guessForms plan.periods).1.Roomy j plan ∧ (guessForms plan.periods).2.Roomy j plan

theorem startingRate_eq (h : plan.Scaled j plan')
    (ha : plan.present.isZero = false → StartAgrees j plan plan') :
    plan.startingRate = plan'.startingRate := by
  unfold startingRate
  dsimp only
  rw [h.present.isZero_eq]
  by_cases hzero : plan'.present.isZero = true
  · rw [if_pos hzero, if_pos hzero]
  · have hagrees := ha (h.present.isZero_eq ▸ Bool.not_eq_true _ ▸ hzero)
    rw [if_neg hzero, if_neg hzero, hagrees.small]
    by_cases hsmall : plan'.payment.abs.lt (.float 1e-10) = true
    · rw [if_pos hsmall, if_pos hsmall, Calculation.ok_div, Calculation.ok_div,
        h.future.div_eq_div h.present, h.periods_eq]
    · rw [if_neg hsmall, if_neg hsmall]
      obtain ⟨hnumerator, hdenominator⟩ := hagrees.roomy (hagrees.small ▸ Bool.not_eq_true _ ▸ hsmall)
      have hguess : (guessForms plan.periods).1.eval plan / (guessForms plan.periods).2.eval plan =
          (guessForms plan.periods).1.eval plan' / (guessForms plan.periods).2.eval plan' :=
        Related.eq ((Linear.eval_related h hnumerator).bind fun _ _ _ _ hab =>
          (Linear.eval_related h hdenominator).bind fun _ _ _ _ hcd =>
            .of_eq (by rw [hab.div_eq_div hcd]))
      rw [h.periods_eq]
      exact congrArg (· >>= _) hguess

/-- The rate that a search starts from. -/
def startOf (plan : PaymentPlan) (guess : Value) : Outcome Number :=
  if guess.isEmpty then plan.startingRate else guess.toNumber

/-- Whether the searches for a rate that is not zero agree. -/
structure SearchAgrees (j : Nat) (plan plan' : PaymentPlan) (guess : Value) : Prop where
  start : guess.isEmpty = true → plan.present.isZero = false → StartAgrees j plan plan'
  newton : ∀ start, plan.startOf guess = .ok start → NewtonAgrees j plan plan' start
  brackets : ∀ start, plan.startOf guess = .ok start → plan.newton start = .ok none →
    BracketsAgree j plan plan' brackets

/-- Whether the searches for the rates of two plans agree: at all rates that they come to, all amounts
stay in the range when they are multiplied, and each test of an amount has the same outcome. -/
structure Agrees (j : Nat) (plan plan' : PaymentPlan) (guess : Value) : Prop where
  roomy : (totalForm plan.periods).Roomy j plan
  free : ∀ total total', (totalForm plan.periods).eval plan = .ok total →
    (totalForm plan.periods).eval plan' = .ok total' →
    total.abs.lt (.float 1e-10) = total'.abs.lt (.float 1e-10)
  search : (∀ total, (totalForm plan.periods).eval plan = .ok total →
    total.abs.lt (.float 1e-10) = false) → SearchAgrees j plan plan' guess

/-- The interest rate of an annuity does not change when its amounts are multiplied. -/
theorem rate_eq {guess : Value} (h : plan.Scaled j plan')
    (ha : plan.periods.le (.int 0) = false → Agrees j plan plan' guess) :
    plan.rate guess = plan'.rate guess := by
  have hstart (hs : SearchAgrees j plan plan' guess) : plan.startOf guess = plan'.startOf guess := by
    rw [startOf, startOf]
    by_cases hempty : guess.isEmpty = true
    · rw [if_pos hempty, if_pos hempty, startingRate_eq h (hs.start hempty)]
    · rw [if_neg hempty, if_neg hempty]
  unfold rate
  dsimp only
  rw [h.periods_eq]
  by_cases hperiods : plan.periods.le (.int 0) = true
  · rw [if_pos hperiods, if_pos hperiods]
  · rw [if_neg hperiods, if_neg hperiods]
    have hagrees := ha (Bool.not_eq_true _ ▸ hperiods)
    refine Run.ofOutcome_bind_congr (Linear.eval_related h hagrees.roomy) fun total total' ht ht' _ => ?_
    rw [hagrees.free total total' ht ht']
    by_cases hfree : total'.abs.lt (.float 1e-10) = true
    · rw [if_pos hfree, if_pos hfree]
    · rw [if_neg hfree, if_neg hfree]
      have hs := hagrees.search fun other hother => by
        cases ht.symm.trans hother
        exact (hagrees.free total total' ht ht').trans (Bool.not_eq_true _ ▸ hfree)
      refine Run.ofOutcome_bind_congr (.of_eq (hstart hs)) fun start _ hstart _ hsame => ?_
      subst hsame
      refine Run.ofOutcome_bind_congr (.of_eq (newton_eq h (hs.newton start hstart)))
        fun found _ hfound _ hsame => ?_
      subst hsame
      cases found with
      | some rate => rfl
      | none =>
        dsimp only
        rw [bisectFirst_eq h (hs.brackets start hstart hfound)]

/-- The searches of two plans agree where the guess leads Newton's method to a rate. -/
theorem Agrees.of_newton {guess : Value} {start : Number}
    (hroomy : (totalForm plan.periods).Roomy j plan)
    (hfree : ∀ total, (totalForm plan.periods).eval plan = .ok total →
      ∀ total', (totalForm plan.periods).eval plan' = .ok total' →
        total.abs.lt (.float 1e-10) = total'.abs.lt (.float 1e-10))
    (hguess : guess.isEmpty = false) (hstart : guess.toNumber = .ok start)
    (hfound : ∀ found, plan.newton start = .ok found → found.isSome = true)
    (hsteps : Throughout plan.newtonStep (fun search => StepAgrees j plan plan' search.rate)
      ⟨start, start, 0⟩ newtonSteps) :
    plan.Agrees j plan' guess where
  roomy := hroomy
  free total total' ht ht' := hfree total ht total' ht'
  search _ := by
    have hstartOf {other : Number} (h : plan.startOf guess = .ok other) : other = start := by
      rw [startOf, hguess, if_neg Bool.false_ne_true, hstart] at h
      exact (Except.ok.inj h).symm
    refine ⟨fun hempty => ?_, fun other hother => ?_, fun other hother hnone => ?_⟩
    · rw [hguess] at hempty
      cases hempty
    · rw [hstartOf hother]
      exact newtonAgrees_of_throughout hsteps
    · rw [hstartOf hother] at hnone
      cases hfound none hnone

/-- The plan that arguments describe. -/
def ofArguments (periods payment present future timing : Value) : Outcome PaymentPlan := do
  let periods ← periods.toNumber
  let payment ← payment.toNumber
  let present ← present.toNumber
  let future ← future.toNumber
  let timing ← Timing.ofValue timing
  return ⟨periods, payment, present, future, .int timing.weight⟩

theorem rateOf_eq_bind (periods payment present future timing guess : Value) :
    rateOf periods payment present future timing guess =
      (Run.ofOutcome (ofArguments periods payment present future timing) >>= fun plan =>
        plan.rate guess) := by
  simp only [ofArguments, Run.ofOutcome_bind]
  rfl

theorem toNumber_related {a b : Number} (h : Number.Scaled j a b) :
    Related (Number.Scaled j) (Value.number a).toNumber (Value.number b).toNumber := by
  rw [Value.toNumber_number h.isNaN_left, Value.toNumber_number h.isNaN_right]
  exact .ok h

/-- The interest rate of an annuity that arguments describe does not change when its amounts are
multiplied. -/
theorem rateOf_eq {periods timing guess : Value}
    {payment payment' present present' future future' : Number}
    (hpayment : Number.Scaled j payment payment') (hpresent : Number.Scaled j present present')
    (hfuture : Number.Scaled j future future')
    (ha : ∀ plan plan',
      ofArguments periods (.number payment) (.number present) (.number future) timing = .ok plan →
      ofArguments periods (.number payment') (.number present') (.number future') timing =
        .ok plan' →
      plan.periods.le (.int 0) = false → plan.Agrees j plan' guess) :
    rateOf periods (.number payment) (.number present) (.number future) timing guess =
      rateOf periods (.number payment') (.number present') (.number future') timing guess := by
  have hplans : Related (Scaled j)
      (ofArguments periods (.number payment) (.number present) (.number future) timing)
      (ofArguments periods (.number payment') (.number present') (.number future') timing) := by
    refine (Related.of_eq rfl).bind fun periods _ _ _ hsame => ?_
    subst hsame
    refine (toNumber_related hpayment).bind fun _ _ _ _ hpayment => ?_
    refine (toNumber_related hpresent).bind fun _ _ _ _ hpresent => ?_
    refine (toNumber_related hfuture).bind fun _ _ _ _ hfuture => ?_
    refine (Related.of_eq rfl).bind fun timing _ _ _ hsame => ?_
    subst hsame
    exact .ok ⟨rfl, rfl, hpayment, hpresent, hfuture⟩
  rw [rateOf_eq_bind, rateOf_eq_bind]
  exact Run.ofOutcome_bind_congr hplans fun plan plan' hplan hplan' hscaled =>
    rate_eq hscaled (ha plan plan' hplan hplan')

end SheetFormulas.Finance.PaymentPlan
