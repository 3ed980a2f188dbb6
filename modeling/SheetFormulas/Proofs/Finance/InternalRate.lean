import SheetFormulas.Finance.InternalRate
import SheetFormulas.Proofs.Binary64.Scaling
import SheetFormulas.Proofs.Run.Loop
import SheetFormulas.Proofs.Summation
import SheetFormulas.Proofs.Value.Coercion

/-!
Internal rates of return of flows that are multiplied by a power of two. As long as all amounts stay
in the range, the value and the slope at a rate are multiplied too, and the step to the next rate is
the same; so the search can only part at its tests for small values and flat slopes.
-/

namespace SheetFormulas.Finance

open Outcome

variable {j : Nat}

/-- Whether a flow is a multiple of another, at the same time. -/
structure Flow.Scaled (j : Nat) (flow flow' : Flow) : Prop where
  time_eq : flow'.time = flow.time
  amount : Binary64.Scaled j flow.amount flow'.amount

/-- The same, where amounts may also be infinite or no numbers. -/
structure Flow.Multiple (j : Nat) (flow flow' : Flow) : Prop where
  time_eq : flow'.time = flow.time
  amount : Binary64.Multiple j flow.amount flow'.amount

namespace CashFlow

/-- The sum of two sums, each with whether it and all sums before it stay in the range. -/
def addFitting (j : Nat) (a b : Float × Bool) : Float × Bool :=
  (a.1 + b.1, a.2 && b.2 && decide (Binary64.Fits j (a.1 + b.1)))

/-- Whether all sums that the sum of some doubles is worked out from stay in the range. -/
def SumFits (j : Nat) (xs : List Float) : Prop :=
  (Summation.sum (addFitting j) (0, true) (xs.map (·, true))).2 = true

instance (j : Nat) (xs : List Float) : Decidable (SumFits j xs) :=
  inferInstanceAs (Decidable ((Summation.sum (addFitting j) (0, true) (xs.map (·, true))).2 = true))

theorem sum_addFitting (xs : List Float) :
    (Summation.sum (addFitting j) (0, true) (xs.map (·, true))).1 = sumFloat xs :=
  Summation.sum_related (R := fun (a : Float × Bool) x => a.1 = x) (f := addFitting j)
    (g := (· + ·)) (fun _ _ _ _ hx hy => hx ▸ hy ▸ rfl) rfl
    (List.forall₂_map_left_iff.mpr (List.forall₂_same.mpr fun _ _ => rfl))

theorem sumFloat_scaled {xs ys : List Float} (h : List.Forall₂ (Binary64.Scaled j) xs ys)
    (hf : SumFits j xs) : Binary64.Scaled j (sumFloat xs) (sumFloat ys) := by
  rw [← sum_addFitting (j := j) xs]
  refine Summation.sum_related (R := fun (a : Float × Bool) y => a.2 = true → Binary64.Scaled j a.1 y)
    (f := addFitting j) (g := (· + ·)) ?_ ?_ ?_ hf
  · intro a x c z ha hc hfits
    simp only [addFitting, Bool.and_eq_true, decide_eq_true_eq] at hfits
    exact (ha hfits.1.1).add (hc hfits.1.2) hfits.2
  · exact fun _ => .of_zero Binary64.isFinite_zero Binary64.units_zero
  · rw [List.forall₂_map_left_iff]
    exact h.imp fun _ _ hx (_ : true = true) => hx

/-- The term of a flow in the slope. -/
def slopeTerm (base : Float) (flow : Flow) : Float :=
  -flow.time * flow.amount / (Binary64.pow base flow.time * base)

def valueTerm (base : Float) (flow : Flow) : Float := flow.amount / Binary64.pow base flow.time

/-- Whether all amounts that value and slope are worked out from stay in the range, given one plus
the rate. -/
structure Roomy (j : Nat) (flows : List Flow) (base : Float) : Prop where
  discounted : ∀ flow ∈ flows, Binary64.KeepsQuotient j flow.amount (Binary64.pow base flow.time)
  timed : ∀ flow ∈ flows, Binary64.KeepsProduct j flow.amount (-flow.time)
  sloped : ∀ flow ∈ flows,
    Binary64.KeepsQuotient j (-flow.time * flow.amount) (Binary64.pow base flow.time * base)
  value : SumFits j (flows.map (valueTerm base))
  slope : SumFits j (flows.map (slopeTerm base))

instance (j : Nat) (flows : List Flow) (base : Float) : Decidable (Roomy j flows base) :=
  decidable_of_iff
    ((∀ flow ∈ flows, Binary64.KeepsQuotient j flow.amount (Binary64.pow base flow.time)) ∧
      (∀ flow ∈ flows, Binary64.KeepsProduct j flow.amount (-flow.time)) ∧
      (∀ flow ∈ flows,
        Binary64.KeepsQuotient j (-flow.time * flow.amount) (Binary64.pow base flow.time * base)) ∧
      SumFits j (flows.map (valueTerm base)) ∧ SumFits j (flows.map (slopeTerm base)))
    ⟨fun ⟨hd, ht, hs, hv, hl⟩ => ⟨hd, ht, hs, hv, hl⟩,
      fun h => ⟨h.discounted, h.timed, h.sloped, h.value, h.slope⟩⟩

theorem valueOf_grown (flows : List Flow) (base : Float) :
    valueOf (grown flows base) = sumFloat (flows.map (valueTerm base)) := by
  rw [valueOf, grown, List.map_map]
  rfl

theorem slopeOf_grown (flows : List Flow) (base : Float) :
    slopeOf (grown flows base) base = sumFloat (flows.map (slopeTerm base)) := by
  rw [slopeOf, grown, List.map_map]
  rfl

variable {flows flows' : List Flow} {base : Float}

theorem forall₂_map {P : Flow → Flow → Prop} {Q : Float → Float → Prop} {term : Flow → Float}
    (h : List.Forall₂ P flows flows')
    (ht : ∀ flow ∈ flows, ∀ flow', P flow flow' → Q (term flow) (term flow')) :
    List.Forall₂ Q (flows.map term) (flows'.map term) := by
  induction h with
  | nil => exact .nil
  | cons hflow _ ih =>
    exact .cons (ht _ List.mem_cons_self _ hflow)
      (ih fun flow hmem => ht flow (List.mem_cons_of_mem _ hmem))

theorem valueOf_scaled (h : List.Forall₂ (Flow.Scaled j) flows flows') (hr : Roomy j flows base) :
    Binary64.Scaled j (valueOf (grown flows base)) (valueOf (grown flows' base)) := by
  rw [valueOf_grown, valueOf_grown]
  refine sumFloat_scaled (forall₂_map h fun flow hmem flow' hflow => ?_) hr.value
  rw [valueTerm, valueTerm, hflow.time_eq]
  exact hflow.amount.div (hr.discounted flow hmem)

theorem slopeOf_scaled (h : List.Forall₂ (Flow.Scaled j) flows flows') (hr : Roomy j flows base) :
    Binary64.Scaled j (slopeOf (grown flows base) base) (slopeOf (grown flows' base) base) := by
  rw [slopeOf_grown, slopeOf_grown]
  refine sumFloat_scaled (forall₂_map h fun flow hmem flow' hflow => ?_) hr.slope
  rw [slopeTerm, slopeTerm, hflow.time_eq]
  exact (hflow.amount.mul_left (hr.timed flow hmem)).div (hr.sloped flow hmem)

/-- An amount that is not finite leaves no finite sum. -/
theorem isFinite_of_sumFloat {xs : List Float} (h : (sumFloat xs).isFinite = true) :
    ∀ x ∈ xs, x.isFinite = true := by
  -- a finite sum goes with no such amounts
  let others (x : Float) : Nat := if x.isFinite then 0 else 1
  have hothers : Summation.sum (· + ·) 0 (xs.map others) = 0 := by
    refine Summation.sum_related (R := fun (s : Float) n => s.isFinite = true → n = 0)
      (f := (· + ·)) (z := 0) ?_ (fun _ => rfl) ?_ h
    · intro a m c n ha hc hf
      obtain ⟨hfa, hfc⟩ := Binary64.isFinite_of_add hf
      rw [ha hfa, hc hfc]
    · exact List.forall₂_map_right_iff.mpr (List.forall₂_same.mpr fun _ _ hf => if_pos hf)
  rw [Summation.sum_eq_sum, List.sum_eq_zero_iff] at hothers
  intro x hx
  by_contra hf
  have hone : others x = 1 := if_neg hf
  exact Nat.one_ne_zero (hone.symm.trans (hothers _ (List.mem_map_of_mem hx)))

theorem isFinite_of_valueOf (h : (valueOf (grown flows base)).isFinite = true) :
    ∀ flow ∈ flows, flow.amount.isFinite = true := by
  rw [valueOf_grown] at h
  intro flow hmem
  exact Binary64.isFinite_of_div (isFinite_of_sumFloat h _ (List.mem_map_of_mem hmem))

end CashFlow

namespace InternalRate

open CashFlow

variable {flows flows' : List Flow} {rate guess : Number}

/-- One step of Newton's method: where it ends, or the next rate. -/
def step (flows : List Flow) (rate : Number) : Outcome (End ⊕ Number) := do
  let base ← baseOf rate
  let value := valueOf (grown flows base)
  let slope := slopeOf (grown flows base) base
  if !(value.isFinite && slope.isFinite) then return .inl (.stopped rate)
  else if value.abs < tolerance then return .inl (.solved rate)
  else if slope.abs < flatSlope then return .inl (.stopped rate)
  else
    let current ← rate.toFloat
    let next := current - value / slope
    if next < leastRate then return .inl (.stopped rate)
    else if (next - current).abs < tolerance then return .inl (.solved (.float next))
    else return .inr (.float next)

theorem newtonFrom_eq_loop (flows : List Flow) (rate : Number) (count : Nat) :
    newtonFrom flows rate count = loop (step flows) End.stopped rate count := by
  induction count generalizing rate with
  | zero => rfl
  | succ count ih =>
    rw [newtonFrom, loop, step, bind_assoc]
    refine bind_congr fun base _ => ?_
    dsimp only
    split_ifs with hfinite hsmall hflat
    · rfl
    · rfl
    · rfl
    · rw [bind_assoc]
      refine bind_congr fun current _ => ?_
      split_ifs with hleast hclose
      · rfl
      · rfl
      · exact ih _

/-- Whether, at a rate, all amounts stay in the range when they are multiplied, and the tests for a
small value and for a flat slope have the same outcome. -/
structure AgreesAt (j : Nat) (flows flows' : List Flow) (rate : Number) : Prop where
  roomy : ∀ base, baseOf rate = .ok base → Roomy j flows base
  small : ∀ base, baseOf rate = .ok base →
    ((valueOf (grown flows base)).abs < tolerance ↔ (valueOf (grown flows' base)).abs < tolerance)
  flat : ∀ base, baseOf rate = .ok base →
    ((slopeOf (grown flows base) base).abs < flatSlope ↔
      (slopeOf (grown flows' base) base).abs < flatSlope)

instance (j : Nat) (flows flows' : List Flow) (rate : Number) :
    Decidable (AgreesAt j flows flows' rate) :=
  decidable_of_iff
    (∀ base, baseOf rate = .ok base → Roomy j flows base ∧
      ((valueOf (grown flows base)).abs < tolerance ↔
        (valueOf (grown flows' base)).abs < tolerance) ∧
      ((slopeOf (grown flows base) base).abs < flatSlope ↔
        (slopeOf (grown flows' base) base).abs < flatSlope))
    ⟨fun h => ⟨fun base hb => (h base hb).1, fun base hb => (h base hb).2.1,
      fun base hb => (h base hb).2.2⟩,
      fun h base hb => ⟨h.roomy base hb, h.small base hb, h.flat base hb⟩⟩

/-- A slope that is not flat is not zero. -/
theorem units_ne_zero_of_not_flat {slope : Float} (hf : slope.isFinite = true)
    (h : ¬ slope.abs < flatSlope) : Binary64.units slope ≠ 0 := by
  intro hz
  have hflat : flatSlope.isFinite = true ∧ 0 < Binary64.signedUnits flatSlope := by decide +kernel
  rw [Binary64.lt_iff (Binary64.isFinite_abs hf) hflat.1, Binary64.signedUnits_abs hf, hz] at h
  exact h hflat.2

theorem step_eq (h : List.Forall₂ (Flow.Scaled j) flows flows') (ha : AgreesAt j flows flows' rate) :
    step flows rate = step flows' rate := by
  unfold step
  refine bind_congr fun base hbase => ?_
  have hvalue := valueOf_scaled h (ha.roomy base hbase)
  have hslope := slopeOf_scaled h (ha.roomy base hbase)
  dsimp only
  rw [hvalue.finite_left, hvalue.finite_right, hslope.finite_left, hslope.finite_right]
  rw [Bool.and_self, Bool.not_true, if_neg Bool.false_ne_true, if_neg Bool.false_ne_true]
  refine Related.eq (.ite (ha.small base hbase) (fun _ => .of_eq rfl) fun _ => ?_)
  refine .ite (ha.flat base hbase) (fun _ => .of_eq rfl) fun hflat => .of_eq ?_
  rw [hvalue.div_eq_div hslope (units_ne_zero_of_not_flat hslope.finite_left hflat)]

/-- Whether two searches from a guess agree at all rates that they come to. -/
def Agrees (j : Nat) (flows flows' : List Flow) (guess : Number) : Prop :=
  ∀ n < stepLimit, ∀ rate, Visits (step flows) guess n rate → AgreesAt j flows flows' rate

theorem agrees_of_throughout
    (h : Throughout (step flows) (AgreesAt j flows flows') guess stepLimit) :
    Agrees j flows flows' guess :=
  fun _ hn _ hv => h.of_visits hn hv

/-- Newton's method stops where it starts if some amount is not finite. -/
theorem newtonFrom_of_not_finite (h : ¬ ∀ flow ∈ flows, flow.amount.isFinite = true) (left : Nat) :
    newtonFrom flows rate (left + 1) = (baseOf rate >>= fun _ => .ok (.stopped rate)) := by
  rw [newtonFrom]
  refine bind_congr fun base _ => ?_
  have hvalue : (valueOf (grown flows base)).isFinite = false := by
    rw [← Bool.not_eq_true]
    exact fun hf => h (isFinite_of_valueOf hf)
  dsimp only
  rw [hvalue]
  rfl

/-- Newton's method ends in the same way for multiples of flows. -/
theorem newtonFrom_eq_of_scaled (h : List.Forall₂ (Flow.Scaled j) flows flows')
    (ha : Agrees j flows flows' guess) :
    newtonFrom flows guess stepLimit = newtonFrom flows' guess stepLimit := by
  rw [newtonFrom_eq_loop, newtonFrom_eq_loop]
  refine loop_eq_loop (R := (· = ·)) stepLimit rfl (fun _ _ h => congrArg End.stopped h) ?_
  rintro n hn rate _ hvisits - rfl
  rw [step_eq h (ha n hn rate hvisits)]
  exact (Related.of_eq rfl).mono fun result _ h => h ▸ alike_self result

theorem forall_isFinite_iff (h : List.Forall₂ (Flow.Multiple j) flows flows') :
    (∀ flow ∈ flows, flow.amount.isFinite = true) ↔ ∀ flow ∈ flows', flow.amount.isFinite = true := by
  induction h with
  | nil => simp
  | cons hflow _ ih => rw [List.forall_mem_cons, List.forall_mem_cons, hflow.amount.isFinite_eq, ih]

theorem forall₂_scaled (h : List.Forall₂ (Flow.Multiple j) flows flows')
    (hf : ∀ flow ∈ flows, flow.amount.isFinite = true) :
    List.Forall₂ (Flow.Scaled j) flows flows' := by
  induction h with
  | nil => exact .nil
  | cons hflow _ ih =>
    rw [List.forall_mem_cons] at hf
    exact .cons ⟨hflow.time_eq, hflow.amount.scaled hf.1⟩ (ih hf.2)

theorem newtonFrom_eq (h : List.Forall₂ (Flow.Multiple j) flows flows')
    (ha : (∀ flow ∈ flows, flow.amount.isFinite = true) → Agrees j flows flows' guess) :
    newtonFrom flows guess stepLimit = newtonFrom flows' guess stepLimit := by
  by_cases hf : ∀ flow ∈ flows, flow.amount.isFinite = true
  · exact newtonFrom_eq_of_scaled (forall₂_scaled h hf) (ha hf)
  · have hf' := mt (forall_isFinite_iff h).mpr hf
    exact (newtonFrom_of_not_finite hf 99).trans (newtonFrom_of_not_finite hf' 99).symm

theorem solve_eq (name : String) (h : List.Forall₂ (Flow.Multiple j) flows flows')
    (ha : (∀ flow ∈ flows, flow.amount.isFinite = true) → Agrees j flows flows' guess) :
    solve name flows guess = solve name flows' guess := by
  rw [solve, solve, newtonFrom_eq h ha]

end InternalRate

/-! From values to flows. -/

/-- Whether a value inside an array is a multiple of another as a double, or else the same and no
number. -/
inductive LeafScaled (j : Nat) : Value → Value → Prop where
  | number {a b : Number} : Related (Binary64.Multiple j) a.toFloat b.toFloat →
      LeafScaled j (.number a) (.number b)
  | other {v : Value} : (∀ a, v ≠ .number a) → LeafScaled j v v

/-- Whether an array has multiples of the numbers of another, in the same places. -/
structure ArrayScaled (j : Nat) (values values' : Value) : Prop where
  error?_eq : values'.error? = values.error?
  leaves : List.Forall₂ (LeafScaled j) values.leaves values'.leaves

namespace CashFlow

theorem memberNumber_number (a : Number) : Aggregate.memberNumber (.number a) = .ok (some a) := by
  have hkind : ∃ kind, (Value.number a).kind = .ok kind := ⟨_, rfl⟩
  obtain ⟨kind, hkind⟩ := hkind
  rw [Aggregate.memberNumber, hkind]
  rfl

/-- Whether the double of a number is a multiple of that of another. -/
def DoubleScaled (j : Nat) (a b : Number) : Prop :=
  Related (Binary64.Multiple j) a.toFloat b.toFloat

theorem memberNumber_related {v w : Value} (h : LeafScaled j v w) :
    Related (Option.Rel (DoubleScaled j)) (Aggregate.memberNumber v) (Aggregate.memberNumber w) := by
  cases h with
  | number h =>
    rw [memberNumber_number, memberNumber_number]
    exact .ok (.some h)
  | other hv =>
    -- whatever is no number contributes nothing, or is refused
    cases v with
    | number a => exact absurd rfl (hv a)
    | error kind => exact .error _
    | deferred label body => exact .error _
    | _ => exact .ok .none

theorem filterMap_related {os os' : List (Option Number)}
    (h : List.Forall₂ (Option.Rel (DoubleScaled j)) os os') :
    List.Forall₂ (DoubleScaled j) (os.filterMap id) (os'.filterMap id) := by
  induction h with
  | nil => exact .nil
  | cons ho _ ih =>
    cases ho with
    | some ha => exact .cons ha ih
    | none => exact ih

/-- The amounts of two arrays, of which one has multiples of the numbers of the other. -/
theorem amounts_related {values values' : Value} (h : ArrayScaled j values values') :
    Related (List.Forall₂ (Binary64.Multiple j)) (amounts values) (amounts values') := by
  have hleaves := h.leaves
  unfold amounts Aggregate.memberNumbers
  rw [flatten_singleton, flatten_singleton, bind_assoc, bind_assoc]
  refine (Related.mapM hleaves fun _ _ => memberNumber_related).bind fun os os' _ _ hos => ?_
  rw [pure_bind, pure_bind]
  exact Related.mapM (filterMap_related hos) fun _ _ h => h

/-- Tests for amounts of both signs have the same outcome for multiples. -/
theorem requireBothSigns_eq {xs ys : List Float} (kind : ErrorKind)
    (h : List.Forall₂ (Binary64.Multiple j) xs ys) :
    requireBothSigns xs kind = requireBothSigns ys kind := by
  have hany (test : Float → Bool) (ht : ∀ x y, Binary64.Multiple j x y → test x = test y) :
      xs.any test = ys.any test := by
    induction h with
    | nil => rfl
    | cons hx _ ih => rw [List.any_cons, List.any_cons, ht _ _ hx, ih]
  rw [requireBothSigns, requireBothSigns, hany _ fun x y h => decide_eq_decide.mpr h.zero_lt_iff.symm,
    hany _ fun x y h => decide_eq_decide.mpr h.lt_zero_iff.symm]

theorem isFinite_of_periodicFrom {xs : List Float} {start : Nat}
    (h : ∀ flow ∈ periodicFrom start xs, flow.amount.isFinite = true) :
    ∀ x ∈ xs, x.isFinite = true := by
  induction xs generalizing start with
  | nil => simp
  | cons x rest ih =>
    rw [periodicFrom, List.forall_mem_cons] at h
    exact List.forall_mem_cons.mpr ⟨h.1, ih h.2⟩

theorem periodicFrom_multiple {xs ys : List Float} (start : Nat)
    (h : List.Forall₂ (Binary64.Multiple j) xs ys) :
    List.Forall₂ (Flow.Multiple j) (periodicFrom start xs) (periodicFrom start ys) := by
  induction h generalizing start with
  | nil => exact .nil
  | cons hx _ ih => exact .cons ⟨rfl, hx⟩ (ih (start + 1))

theorem zipWith_multiple {xs ys : List Float} (h : List.Forall₂ (Binary64.Multiple j) xs ys)
    (times : List Float) :
    List.Forall₂ (Flow.Multiple j) (List.zipWith Flow.mk xs times) (List.zipWith Flow.mk ys times) := by
  induction h generalizing times with
  | nil => exact .nil
  | cons hx _ ih =>
    cases times with
    | nil => exact .nil
    | cons time times => exact .cons ⟨rfl, hx⟩ (ih times)

theorem dated_related {values values' : Value} (dates : Value) (h : ArrayScaled j values values') :
    Related (List.Forall₂ (Flow.Multiple j)) (dated values dates) (dated values' dates) := by
  unfold dated
  refine (amounts_related h).bind fun xs ys _ _ hxy => ?_
  refine (Related.of_eq rfl).bind fun days _ _ _ hdays => ?_
  subst hdays
  cases days with
  | nil => exact .error _
  | cons first rest =>
    refine .ite (by rw [hxy.length_eq]) (fun _ => .error _) fun _ => ?_
    exact .ite Iff.rfl (fun _ => .error _) fun _ => .ok (zipWith_multiple hxy _)

end CashFlow

namespace InternalRate

/-- The internal rate of return of periodic payments does not change when all are multiplied. -/
theorem periodic_eq {values values' guess : Value} (h : ArrayScaled j values values')
    (ha : ∀ xs ys rate, CashFlow.amounts values = .ok xs → CashFlow.amounts values' = .ok ys →
      guess.toNumber = .ok rate → (∀ x ∈ xs, x.isFinite = true) →
      Agrees j (CashFlow.periodicFrom 0 xs) (CashFlow.periodicFrom 0 ys) rate) :
    periodic values guess = periodic values' guess := by
  refine Run.ofOutcome_bind_congr (CashFlow.amounts_related h) fun xs ys hxs hys hxy => ?_
  rw [CashFlow.requireBothSigns_eq _ hxy]
  congr 1
  funext _
  refine Run.ofOutcome_bind_congr (.of_eq rfl) fun rate _ hrate _ hsame => ?_
  rw [← hsame]
  exact solve_eq "IRR" (CashFlow.periodicFrom_multiple 0 hxy) fun hf =>
    ha xs ys rate hxs hys hrate (CashFlow.isFinite_of_periodicFrom hf)

/-- So does that of dated payments. -/
theorem dated_eq {values values' dates guess : Value} (h : ArrayScaled j values values')
    (ha : ∀ flows flows' rate, CashFlow.dated values dates = .ok flows →
      CashFlow.dated values' dates = .ok flows' → guess.toNumber = .ok rate →
      (∀ flow ∈ flows, flow.amount.isFinite = true) → Agrees j flows flows' rate) :
    dated values dates guess = dated values' dates guess := by
  refine Run.ofOutcome_bind_congr (CashFlow.dated_related dates h) fun flows flows' hf hf' hflows => ?_
  rw [hflows.length_eq]
  split_ifs
  · rfl
  · rw [CashFlow.requireBothSigns_eq _ (CashFlow.forall₂_map hflows fun _ _ _ h => h.amount)]
    congr 1
    funext _
    refine Run.ofOutcome_bind_congr (.of_eq rfl) fun rate _ hrate _ hsame => ?_
    rw [← hsame]
    exact solve_eq "XIRR" hflows (ha flows flows' rate hf hf' hrate)

end InternalRate

end SheetFormulas.Finance
