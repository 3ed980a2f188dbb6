import SheetFormulas.Proofs.Finance.AdmissibleRates
import SheetFormulas.Proofs.Number.Scaling
import SheetFormulas.Proofs.Run.Answers
import SheetFormulas.Proofs.Value.Order
import SheetFormulas.Proofs.Value.TextNumber

/-!
The dates of dated flows. Everything among the values that is no number is left out before numbers
and dates are paired, but nothing is left out of the dates; so a number is paired with the date whose
place is the count of numbers before it. It keeps the date at its own place as long as nothing before
it is left out, and the values are as many as the dates only if nothing is left out at all.
-/

namespace SheetFormulas

open Outcome

namespace Value

/-- Whether the conversion to a double overflows. -/
def Overflows (v : Value) : Prop := v.toNumber >>= Number.toFloat = fail .overflow

/-- Whether a failure is the overflow of one of some values. -/
def OverflowOf (values : List Value) (cause : Failure) : Prop :=
  cause = .overflow ∧ ∃ v ∈ values, v.Overflows

variable {v : Value} {values more : List Value} {cause : Failure}

theorem OverflowOf.mono (h : OverflowOf values cause) (hs : values ⊆ more) :
    OverflowOf more cause := by
  obtain ⟨hcause, v, hv, hoverflows⟩ := h
  exact ⟨hcause, v, hs hv, hoverflows⟩

theorem overflowOf_singleton (h : v.Overflows) : OverflowOf [v] .overflow :=
  ⟨rfl, v, List.mem_singleton_self v, h⟩

end Value

open Value

namespace Outcome

variable {α β : Type} {F : Failure → Prop} {f : α → Outcome β}

/-- A map fails only as one of its steps. -/
theorem answersOr_mapM {items : List α} (h : ∀ a ∈ items, (f a).AnswersOr F fun _ => True) :
    (items.mapM f).AnswersOr F fun _ => True := by
  induction items with
  | nil =>
    rw [List.mapM_nil]
    trivial
  | cons item rest ih =>
    obtain ⟨hitem, hrest⟩ := List.forall_mem_cons.mp h
    rw [List.mapM_cons]
    exact hitem.bind fun _ _ => (ih hrest).bind fun _ _ => trivial

theorem forall₂_of_mapM {items : List α} {results : List β} (h : items.mapM f = .ok results) :
    List.Forall₂ (fun a b => f a = .ok b) items results := by
  induction items generalizing results with
  | nil =>
    rw [List.mapM_nil] at h
    cases h
    exact .nil
  | cons item rest ih =>
    rw [List.mapM_cons] at h
    obtain ⟨b, hb, h⟩ := bind_eq_ok_iff.mp h
    obtain ⟨bs, hbs, h⟩ := bind_eq_ok_iff.mp h
    cases h
    exact .cons hb (ih hbs)

/-- The step of a map at a place. -/
theorem getElem?_of_mapM {items : List α} {results : List β} {place : Nat} {a : α}
    (h : items.mapM f = .ok results) (ha : items[place]? = some a) :
    ∃ b, results[place]? = some b ∧ f a = .ok b := by
  have hlength := (forall₂_of_mapM h).length_eq
  obtain ⟨hlt, rfl⟩ := List.getElem?_eq_some_iff.mp ha
  exact ⟨_, List.getElem?_eq_getElem (hlength ▸ hlt),
    (List.forall₂_iff_get.mp (forall₂_of_mapM h)).2 place hlt (hlength ▸ hlt)⟩

end Outcome

namespace Number

theorem toFloat_answersOr (n : Number) :
    n.toFloat.AnswersOr (fun cause => cause = .overflow ∧ n.toFloat = fail .overflow)
      fun _ => True := by
  cases h : n.hasDouble with
  | true =>
    cases n with
    | int n =>
      rw [toFloat_int_of_hasDouble h]
      trivial
    | float x => trivial
  | false =>
    rw [toFloat_of_not_hasDouble h]
    exact ⟨rfl, rfl⟩

end Number

namespace Value

theorem toNumber_answersOr (v : Value) : v.toNumber.AnswersOr (OverflowOf [v]) fun _ => True := by
  cases v with
  | number n => exact answersOr_guard fun _ => trivial
  | text t =>
    have hconverts := converts_toNumber t
    by_cases hoverdrawn : IsOverdrawn true t
    · have hfail := hconverts.overflow hoverdrawn
      have hoverflows : (Value.text t).Overflows := by
        rw [Overflows, hfail]
        rfl
      rw [hfail]
      exact overflowOf_singleton hoverflows
    · rcases hconverts.number_or_refused hoverdrawn with ⟨n, hn⟩ | hrefused
      · rw [hn]
        trivial
      · rw [hrefused]
        trivial
  | _ => trivial

theorem toFloat_answersOr {n : Number} (h : v.toNumber = .ok n) :
    n.toFloat.AnswersOr (OverflowOf [v]) fun _ => True := by
  refine (Number.toFloat_answersOr n).mono (fun cause hcause => ?_) fun _ _ => trivial
  rw [hcause.1]
  refine overflowOf_singleton ?_
  rw [Overflows, h]
  exact hcause.2

theorem isFinite_answersOr {n : Number} (h : v.toNumber = .ok n) :
    n.isFinite.AnswersOr (OverflowOf [v]) fun _ => True :=
  (toFloat_answersOr h).bind fun _ _ => trivial

theorem toFloor_answersOr (v : Value) : v.toFloor.AnswersOr (OverflowOf [v]) fun _ => True := by
  have hfinite : v.toFinite.AnswersOr (OverflowOf [v]) fun _ => True := by
    refine (toNumber_answersOr v).self.bind fun n ⟨hn, _⟩ => ?_
    refine (isFinite_answersOr hn).self.bind fun isFinite ⟨hf, _⟩ => ?_
    cases isFinite with
    | true => trivial
    | false =>
      obtain ⟨x, rfl⟩ : ∃ x, n = .float x := by
        cases n with
        | int n => exact absurd hf (Number.isFinite_int_ne_false n)
        | float x => exact ⟨x, rfl⟩
      have hshown : (Number.float x).shown.Answers fun _ => True := answers_ok trivial
      exact hshown.bind_or fun _ _ => trivial
  exact hfinite.bind fun _ _ => trivial

end Value

namespace Aggregate

theorem memberNumber_answers (v : Value) : (memberNumber v).Answers (· = v.number?) := by
  cases v <;> trivial

/-- The numbers among the members of an array, unless one of the members stops them. -/
theorem memberNumbers_answers_filterMap (members : List Value) :
    (memberNumbers members).Answers (· = members.filterMap number?) := by
  have hmembers : (members.mapM memberNumber).Answers (· = members.map number?) := by
    induction members with
    | nil =>
      rw [List.mapM_nil]
      exact answers_ok rfl
    | cons v rest ih =>
      rw [List.mapM_cons, List.map_cons]
      refine (memberNumber_answers v).bind fun n hn => ih.bind fun found hfound => ?_
      rw [hn, hfound]
      exact answers_ok rfl
  refine hmembers.bind fun found hfound => answers_ok ?_
  rw [hfound, List.filterMap_map]
  rfl

end Aggregate

namespace Finance.CashFlow

variable {values dates : Value} {flows : List Flow} {list : List Float}

theorem amounts_answersOr (values : Value) :
    (amounts values).AnswersOr (OverflowOf values.leaves) fun _ => True := by
  refine (Aggregate.memberNumbers_answers_filterMap _).bind_or fun numbers hnumbers => ?_
  refine answersOr_mapM fun n hn => (Number.toFloat_answersOr n).mono ?_ fun _ _ => trivial
  rintro cause ⟨rfl, hfail⟩
  rw [hnumbers, flatten_singleton, List.mem_filterMap] at hn
  obtain ⟨v, hv, hnumber⟩ := hn
  have hoverflows : v.Overflows := by
    cases v with
    | number m =>
      cases hnumber
      cases n with
      | int n => exact hfail
      | float x => cases hfail
    | _ => cases hnumber
  exact ⟨rfl, v, hv, hoverflows⟩

theorem days_answersOr (dates : Value) :
    (days dates).AnswersOr (OverflowOf dates.leaves) fun _ => True := by
  refine (answersOr_mapM fun v hv => ?_).bind fun _ _ => trivial
  rw [flatten_singleton] at hv
  refine (toFloor_answersOr v).mono (fun cause hcause => hcause.mono ?_) fun _ _ => trivial
  exact List.cons_subset.mpr ⟨hv, List.nil_subset _⟩

theorem dated_answersOr (values dates : Value) :
    (dated values dates).AnswersOr (OverflowOf (values.leaves ++ dates.leaves)) fun _ => True := by
  refine ((amounts_answersOr values).mono (fun _ h => h.mono (List.subset_append_left _ _))
    fun _ h => h).bind fun amounts _ => ?_
  refine ((days_answersOr dates).mono (fun _ h => h.mono (List.subset_append_right _ _))
    fun _ h => h).bind fun days _ => ?_
  cases days with
  | nil => trivial
  | cons first rest => exact answersOr_guard fun _ => answersOr_guard fun _ => trivial

theorem baseOf_answersOr {v : Value} {rate : Number} (h : v.toNumber = .ok rate) :
    (baseOf rate).AnswersOr (OverflowOf [v]) fun _ => True :=
  (toFloat_answersOr h).bind fun _ _ => trivial

/-- The present value of dated flows fails only where the rate or an entry overflows. -/
theorem netPresentDated_answersOr (rate values dates : Value) :
    (netPresentDated rate values dates).AnswersOr
      (OverflowOf (rate :: (values.leaves ++ dates.leaves))) fun _ => True := by
  have hrate {cause : Failure} (h : OverflowOf [rate] cause) :
      OverflowOf (rate :: (values.leaves ++ dates.leaves)) cause :=
    h.mono (List.cons_subset_cons _ (List.nil_subset _))
  refine ((toNumber_answersOr rate).mono (fun _ => hrate) fun _ h => h).self.bind
    fun r ⟨hr, _⟩ => answersOr_guard fun _ => ?_
  refine ((dated_answersOr values dates).mono (fun _ h => h.mono (List.subset_cons_self _ _))
    fun _ h => h).bind fun flows _ => ?_
  exact ((baseOf_answersOr hr).mono (fun _ => hrate) fun _ h => h).bind fun _ _ => trivial

/-! The places of flows. -/

/-- How many numbers come before a place. -/
def numbersBefore (entries : List Value) (place : Nat) : Nat :=
  (entries.take place).countP (·.number?.isSome)

/-- How many entries are no numbers. -/
def leftOut (entries : List Value) : Nat := entries.countP (!·.number?.isSome)

/-- The day of the date at a place. -/
def DayAt (dates : List Value) (place : Nat) (day : Int) : Prop :=
  ∃ date, dates[place]? = some date ∧ date.toFloor = .ok day

/-- Whether a flow is that of a number on the date at a place, timed from the first date. -/
structure OnDate (dates : List Value) (place : Nat) (n : Number) (flow : Flow) : Prop where
  amount_eq : n.toFloat = .ok flow.amount
  time_eq : ∃ first day, DayAt dates 0 first ∧ DayAt dates place day ∧
    flow.time = yearsBetween (Binary64.ofInt first) (Binary64.ofInt day)

/-- Whether flows are those of the numbers among entries, each on the date whose place is the count of
numbers before it. -/
structure Shifted (entries dates : List Value) (flows : List Flow) : Prop where
  length_eq : flows.length = dates.length
  length_entries : entries.length = dates.length + leftOut entries
  onDate : ∀ place n, entries[place]? = some (.number n) →
    ∃ flow, flows[numbersBefore entries place]? = some flow ∧
      OnDate dates (numbersBefore entries place) n flow

theorem length_eq_filterMap_add_leftOut (entries : List Value) :
    entries.length = (entries.filterMap number?).length + leftOut entries := by
  rw [List.length_filterMap_eq_countP, leftOut, List.length_eq_countP_add_countP (·.number?.isSome)]
  simp only [Bool.not_eq_true, Bool.decide_eq_false]

/-- A number is in the place among the numbers that is the count of numbers before it. -/
theorem getElem?_filterMap_numbersBefore {entries : List Value} {place : Nat} {n : Number}
    (h : entries[place]? = some (.number n)) :
    (entries.filterMap number?)[numbersBefore entries place]? = some n := by
  induction entries generalizing place with
  | nil => cases h
  | cons entry rest ih =>
    cases place with
    | zero =>
      cases h
      rfl
    | succ place =>
      have hrest := ih h
      rw [numbersBefore] at hrest ⊢
      rw [List.take_succ_cons, List.countP_cons, List.filterMap_cons]
      cases entry.number? with
      | none => exact hrest
      | some m => exact hrest

/-- Flows of amounts at the times of serials, all of which belong to dates. -/
theorem onDate_of_zipWith {dates : List Value} {numbers : List Number} {first : Int} {rest : List Int}
    (hamounts : numbers.mapM Number.toFloat = .ok list)
    (hserials : dates.mapM Value.toFloor = .ok (first :: rest))
    (hlength : numbers.length = dates.length) {place : Nat} {n : Number}
    (h : numbers[place]? = some n) :
    ∃ flow, (List.zipWith Flow.mk list ((first :: rest).map fun day =>
      yearsBetween (Binary64.ofInt first) (Binary64.ofInt day)))[place]? = some flow ∧
        OnDate dates place n flow := by
  have hdate {place : Nat} (hlt : place < dates.length) :
      ∃ day, (first :: rest)[place]? = some day ∧ DayAt dates place day := by
    obtain ⟨day, hday, hfloor⟩ := getElem?_of_mapM hserials (List.getElem?_eq_getElem hlt)
    exact ⟨day, hday, _, List.getElem?_eq_getElem hlt, hfloor⟩
  have hlt : place < dates.length := hlength ▸ (List.getElem?_eq_some_iff.mp h).1
  obtain ⟨amount, hamount, hdouble⟩ := getElem?_of_mapM hamounts h
  obtain ⟨day, hday, hdayAt⟩ := hdate hlt
  obtain ⟨start, hstart, hfirst⟩ := hdate (Nat.zero_lt_of_lt hlt)
  cases hstart
  refine ⟨⟨amount, yearsBetween (Binary64.ofInt first) (Binary64.ofInt day)⟩, ?_, hdouble, first,
    day, hfirst, hdayAt, rfl⟩
  rw [List.getElem?_zipWith, hamount, List.getElem?_map, hday]
  rfl

/-- Dated flows are paired in the order of numbers and dates. -/
theorem shifted_of_dated (h : dated values dates = .ok flows) :
    Shifted values.leaves dates.leaves flows := by
  obtain ⟨list, hlist, h⟩ := bind_eq_ok_iff.mp h
  obtain ⟨daysList, hdays, h⟩ := bind_eq_ok_iff.mp h
  obtain ⟨numbers, hnumbers, hamounts⟩ := bind_eq_ok_iff.mp hlist
  obtain ⟨serials, hserials, hdays⟩ := bind_eq_ok_iff.mp hdays
  cases hdays
  have hfound : numbers = values.leaves.filterMap number? := by
    have hanswers := Aggregate.memberNumbers_answers_filterMap (flatten [values])
    rw [hnumbers, flatten_singleton] at hanswers
    exact hanswers
  rw [flatten_singleton] at hserials
  cases serials with
  | nil => cases h
  | cons first rest =>
    rw [List.map_cons] at h
    dsimp only at h
    split_ifs at h with hdiffers hearly
    · cases h
    · cases h
    · rw [← List.map_cons, List.map_map] at h
      cases h
      have hnumbersLength := (forall₂_of_mapM hamounts).length_eq
      have hdatesLength := (forall₂_of_mapM hserials).length_eq
      rw [List.length_map, ← hnumbersLength, ← List.length_cons, ← hdatesLength, ne_eq,
        Decidable.not_not] at hdiffers
      refine ⟨?_, ?_, fun place n hn => ?_⟩
      · rw [List.length_zipWith, List.length_map, ← hnumbersLength, ← hdatesLength, hdiffers,
          Nat.min_self]
      · rw [length_eq_filterMap_add_leftOut, ← hfound, hdiffers]
      · rw [hfound] at hamounts hdiffers
        exact onDate_of_zipWith hamounts hserials hdiffers (getElem?_filterMap_numbersBefore hn)

theorem Shifted.same_length_iff {entries dates : List Value} (h : Shifted entries dates flows) :
    entries.length = dates.length ↔ ∀ v ∈ entries, ∃ n, v = .number n := by
  have hnumber (v : Value) : (!v.number?.isSome) = false ↔ ∃ n, v = .number n := by
    cases v <;> simp [number?]
  rw [h.length_entries, Nat.add_eq_left, leftOut, List.countP_eq_zero]
  simp only [Bool.not_eq_true, hnumber]

end Finance.CashFlow

namespace Finance.InternalRate

variable {flows : List Flow} {F : Failure → Prop}

/-- Newton's method fails only where its start has no double. -/
theorem newtonFrom_answersOr {rate : Number} (h : rate.toFloat.AnswersOr F fun _ => True) (left : Nat) :
    (newtonFrom flows rate left).AnswersOr F fun _ => True := by
  induction left generalizing rate with
  | zero => trivial
  | succ left ih =>
    have hbase : (CashFlow.baseOf rate).AnswersOr F fun _ => True := h.bind fun _ _ => trivial
    refine hbase.bind fun base _ => ?_
    dsimp only
    split_ifs
    · trivial
    · trivial
    · trivial
    · refine h.bind fun current _ => ?_
      split_ifs
      · trivial
      · trivial
      · exact ih trivial

theorem search_answersOr (values dates guess : Value) :
    (search "XIRR" (datedFlows values dates) guess).AnswersOr
      (OverflowOf (guess :: (values.leaves ++ dates.leaves))) fun _ => True := by
  have hguess {cause : Failure} (h : OverflowOf [guess] cause) :
      OverflowOf (guess :: (values.leaves ++ dates.leaves)) cause :=
    h.mono (List.cons_subset_cons _ (List.nil_subset _))
  have hflows : (datedFlows values dates).AnswersOr
      (OverflowOf (guess :: (values.leaves ++ dates.leaves))) fun _ => True :=
    ((CashFlow.dated_answersOr values dates).mono (fun _ h => h.mono (List.subset_cons_self _ _))
      fun _ h => h).bind fun _ _ => answersOr_guard fun _ => trivial
  have hsigns (amounts : List Float) : (CashFlow.requireBothSigns amounts .badNumber).Answers
      fun _ => True := answers_ite (fun _ => answers_ok trivial) fun _ => answers_refuse _
  refine hflows.bind fun flows _ => (hsigns _).bind_or fun _ _ => ?_
  refine ((toNumber_answersOr guess).mono (fun _ => hguess) fun _ h => h).self.bind
    fun start ⟨hstart, _⟩ => ?_
  have hdouble := (toFloat_answersOr hstart).mono (fun _ => hguess) fun _ h => h
  refine (newtonFrom_answersOr hdouble stepLimit).bind fun last _ => ?_
  cases last <;> trivial

end Finance.InternalRate

namespace Finance.CashFlow

/-- Whether a number is the present value of flows at a rate. -/
def IsPresentValue (rate : Value) (flows : List Flow) (result : Number) : Prop :=
  ∃ r base, rate.toNumber = .ok r ∧ baseOf r = .ok base ∧ result = .float (valueAt flows base)

/-- Whether a number is a rate of return of flows that the search from a guess reports. -/
def IsReturn (guess : Value) (flows : List Flow) (result : Number) : Prop :=
  ∃ start, guess.toNumber = .ok start ∧ InternalRate.Reported flows start result

/-- Calls of the functions of dated flows, with the rate or guess, the values and the dates, and with
what their answer is for the flows of these. -/
inductive DatedCall :
    String → List Value → Value → Value → Value → (List Flow → Number → Prop) → Prop where
  | netPresent (rate values dates : Value) :
      DatedCall "XNPV" [rate, values, dates] rate values dates (IsPresentValue rate)
  | internal (values dates : Value) :
      DatedCall "XIRR" [values, dates] (.ofFloat 0.1) values dates (IsReturn (.ofFloat 0.1))
  | internalFrom (values dates guess : Value) :
      DatedCall "XIRR" [values, dates, guess] guess values dates (IsReturn guess)

variable {arguments : List Value} {outcome : Outcome Number} {rate guess : Value}

theorem shifted_of_netPresentDated {x : Float} (h : netPresentDated rate values dates = .ok x) :
    ∃ flows, IsPresentValue rate flows (.float x) ∧ Shifted values.leaves dates.leaves flows := by
  obtain ⟨r, hr, h⟩ := bind_eq_ok_iff.mp h
  split_ifs at h
  · cases h
  · obtain ⟨flows, hflows, h⟩ := bind_eq_ok_iff.mp h
    obtain ⟨base, hbase, h⟩ := bind_eq_ok_iff.mp h
    cases h
    exact ⟨flows, ⟨r, base, hr, hbase, rfl⟩, shifted_of_dated hflows⟩

theorem shifted_of_search {result : Number}
    (h : InternalRate.search "XIRR" (InternalRate.datedFlows values dates) guess = .ok result) :
    ∃ flows, IsReturn guess flows result ∧ Shifted values.leaves dates.leaves flows := by
  obtain ⟨flows, start, hflows, hstart, hreported⟩ := InternalRate.reported_of_search h
  obtain ⟨found, hfound, h⟩ := bind_eq_ok_iff.mp hflows
  split_ifs at h
  · cases h
  · cases h
    exact ⟨flows, ⟨start, hstart, hreported⟩, shifted_of_dated hfound⟩

/-- What a call of a function answers with that does not see error values. -/
theorem guarded_cases {F : Failure → Prop} {P : Number → Prop} (arguments : List Value)
    (h : outcome.AnswersOr F P) :
    (∃ kind, Entry.guarded arguments (Value.number <$> outcome) = .ok (.error kind)) ∨
      (∃ result, P result ∧
        Entry.guarded arguments (Value.number <$> outcome) = .ok (.number result)) ∨
      ∃ cause, F cause ∧ Entry.guarded arguments (Value.number <$> outcome) = fail cause := by
  unfold Entry.guarded
  split
  · exact .inl ⟨_, rfl⟩
  · rcases outcome with (cause | cause) | result
    · exact .inl ⟨_, rfl⟩
    · exact .inr (.inr ⟨cause, h, rfl⟩)
    · exact .inr (.inl ⟨result, h, rfl⟩)

variable {name : String} {gives : List Flow → Number → Prop}

theorem DatedCall.yields (context : Context)
    (h : DatedCall name arguments rate values dates gives) :
    ∃ outcome : Outcome Number, (Catalog.standard.call context name arguments []).Yields
        (Entry.guarded arguments (Value.number <$> outcome)) [] ∧
      outcome.AnswersOr (OverflowOf (rate :: (values.leaves ++ dates.leaves))) fun result =>
        ∃ flows, gives flows result ∧ Shifted values.leaves dates.leaves flows := by
  cases h with
  | netPresent =>
    have hvalue : Answer.toValue <$> netPresentDated rate values dates =
        Value.number <$> (netPresentDated rate values dates >>= fun x => .ok (.float x)) := by
      cases netPresentDated rate values dates <;> rfl
    refine ⟨netPresentDated rate values dates >>= fun x => .ok (.float x), ?_, ?_⟩
    · rw [← hvalue]
      exact Catalog.standard_call_yields_guarded rfl rfl rfl
    · exact (netPresentDated_answersOr rate values dates).self.bind
        fun x h => shifted_of_netPresentDated h.1
  | internal =>
    refine ⟨_, (InternalRate.ReturnCall.dated values dates).yields context, ?_⟩
    exact (InternalRate.search_answersOr values dates _).self.mono (fun _ h => h)
      fun _ h => shifted_of_search h.1
  | internalFrom =>
    refine ⟨_, (InternalRate.ReturnCall.datedFrom values dates _).yields context, ?_⟩
    exact (InternalRate.search_answersOr values dates _).self.mono (fun _ h => h)
      fun _ h => shifted_of_search h.1

/-- A call of a function of dated flows answers with an error value, or with what numbers and dates in
their order give, or it overflows as an argument or entry does. The values are as many as the dates
only if all of them are numbers. -/
theorem dated_flows_keep_dates_unless_left_out (context : Context)
    (h : DatedCall name arguments rate values dates gives) :
    (∃ kind, (Catalog.standard.call context name arguments []).Yields (.ok (.error kind)) []) ∨
    (∃ result flows,
      (Catalog.standard.call context name arguments []).Yields (.ok (.number result)) [] ∧
      gives flows result ∧ Shifted values.leaves dates.leaves flows ∧
      (values.leaves.length = dates.leaves.length ↔ ∀ v ∈ values.leaves, ∃ n, v = .number n)) ∨
    ((Catalog.standard.call context name arguments []).Yields (fail .overflow) [] ∧
      ∃ v ∈ rate :: (values.leaves ++ dates.leaves), v.Overflows) := by
  obtain ⟨outcome, hyields, hanswers⟩ := h.yields context
  rcases guarded_cases arguments hanswers with
    ⟨kind, heq⟩ | ⟨result, ⟨flows, hgives, hshifted⟩, heq⟩ | ⟨cause, ⟨hcause, hoverflows⟩, heq⟩
  · rw [heq] at hyields
    exact .inl ⟨kind, hyields⟩
  · rw [heq] at hyields
    exact .inr (.inl ⟨result, flows, hyields, hgives, hshifted, hshifted.same_length_iff⟩)
  · rw [heq, hcause] at hyields
    exact .inr (.inr ⟨hyields, hoverflows⟩)

/-- The text is left out, so that the payment after it is discounted by the date of the text. -/
theorem dated_flows_keep_dates_unless_text :
    let context := Environment.contextAt ⟨Catalog.standard, [], ⟨⟨2024, 1, 15⟩, .midnight⟩⟩ 1
    let values : Value := .array [.ofInt (-100), .text "x", .ofInt 110]
    let dates : Value := .array [.ofInt 0, .ofInt 365]
    (Catalog.standard.call context "XNPV" [.ofFloat 0.1, values, dates] []).Yields
        (.ok (.ofFloat (-1.4210854715202004e-14))) [] ∧
      values.leaves.length ≠ dates.leaves.length ∧
      ∃ flows, IsPresentValue (.ofFloat 0.1) flows (.float (-1.4210854715202004e-14)) ∧
        Shifted values.leaves dates.leaves flows := by
  intro context values dates
  have hamounts : amounts values = .ok [-100, 110] := by
    rw [amounts, flatten_eq_leavesOf]
    decide +kernel
  have hdays : days dates = .ok [0, 365] := by
    rw [days, flatten_eq_leavesOf]
    decide +kernel
  have hpresent : netPresentDated (.ofFloat 0.1) values dates = .ok (-1.4210854715202004e-14) := by
    rw [netPresentDated, dated, hamounts, hdays]
    decide +kernel
  have hcall : (Catalog.standard.call context "XNPV" [.ofFloat 0.1, values, dates] []).Yields
      (.ok (.ofFloat (-1.4210854715202004e-14))) [] :=
    Catalog.standard_call_yields_ok rfl rfl rfl rfl hpresent
  refine ⟨hcall, by decide, ?_⟩
  rcases dated_flows_keep_dates_unless_left_out context (.netPresent (.ofFloat 0.1) values dates) with
    ⟨kind, herror⟩ | ⟨result, flows, hresult, hgives, hshifted, -⟩ | ⟨hfails, -⟩
  · cases (hcall.unique herror).1
  · cases (hcall.unique hresult).1
    exact ⟨flows, hgives, hshifted⟩
  · cases (hcall.unique hfails).1

end Finance.CashFlow

end SheetFormulas
