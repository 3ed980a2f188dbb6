import SheetFormulas.Proofs.Aggregate.Counting
import SheetFormulas.Proofs.Binary64.NonFinite
import SheetFormulas.Proofs.Value.Consistency

/-!
Aggregates of numbers, in arrays or not. They depend on the numbers alone, and the greatest and the
least of them not even on their order, unless an array hides a double that is no number: such a double
is refused as an argument and goes unnoticed in an array.
-/

namespace SheetFormulas

open Value Outcome

namespace Outcome

variable {α β : Type} {P Q : α → Prop} {R : β → Prop} {outcome : Outcome α}

/-- Whether an outcome is a result with a property, or an overflow. -/
def OverflowsOr (P : α → Prop) : Outcome α → Prop
  | .ok a => P a
  | .error fault => fault = .failure .overflow

theorem OverflowsOr.bind {f : α → Outcome β} (h : outcome.OverflowsOr P)
    (hf : ∀ a, P a → (f a).OverflowsOr R) : (outcome >>= f).OverflowsOr R := by
  cases outcome with
  | ok a => exact hf a h
  | error fault => exact h

theorem OverflowsOr.mono (h : outcome.OverflowsOr P) (hpq : ∀ a, P a → Q a) :
    outcome.OverflowsOr Q := by
  cases outcome with
  | ok a => exact hpq a h
  | error fault => exact h

theorem OverflowsOr.cases (h : outcome.OverflowsOr P) :
    outcome = fail .overflow ∨ ∃ a, outcome = .ok a ∧ P a := by
  cases outcome with
  | ok a => exact .inr ⟨a, rfl, h⟩
  | error fault =>
    cases h
    exact .inl rfl

/-- Neither an overflow nor a value other than an error value is answered with an error value. -/
theorem OverflowsOr.answer_ne (h : outcome.OverflowsOr P) {toValue : α → Value} {kind : ErrorKind}
    (hv : ∀ a, toValue a ≠ .error kind) :
    Value.answer (toValue <$> outcome) ≠ .ok (.error kind) := by
  rcases h.cases with rfl | ⟨a, rfl, -⟩
  · exact fun heq => by cases heq
  · exact fun heq => hv a (Except.ok.inj heq)

end Outcome

namespace Number

theorem toFloat_overflowsOr (a : Number) :
    a.toFloat.OverflowsOr fun x => a.isNaN = true → x.isNaN = true := by
  cases a with
  | float x => exact id
  | int n =>
    cases hd : (int n).hasDouble with
    | true =>
      rw [toFloat_int_of_hasDouble hd]
      exact fun h => by cases h
    | false =>
      rw [toFloat_of_not_hasDouble hd]
      rfl

/-- A sum overflows or is a number, and with what is no number it is none either. -/
theorem add_overflowsOr (a b : Number) :
    (a.add b).OverflowsOr fun c => a.isNaN = true ∨ b.isNaN = true → c.isNaN = true := by
  have hdoubles : (do return float ((← a.toFloat) + (← b.toFloat)) : Outcome Number).OverflowsOr
      fun c => a.isNaN = true ∨ b.isNaN = true → c.isNaN = true := by
    refine (toFloat_overflowsOr a).bind fun x hx => (toFloat_overflowsOr b).bind fun y hy h => ?_
    rcases h with ha | hb
    · exact Binary64.isNaN_add_left (hx ha)
    · exact Binary64.isNaN_add_right (hy hb)
  cases a with
  | float x => cases b <;> exact hdoubles
  | int m =>
    cases b with
    | float y => exact hdoubles
    | int n => exact fun h => by rcases h with h | h <;> cases h

theorem foldlM_add_overflowsOr (start : Number) (numbers : List Number) :
    (numbers.foldlM add start).OverflowsOr fun sum =>
      (start.isNaN = true ∨ ∃ n ∈ numbers, n.isNaN = true) → sum.isNaN = true := by
  induction numbers generalizing start with
  | nil =>
    rintro (h | ⟨n, hn, -⟩)
    · exact h
    · exact absurd hn List.not_mem_nil
  | cons first rest ih =>
    rw [List.foldlM_cons]
    refine (add_overflowsOr start first).bind fun next hnext => (ih next).mono fun sum hsum h =>
      hsum ?_
    rcases h with h | ⟨n, hn, hnan⟩
    · exact .inl (hnext (.inl h))
    · rcases List.mem_cons.mp hn with rfl | hn
      · exact .inl (hnext (.inr hnan))
      · exact .inr ⟨n, hn, hnan⟩

theorem div_count_overflowsOr (a : Number) {n : Nat} (hn : n ≠ 0) :
    (a.div (int n)).OverflowsOr fun _ => True := by
  rcases div_count a hn with ⟨quotient, hq⟩ | ⟨hover, -⟩
  · rw [hq]
    trivial
  · rw [hover]
    rfl

variable {R : ℤ ×ₗ ℤ → ℤ ×ₗ ℤ → Prop} {pick : Number → Number → Number}

/-- What is picked from several numbers one after the other, zero if there are none. -/
def picked (pick : Number → Number → Number) : List Number → Number
  | [] => int 0
  | first :: rest => rest.foldl pick first

theorem Picks.isNaN_picked (h : Picks R pick) (numbers : List Number) :
    (picked pick numbers).isNaN = numbers.head?.any isNaN := by
  cases numbers with
  | nil => rfl
  | cons first rest => exact h.isNaN_foldl first rest

/-- What is picked does not depend on the order of the numbers, where only equal ones stand in the
relation to each other both ways. -/
theorem Picks.picked_perm [IsPreorder (ℤ ×ₗ ℤ) R] [Std.Antisymm R] (h : Picks R pick)
    {numbers others : List Number} (hp : numbers.Perm others) (hn : ∀ n ∈ numbers, n.isNaN = false) :
    (picked pick numbers).eq (picked pick others) = true := by
  have hn' : ∀ n ∈ others, n.isNaN = false := fun n hm => hn n (hp.mem_iff.mpr hm)
  cases numbers with
  | nil =>
    rw [List.nil_perm.mp hp]
    exact (eq_iff_exactKey rfl rfl).mpr rfl
  | cons first rest =>
    cases others with
    | nil => exact absurd hp.length_eq (by simp)
    | cons other others =>
      obtain ⟨hmem, hall⟩ := h.foldl hn
      obtain ⟨hmem', hall'⟩ := h.foldl hn'
      refine (eq_iff_exactKey (hn _ hmem) (hn' _ hmem')).mpr ?_
      exact antisymm (hall' _ (hp.mem_iff.mp hmem)) (hall _ (hp.mem_iff.mpr hmem'))

end Number

namespace Value

theorem length_filterMap_number? {values : List Value} (h : ∀ v ∈ values, ∃ n, v = number n) :
    (values.filterMap number?).length = values.length := by
  rw [List.length_filterMap_eq_countP, List.countP_eq_length]
  intro v hv
  obtain ⟨n, rfl⟩ := h v hv
  rfl

/-- Whether a double that is no number stands in an array. -/
def hidesNaN : Value → Bool
  | array items => (flatten items).any isNaN
  | _ => false

/-- Whether two answers are numbers of the same value, or the same error value. -/
def Agrees : Value → Value → Prop
  | number m, number n => m.eq n = true
  | error k, error l => k = l
  | _, _ => False

theorem any_isNaN_leaves (v : Value) : v.leaves.any isNaN = (v.isNaN || v.hidesNaN) := by
  cases v with
  | array items =>
    rw [leaves, hidesNaN, flatten_eq_leavesOf]
    rfl
  | _ => simp [leaves, hidesNaN]

theorem any_isNaN_flatten (values : List Value) :
    (flatten values).any isNaN = (values.any isNaN || values.any hidesNaN) := by
  rw [flatten_eq_leavesOf]
  induction values with
  | nil => rfl
  | cons v rest ih =>
    rw [leavesOf, List.any_append, any_isNaN_leaves, ih, List.any_cons, List.any_cons]
    ac_rfl

/-- Laid out flat, there are as many doubles that are no numbers as before exactly if none was
hidden. -/
theorem countP_isNaN_flatten (values : List Value) :
    values.countP isNaN ≤ (flatten values).countP isNaN ∧
      ((flatten values).countP isNaN = values.countP isNaN ↔ values.any hidesNaN = false) := by
  rw [flatten_eq_leavesOf]
  induction values with
  | nil => exact ⟨le_rfl, by simp [leavesOf]⟩
  | cons v rest ih =>
    obtain ⟨hle, hiff⟩ := ih
    rw [leavesOf, List.countP_append, List.any_cons, Bool.or_eq_false_iff, ← hiff]
    cases v with
    | array items =>
      have hnone : (leavesOf items).countP isNaN = 0 ↔ (array items).hidesNaN = false := by
        rw [hidesNaN, flatten_eq_leavesOf, List.countP_eq_zero, List.any_eq_false]
      rw [leaves, List.countP_cons_of_neg (by simp [isNaN]), ← hnone]
      omega
    | _ =>
      rw [leaves_of_ne_array (by simp [kind?]), List.countP_cons, List.countP_singleton]
      simp only [hidesNaN, true_and]
      omega

end Value

namespace Aggregate

/-- Whether all leaves of values are numbers. -/
def IsNumeric (values : List Value) : Prop := ∀ leaf ∈ flatten values, ∃ n, leaf = .number n

/-- The numbers among the leaves. -/
def leafNumbers (values : List Value) : List Number := (flatten values).filterMap number?

theorem leafNumbers_flatten (values : List Value) :
    leafNumbers (flatten values) = leafNumbers values := by
  rw [leafNumbers, flatten_flatten, leafNumbers]

theorem argumentNumbers_numeric {v : Value} (h : ∀ leaf ∈ v.leaves, ∃ n, leaf = .number n) :
    argumentNumbers v =
      if v.isNaN then refuseCoercion (.notANumber .number) else .ok (v.leaves.filterMap number?) := by
  cases v with
  | array items =>
    have hmembers : (leavesOf items).mapM memberNumber = .ok ((leavesOf items).map number?) := by
      refine mapM_eq_ok_map fun leaf hleaf => ?_
      obtain ⟨n, rfl⟩ := h leaf hleaf
      rfl
    rw [argumentNumbers, memberNumbers, flatten_eq_leavesOf, hmembers]
    simp only [ok_bind, List.filterMap_map, Function.id_comp, leaves]
    rfl
  | number n =>
    by_cases hn : n.isNaN = true
    · rw [if_pos (show (Value.number n).isNaN = true from hn)]
      simp only [argumentNumbers, toNumber, if_pos hn]
      rfl
    · rw [if_neg (show ¬ (Value.number n).isNaN = true from hn)]
      simp only [argumentNumbers, toNumber, if_neg hn]
      rfl
  | _ =>
    obtain ⟨n, hn⟩ := h _ (List.mem_singleton_self _)
    cases hn

variable {arguments : List Value}

theorem isNumeric_iff : IsNumeric arguments ↔
    ∀ a ∈ arguments, ∀ leaf ∈ a.leaves, ∃ n, leaf = .number n := by
  rw [IsNumeric, flatten_eq_leavesOf, leavesOf_eq_flatMap, List.forall_mem_flatMap]

theorem IsNumeric.flatten (h : IsNumeric arguments) : IsNumeric (flatten arguments) := by
  rwa [IsNumeric, flatten_flatten]

/-- Numbers are contributed as they are, unless an argument is no number. -/
theorem numbers_numeric (h : IsNumeric arguments) :
    numbers arguments =
      if arguments.any isNaN then refuseCoercion (.notANumber .number)
      else .ok (leafNumbers arguments) := by
  have hmap : arguments.mapM argumentNumbers =
      if arguments.any isNaN then refuseCoercion (.notANumber .number)
      else .ok (arguments.map fun v => v.leaves.filterMap number?) := by
    rw [isNumeric_iff] at h
    induction arguments with
    | nil => rfl
    | cons v rest ih =>
      obtain ⟨hv, hrest⟩ := List.forall_mem_cons.mp h
      rw [List.mapM_cons, argumentNumbers_numeric hv, ih hrest, List.any_cons]
      cases v.isNaN <;> cases rest.any isNaN <;> rfl
  rw [numbers, hmap, leafNumbers, flatten_eq_leavesOf, leavesOf_eq_flatMap, List.filterMap_flatMap]
  split_ifs <;> rfl

/-- All leaves count but the arguments that are no numbers. -/
theorem count_numeric (h : IsNumeric arguments) :
    ∃ n, count arguments = .ok n ∧ n + arguments.countP isNaN = (flatten arguments).length := by
  rw [isNumeric_iff] at h
  rw [flatten_eq_leavesOf]
  induction arguments with
  | nil => exact ⟨0, rfl, rfl⟩
  | cons v rest ih =>
    obtain ⟨hv, hrest⟩ := List.forall_mem_cons.mp h
    obtain ⟨m, hm, hlength⟩ := ih hrest
    have hargument : ∃ n, argumentCount v = .ok n ∧
        n + (if v.isNaN then 1 else 0) = v.leaves.length := by
      cases hn : v.isNaN with
      | true =>
        cases v with
        | number n => exact ⟨_, argumentCount_number n, by simp [show n.isNaN = true from hn, leaves]⟩
        | _ => cases hn
      | false =>
        have hnumbers := argumentNumbers_numeric hv
        rw [hn, if_neg Bool.false_ne_true] at hnumbers
        exact ⟨_, argumentCount_of_argumentNumbers v _ hnumbers, length_filterMap_number? hv⟩
    obtain ⟨n, hn, hleaves⟩ := hargument
    refine ⟨n + m, count_cons hn hm, ?_⟩
    rw [leavesOf, List.length_append, List.countP_cons]
    omega

theorem firstErrorOf_of_isNumeric (h : IsNumeric arguments) :
    Entry.firstErrorOf arguments [] = none := by
  rw [Entry.firstErrorOf_eq_none_iff]
  intro a ha
  cases a with
  | error kind =>
    obtain ⟨n, hn⟩ := isNumeric_iff.mp h _ ha _ (List.mem_singleton_self _)
    cases hn
  | _ => rfl

theorem mem_leafNumbers_iff (h : IsNumeric arguments) {n : Number} :
    n ∈ leafNumbers arguments ↔ .number n ∈ flatten arguments := by
  rw [leafNumbers, List.mem_filterMap]
  constructor
  · rintro ⟨leaf, hleaf, hn⟩
    obtain ⟨m, rfl⟩ := h leaf hleaf
    cases hn
    exact hleaf
  · exact fun hmem => ⟨_, hmem, rfl⟩

theorem head?_leafNumbers (h : IsNumeric arguments) :
    (leafNumbers arguments).head?.any Number.isNaN = (flatten arguments).head?.any isNaN := by
  rw [leafNumbers]
  cases hflat : flatten arguments with
  | nil => rfl
  | cons leaf rest =>
    obtain ⟨n, rfl⟩ := h leaf (hflat ▸ List.mem_cons_self)
    rfl

/-! Calls. -/

section

variable {name : String}

theorem call_yields_reduced {β : Type} [Answer β] {context : Context} {entry : Entry}
    {f : List Number → Outcome β} (hf : Catalog.standard.find? name = some entry)
    (hp : entry.propagates = true)
    (hb : entry.body context arguments [] = answer (numbers arguments >>= f))
    (hn : Entry.firstErrorOf arguments [] = none) :
    (Catalog.standard.call context name arguments []).Yields
      (Value.answer (numbers arguments >>= fun found => Answer.toValue <$> f found)) [] := by
  rw [← map_bind]
  exact Catalog.standard_call_yields_answer hf hp hb hn

/-- The numeric aggregates first gather numbers, and never refuse them afterwards as a bad value. -/
theorem exists_reduction (hname : name ∈ ["SUM", "AVERAGE", "MAX", "MIN"]) :
    ∃ reduce : List Number → Outcome Value,
      (∀ found, Value.answer (reduce found) ≠ .ok (.error .badValue)) ∧
      ∀ context arguments, Entry.firstErrorOf arguments [] = none →
        (Catalog.standard.call context name arguments []).Yields
          (Value.answer (numbers arguments >>= reduce)) [] := by
  have htotal (found : List Number) := Number.foldlM_add_overflowsOr (.int 0) found
  simp only [List.mem_cons, List.not_mem_nil, or_false] at hname
  rcases hname with rfl | rfl | rfl | rfl
  · exact ⟨_, fun found => (htotal found).answer_ne fun _ heq => (by cases heq),
      fun context arguments => call_yields_reduced (f := total) rfl rfl rfl⟩
  · refine ⟨_, fun found => ?_, fun context arguments =>
      call_yields_reduced (f := fun found => if found.isEmpty then refuse .averageOfNothing
        else total found >>= fun sum => sum.div (.int found.length)) rfl rfl rfl⟩
    split_ifs with hempty
    · exact fun heq => by cases heq
    · have hlength : found.length ≠ 0 := by simpa using hempty
      have hmean := (htotal found).bind fun sum _ => Number.div_count_overflowsOr sum hlength
      exact hmean.answer_ne fun _ heq => by cases heq
  · exact ⟨_, fun found heq => (by cases heq), fun context arguments =>
      call_yields_reduced (f := fun found => .ok (greatest found)) rfl rfl rfl⟩
  · exact ⟨_, fun found heq => (by cases heq), fun context arguments =>
      call_yields_reduced (f := fun found => .ok (least found)) rfl rfl rfl⟩

/-- The extremes are picked from the numbers, and stay with the first if that is none. -/
theorem exists_picked (hname : name ∈ ["MAX", "MIN"]) :
    ∃ extreme : List Number → Number,
      (∀ found, (extreme found).isNaN = found.head?.any Number.isNaN) ∧
      (∀ found other, found.Perm other → (∀ n ∈ found, n.isNaN = false) →
        (extreme found).eq (extreme other) = true) ∧
      ∀ context arguments, Entry.firstErrorOf arguments [] = none →
        (Catalog.standard.call context name arguments []).Yields
          (Value.answer (numbers arguments >>= fun found => .ok (.number (extreme found)))) [] := by
  have hgreatest : greatest = Number.picked Number.max := by
    funext found
    cases found <;> rfl
  have hleast : least = Number.picked Number.min := by
    funext found
    cases found <;> rfl
  simp only [List.mem_cons, List.not_mem_nil, or_false] at hname
  rcases hname with rfl | rfl
  · refine ⟨greatest, ?_, ?_, fun context arguments =>
      call_yields_reduced (f := fun found => .ok (greatest found)) rfl rfl rfl⟩
    · rw [hgreatest]
      exact Number.picks_max.isNaN_picked
    · rw [hgreatest]
      exact fun found other hp hn => Number.picks_max.picked_perm hp hn
  · refine ⟨least, ?_, ?_, fun context arguments =>
      call_yields_reduced (f := fun found => .ok (least found)) rfl rfl rfl⟩
    · rw [hleast]
      exact Number.picks_min.isNaN_picked
    · rw [hleast]
      exact fun found other hp hn => Number.picks_min.picked_perm hp hn

variable {context : Context}

/-- Numeric arguments and their leaves get the same answer unless a double that is no number is
hidden in an array and none is an argument itself. -/
theorem same_as_leaves_iff (h : IsNumeric arguments)
    (hname : name ∈ ["SUM", "AVERAGE", "MAX", "MIN"]) :
    (Catalog.standard.call context name arguments []).SameOutcome
        (Catalog.standard.call context name (flatten arguments) []) ↔
      (arguments.any hidesNaN = true → arguments.any isNaN = true) := by
  obtain ⟨reduce, hbad, hreduce⟩ := exists_reduction hname
  rw [(hreduce context _ (firstErrorOf_of_isNumeric h)).sameOutcome_iff
    (hreduce context _ (firstErrorOf_of_isNumeric h.flatten)), numbers_numeric h,
    numbers_numeric h.flatten, leafNumbers_flatten, any_isNaN_flatten]
  cases arguments.any isNaN with
  | true => simp
  | false =>
    cases arguments.any hidesNaN with
    | false => simp
    | true =>
      constructor
      · exact fun heq => absurd heq (hbad _)
      · exact fun himp => absurd (himp rfl) Bool.false_ne_true

theorem count_same_as_leaves_iff (h : IsNumeric arguments) :
    (Catalog.standard.call context "COUNT" arguments []).SameOutcome
        (Catalog.standard.call context "COUNT" (flatten arguments) []) ↔
      arguments.any hidesNaN = false := by
  obtain ⟨n, hn, hlength⟩ := count_numeric h
  obtain ⟨m, hm, hlength'⟩ := count_numeric h.flatten
  obtain ⟨-, hiff⟩ := countP_isNaN_flatten arguments
  rw [flatten_flatten] at hlength'
  have hsame : (Value.ofNat n = Value.ofNat m) ↔ n = m := by
    simp [Value.ofNat, Value.ofInt]
  have hcount := count_yields context arguments
  have hcount' := count_yields context (flatten arguments)
  rw [hn] at hcount
  rw [hm] at hcount'
  rw [hcount.sameOutcome_iff hcount', ← hiff]
  show (Except.ok (Value.ofNat n) : Outcome Value) = .ok (Value.ofNat m) ↔ _
  rw [Except.ok.injEq, hsame]
  omega

/-- Numbers in any order have extremes of the same value, or are refused in any order. -/
theorem extremes_agree {other : List Value} (h : IsNumeric arguments)
    (hp : (flatten other).Perm (flatten arguments)) (hname : name ∈ ["MAX", "MIN"])
    (ha : arguments.any hidesNaN = true → arguments.any isNaN = true)
    (ho : other.any hidesNaN = true → other.any isNaN = true) :
    ∃ a b, (Catalog.standard.call context name arguments []).Yields (.ok a) [] ∧
      (Catalog.standard.call context name other []).Yields (.ok b) [] ∧ a.Agrees b := by
  have h' : IsNumeric other := fun leaf hleaf => h leaf (hp.mem_iff.mp hleaf)
  obtain ⟨extreme, -, hperm, hyields⟩ := exists_picked hname
  have hcall := hyields context _ (firstErrorOf_of_isNumeric h)
  have hcall' := hyields context _ (firstErrorOf_of_isNumeric h')
  rw [numbers_numeric h] at hcall
  rw [numbers_numeric h'] at hcall'
  -- a double that is no number is among the arguments of both calls, or of neither
  have hany : other.any isNaN = arguments.any isNaN := by
    have hflat : (flatten other).any isNaN = (flatten arguments).any isNaN := by
      rw [Bool.eq_iff_iff, List.any_eq_true, List.any_eq_true]
      simp only [hp.mem_iff]
    rw [any_isNaN_flatten, any_isNaN_flatten] at hflat
    revert ha ho hflat
    cases arguments.any isNaN <;> cases arguments.any hidesNaN <;> cases other.any isNaN <;>
      cases other.any hidesNaN <;> simp
  rw [hany] at hcall'
  cases hn : arguments.any isNaN with
  | true =>
    rw [hn] at hcall hcall'
    exact ⟨_, _, hcall, hcall', rfl⟩
  | false =>
    rw [hn] at hcall hcall'
    refine ⟨_, _, hcall, hcall', hperm _ _ (hp.filterMap number?).symm fun n hmem => ?_⟩
    have hflat := any_isNaN_flatten arguments
    rw [hn, Bool.false_or] at hflat
    cases hhides : arguments.any hidesNaN with
    | true => exact absurd (ha hhides) (by rw [hn]; exact Bool.false_ne_true)
    | false =>
      rw [hhides, List.any_eq_false] at hflat
      exact Bool.not_eq_true _ ▸ hflat _ ((mem_leafNumbers_iff h).mp hmem)

/-- A hidden double that is no number makes the sum none, and the extremes if it is the first of all
numbers. -/
theorem answers_with_hidden (h : IsNumeric arguments) (hh : arguments.any hidesNaN = true)
    (hn : arguments.any isNaN = false) :
    ((Catalog.standard.call context "SUM" arguments []).Yields (fail .overflow) [] ∨ ∃ sum,
      (Catalog.standard.call context "SUM" arguments []).Yields (.ok (.number sum)) [] ∧
        sum.isNaN = true) ∧
    ∀ name ∈ ["MAX", "MIN"], ∃ n,
      (Catalog.standard.call context name arguments []).Yields (.ok (.number n)) [] ∧
        n.isNaN = (flatten arguments).head?.any isNaN := by
  have hnumbers := numbers_numeric h
  rw [hn, if_neg Bool.false_ne_true] at hnumbers
  constructor
  · have hsum : (Catalog.standard.call context "SUM" arguments []).Yields
        (Value.answer (numbers arguments >>= fun found => Value.number <$> total found)) [] :=
      call_yields_reduced rfl rfl rfl (firstErrorOf_of_isNumeric h)
    rw [hnumbers, ok_bind] at hsum
    rcases (Number.foldlM_add_overflowsOr (.int 0) (leafNumbers arguments)).cases with
      hover | ⟨sum, htotal, hnan⟩
    · rw [total, hover] at hsum
      exact .inl hsum
    · rw [total, htotal] at hsum
      refine .inr ⟨sum, hsum, hnan (.inr ?_)⟩
      have hflat : (flatten arguments).any isNaN = true := by
        rw [any_isNaN_flatten, hh, Bool.or_true]
      obtain ⟨leaf, hleaf, hleafnan⟩ := List.any_eq_true.mp hflat
      obtain ⟨n, rfl⟩ := h leaf hleaf
      exact ⟨n, (mem_leafNumbers_iff h).mpr hleaf, hleafnan⟩
  · intro name hname
    obtain ⟨extreme, hnan, -, hyields⟩ := exists_picked hname
    have hcall := hyields context _ (firstErrorOf_of_isNumeric h)
    rw [hnumbers] at hcall
    exact ⟨_, hcall, (hnan _).trans (head?_leafNumbers h)⟩

/-- Numeric arguments, however nested, are answered like their leaves, and numbers in any order have
extremes of the same value, unless an array hides a double that is no number and none is an argument
itself. That double is not counted like an argument: it makes the sum no number, and the extremes
only if it comes first. -/
theorem aggregates_depend_on_leaves_unless_nan_hidden (context : Context) {arguments : List Value}
    (h : IsNumeric arguments) :
    (∀ name ∈ ["SUM", "AVERAGE", "MAX", "MIN"],
      ((Catalog.standard.call context name arguments []).SameOutcome
          (Catalog.standard.call context name (flatten arguments) []) ↔
        (arguments.any hidesNaN = true → arguments.any isNaN = true))) ∧
    ((Catalog.standard.call context "COUNT" arguments []).SameOutcome
        (Catalog.standard.call context "COUNT" (flatten arguments) []) ↔
      arguments.any hidesNaN = false) ∧
    (∀ other, (flatten other).Perm (flatten arguments) →
      (arguments.any hidesNaN = true → arguments.any isNaN = true) →
      (other.any hidesNaN = true → other.any isNaN = true) → ∀ name ∈ ["MAX", "MIN"],
        ∃ a b, (Catalog.standard.call context name arguments []).Yields (.ok a) [] ∧
          (Catalog.standard.call context name other []).Yields (.ok b) [] ∧ a.Agrees b) ∧
    (arguments.any hidesNaN = true → arguments.any isNaN = false →
      ((Catalog.standard.call context "SUM" arguments []).Yields (fail .overflow) [] ∨ ∃ sum,
        (Catalog.standard.call context "SUM" arguments []).Yields (.ok (.number sum)) [] ∧
          sum.isNaN = true) ∧
      ∀ name ∈ ["MAX", "MIN"], ∃ n,
        (Catalog.standard.call context name arguments []).Yields (.ok (.number n)) [] ∧
          n.isNaN = (flatten arguments).head?.any isNaN) :=
  ⟨fun _ hname => same_as_leaves_iff h hname, count_same_as_leaves_iff h,
    fun _ hp ha ho _ hname => extremes_agree h hp hname ha ho, answers_with_hidden h⟩

/-- The leaves of two nested numbers are added up like the numbers; a hidden double that is no number
is added up, and counted, where its leaf is refused. -/
theorem aggregates_depend_on_leaves_of_two_numbers :
    let context := Environment.contextAt ⟨Catalog.standard, [], ⟨⟨2024, 1, 15⟩, .midnight⟩⟩ 1
    let nested : List Value := [.ofInt 2, .array [.array [], .array [.ofInt 3]]]
    let leaves : List Value := [.ofFloat (Float.ofBits 0x7ff8000000000000), .ofInt 1]
    (IsNumeric nested ∧ IsNumeric [.array leaves]) ∧
    (Catalog.standard.call context "SUM" nested []).SameOutcome
      (Catalog.standard.call context "SUM" [.ofInt 2, .ofInt 3] []) ∧
    ¬ (Catalog.standard.call context "SUM" [.array leaves] []).SameOutcome
      (Catalog.standard.call context "SUM" leaves []) ∧
    ¬ (Catalog.standard.call context "COUNT" [.array leaves] []).SameOutcome
      (Catalog.standard.call context "COUNT" leaves []) := by
  intro context nested leaves
  have hnested : flatten nested = [.ofInt 2, .ofInt 3] := by
    rw [flatten_eq_leavesOf]
    rfl
  have hleaves : flatten leaves = leaves := by
    rw [flatten_eq_leavesOf]
    rfl
  have harray : flatten [.array leaves] = leaves := by
    rw [flatten_eq_leavesOf]
    rfl
  have hnumeric : IsNumeric nested := by
    rw [IsNumeric, hnested]
    simp [ofInt]
  have hnumeric' : IsNumeric [.array leaves] := by
    rw [IsNumeric, harray]
    simp [leaves, ofInt, ofFloat]
  have hnone : nested.any hidesNaN = false := by
    simp [nested, hidesNaN, flatten_eq_leavesOf, leavesOf, Value.leaves, ofInt, isNaN, Number.isNaN]
  have hhides : [Value.array leaves].any hidesNaN = true := by
    have hnan : (Float.ofBits 0x7ff8000000000000).isNaN = true := by decide +kernel
    rw [List.any_cons, hidesNaN, hleaves, List.any_cons,
      show (Value.ofFloat (Float.ofBits 0x7ff8000000000000)).isNaN = true from hnan]
    rfl
  obtain ⟨hsame, -⟩ := aggregates_depend_on_leaves_unless_nan_hidden context hnumeric
  obtain ⟨hsum, hcount, -⟩ := aggregates_depend_on_leaves_unless_nan_hidden context hnumeric'
  rw [hnested] at hsame
  rw [harray] at hsum hcount
  refine ⟨⟨hnumeric, hnumeric'⟩, (hsame "SUM" (by decide)).mpr fun h => ?_, ?_, ?_⟩
  · rw [hnone] at h
    cases h
  · rw [hsum "SUM" (by decide)]
    exact fun himp => Bool.false_ne_true (himp hhides)
  · rw [hcount, hhides]
    exact Bool.noConfusion

end

end Aggregate

end SheetFormulas
