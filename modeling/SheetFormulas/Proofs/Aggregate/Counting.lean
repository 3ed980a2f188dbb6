import Mathlib.Algebra.Order.BigOperators.Group.List
import SheetFormulas.Evaluation
import SheetFormulas.Proofs.Aggregate.FirstError
import SheetFormulas.Proofs.Number.Arithmetic
import SheetFormulas.Proofs.Value.Order
import SheetFormulas.Proofs.Value.TextNumber

/-!
Counts of numbers beside their sums. Where numbers are summed up, the count says how many they are,
the mean divides by it, and whole numbers lie between the least and the greatest of them. Whatever is
counted is no empty value.
-/

namespace SheetFormulas

attribute [local irreducible] Binary64.unitsPerOne

open Value Outcome

namespace Outcome

variable {α β γ : Type}

/-- Where the results of one function settle those of another, so do the results of their maps. -/
theorem mapM_eq_ok_of {f : α → Outcome β} {g : α → Outcome γ} {k : β → γ}
    (h : ∀ a b, f a = .ok b → g a = .ok (k b)) {items : List α} {results : List β}
    (hr : items.mapM f = .ok results) : items.mapM g = .ok (results.map k) := by
  induction items generalizing results with
  | nil =>
    cases hr
    rfl
  | cons item rest ih =>
    rw [List.mapM_cons, bind_eq_ok_iff] at hr
    obtain ⟨b, hb, hr⟩ := hr
    obtain ⟨more, hmore, hr⟩ := bind_eq_ok_iff.mp hr
    cases hr
    rw [List.mapM_cons, h item b hb, ok_bind, ih hmore]
    rfl

end Outcome

namespace Number

/-- A number divided by a count overflows only if it is a whole number of at least `2¹⁰²³` times the
count, or if the count itself is as large as `2¹⁰²³`. -/
theorem div_count (a : Number) {n : Nat} (hn : n ≠ 0) :
    (∃ quotient, a.div (int n) = .ok quotient) ∨ a.div (int n) = fail .overflow ∧
      ((∃ whole, a = int whole ∧ 2 ^ 1023 * n ≤ whole.natAbs) ∨ 2 ^ 1023 ≤ n) := by
  have hne : (n : Int) ≠ 0 := Int.natCast_ne_zero.mpr hn
  cases a with
  | int whole =>
    rw [div]
    dsimp only
    rw [if_neg hne]
    split_ifs with hinf
    · refine .inr ⟨rfl, .inl ⟨whole, rfl, ?_⟩⟩
      by_contra hlt
      have hfinite := (Binary64.isFinite_ofRatio_iff ((whole < 0) != ((n : Int) < 0)) _ _).mpr
        (Binary64.nearestBits_lt whole.natAbs (n : Int).natAbs (by omega) (not_le.mp hlt))
      rw [Binary64.not_isInf_of_isFinite hfinite] at hinf
      cases hinf
    · exact .inl ⟨_, rfl⟩
  | float x =>
    cases hd : (int n).hasDouble with
    | true =>
      have hzero : (Binary64.ofInt n == 0) = false := Binary64.ofInt_beq_zero hne
      exact .inl ⟨_, quotient_of_doubles (a := float x) rfl (toFloat_int_of_hasDouble hd) hzero⟩
    | false =>
      refine .inr ⟨?_, .inr ?_⟩
      · rw [div, toFloat_of_not_hasDouble hd]
        · rfl
        · simp
      · by_contra hlt
        rw [hasDouble_int (n := n) (not_le.mp hlt)] at hd
        cases hd

end Number

namespace Aggregate

/-! Counts and sums of the same arguments. -/

theorem isNumberMember_of_memberNumber (v : Value) (o : Option Number)
    (h : memberNumber v = .ok o) : isNumberMember v = .ok o.isSome := by
  cases v with
  | error kind => cases h
  | deferred label body => cases h
  | _ =>
    cases h
    rfl

theorem count_isSome (found : List (Option Number)) :
    (found.map Option.isSome).count true = (found.filterMap id).length := by
  induction found with
  | nil => rfl
  | cons o rest ih => cases o <;> simp [ih]

/-- An argument counts for as many numbers as it adds. -/
theorem argumentCount_of_argumentNumbers (v : Value) (numbers : List Number)
    (h : argumentNumbers v = .ok numbers) : argumentCount v = .ok numbers.length := by
  have direct (hv : (fun n => [n]) <$> v.toNumber = .ok numbers) :
      (∃ n, v.toNumber = .ok n) ∧ numbers.length = 1 := by
    cases hn : v.toNumber with
    | error fault =>
      rw [hn] at hv
      cases hv
    | ok n =>
      rw [hn] at hv
      cases hv
      exact ⟨⟨n, rfl⟩, rfl⟩
  cases v with
  | array items =>
    obtain ⟨found, hfound, hnumbers⟩ := bind_eq_ok_iff.mp h
    cases hnumbers
    rw [argumentCount, mapM_eq_ok_of isNumberMember_of_memberNumber hfound, ← count_isSome]
    rfl
  | empty =>
    cases h
    rfl
  | error kind => cases h
  | _ =>
    obtain ⟨⟨n, hn⟩, hlength⟩ := direct h
    rw [hlength]
    simp only [argumentCount, hn]

/-- The count of the arguments is the number of the numbers that they contribute. -/
theorem count_eq_length {arguments : List Value} {summands : List Number}
    (h : numbers arguments = .ok summands) : count arguments = .ok summands.length := by
  obtain ⟨found, hfound, hnumbers⟩ := bind_eq_ok_iff.mp h
  cases hnumbers
  rw [count, mapM_eq_ok_of argumentCount_of_argumentNumbers hfound, List.length_flatten,
    List.sum_eq_foldl]
  rfl

/-- The mean is the sum divided by the count. -/
theorem average_eq {arguments : List Value} {summands : List Number} {sum : Number}
    (h : numbers arguments = .ok summands) (hs : total summands = .ok sum) :
    average arguments =
      if summands.isEmpty then refuse .averageOfNothing else sum.div (.int summands.length) := by
  rw [average, h, ok_bind]
  split_ifs
  · rfl
  · rw [hs, ok_bind]

theorem total_ints_from (start : Int) (ints : List Int) :
    (ints.map Number.int).foldlM Number.add (.int start) = .ok (.int (start + ints.sum)) := by
  induction ints generalizing start with
  | nil => rw [List.sum_nil, Int.add_zero]; rfl
  | cons i rest ih =>
    rw [List.map_cons, List.foldlM_cons, Number.add, ok_bind, ih, List.sum_cons, Int.add_assoc]

/-- The sum of whole numbers is exact. -/
theorem total_ints (ints : List Int) : total (ints.map .int) = .ok (.int ints.sum) := by
  rw [total, total_ints_from, Int.zero_add]

/-- Whole numbers sum up to something between the least and the greatest of them, taken as often as
there are numbers. -/
theorem extremes_bound_total {summands : List Number} (hne : summands ≠ [])
    (hints : ∀ n ∈ summands, ∃ i, n = .int i) :
    ∃ low sum high : Int, least summands = .int low ∧ total summands = .ok (.int sum) ∧
      greatest summands = .int high ∧
      low * summands.length ≤ sum ∧ sum ≤ high * summands.length := by
  obtain ⟨ints, rfl⟩ : ∃ ints : List Int, summands = ints.map .int := by
    have hrange : summands ∈ Set.range (List.map Number.int) := by
      rw [Set.range_list_map]
      intro n hn
      obtain ⟨i, rfl⟩ := hints n hn
      exact ⟨i, rfl⟩
    obtain ⟨ints, rfl⟩ := hrange
    exact ⟨ints, rfl⟩
  cases ints with
  | nil => exact absurd rfl hne
  | cons first rest =>
    obtain ⟨low, hleast, hlow⟩ := Number.picks_min.foldl_ints first rest
    obtain ⟨high, hgreatest, hhigh⟩ := Number.picks_max.foldl_ints first rest
    refine ⟨low, _, high, hleast, total_ints _, hgreatest, ?_, ?_⟩
    · rw [List.length_map, mul_comm, ← nsmul_eq_mul]
      exact List.card_nsmul_le_sum _ _ fun j hj => Number.exactKey_int_le_iff.mp (hlow j hj)
    · rw [List.length_map, mul_comm, ← nsmul_eq_mul]
      exact List.sum_le_card_nsmul _ _ fun j hj => Number.exactKey_int_le_iff.mp (hhigh j hj)

/-! Counts of arguments of any kind. -/

/-- Whether a value is a text with too many percent signs to be converted. -/
def IsOverdrawnText : Value → Prop
  | .text t => IsOverdrawn true t
  | _ => False

theorem isNumberMember_eq {v : Value} (h : v.kind? ≠ none) :
    isNumberMember v = .ok (v.kind? == some .number) := by
  cases v <;> first | rfl | exact absurd rfl h

theorem argumentCount_number (n : Number) :
    argumentCount (.number n) = .ok (if n.isNaN then 0 else 1) := by
  simp only [argumentCount, toNumber]
  split_ifs <;> rfl

theorem argumentCount_of_overdrawn {v : Value} (h : IsOverdrawnText v) :
    argumentCount v = fail .overflow := by
  cases v with
  | text t =>
    have hconverted := (converts_toNumber t).overflow h
    simp only [argumentCount, hconverted]
    rfl
  | _ => exact absurd h id

/-- An argument counts for no more than its leaves that are not empty. -/
theorem argumentCount_le {v : Value} (hv : ∀ leaf ∈ v.leaves, leaf.kind? ≠ none)
    (ho : ¬ IsOverdrawnText v) :
    ∃ n ≤ v.leaves.countP (!·.isEmpty), argumentCount v = .ok n := by
  cases v with
  | array items =>
    rw [leaves] at hv ⊢
    refine ⟨(leavesOf items).countP fun leaf => leaf.kind? == some .number,
      List.countP_mono_left fun leaf _ hkind => ?_, ?_⟩
    · cases leaf <;> simp_all [kind?, isEmpty]
    · rw [argumentCount, flatten_eq_leavesOf,
        mapM_eq_ok_map fun leaf hleaf => isNumberMember_eq (hv leaf hleaf)]
      simp [List.count_eq_countP, List.countP_map, Function.comp_def]
  | empty => exact ⟨0, Nat.zero_le _, rfl⟩
  | error kind => exact ⟨0, Nat.zero_le _, rfl⟩
  | bool b => exact ⟨1, le_rfl, rfl⟩
  | number n =>
    refine ⟨_, ?_, argumentCount_number n⟩
    split_ifs
    · exact Nat.zero_le _
    · exact le_rfl
  | text t =>
    rcases (converts_toNumber t).number_or_refused ho with ⟨n, hn⟩ | hrefused
    · refine ⟨1, le_rfl, ?_⟩
      simp only [argumentCount, hn]
    · refine ⟨0, Nat.zero_le _, ?_⟩
      simp only [argumentCount, hrefused]
      rfl
  | deferred label body => exact absurd rfl (hv _ (List.mem_singleton_self _))

theorem count_cons {v : Value} {rest : List Value} {n m : Nat} (hn : argumentCount v = .ok n)
    (hm : count rest = .ok m) : count (v :: rest) = .ok (n + m) := by
  obtain ⟨counts, hcounts, hsum⟩ := bind_eq_ok_iff.mp hm
  cases hsum
  rw [count, List.mapM_cons, hn, ok_bind, hcounts, ← List.sum_eq_foldl, ← List.sum_cons,
    List.sum_eq_foldl]
  rfl

theorem count_le_countFilled {arguments : List Value}
    (hv : ∀ a ∈ arguments, ∀ leaf ∈ a.leaves, leaf.kind? ≠ none)
    (ho : ∀ a ∈ arguments, ¬ IsOverdrawnText a) :
    ∃ n ≤ countFilled arguments, count arguments = .ok n := by
  rw [countFilled, flatten_eq_leavesOf]
  induction arguments with
  | nil => exact ⟨0, le_rfl, rfl⟩
  | cons v rest ih =>
    obtain ⟨hvv, hvrest⟩ := List.forall_mem_cons.mp hv
    obtain ⟨hov, horest⟩ := List.forall_mem_cons.mp ho
    obtain ⟨n, hle, hn⟩ := argumentCount_le hvv hov
    obtain ⟨m, hlerest, hm⟩ := ih hvrest horest
    rw [leavesOf, List.countP_append]
    exact ⟨n + m, Nat.add_le_add hle hlerest, count_cons hn hm⟩

theorem count_overflows {arguments : List Value}
    (hv : ∀ a ∈ arguments, ∀ leaf ∈ a.leaves, leaf.kind? ≠ none)
    (ho : ∃ a ∈ arguments, IsOverdrawnText a) : count arguments = fail .overflow := by
  have hfault : (arguments.mapM argumentCount).fault? = some (.failure .overflow) := by
    rw [fault?_mapM]
    cases hfirst : arguments.findSome? fun v => (argumentCount v).fault? with
    | none =>
      obtain ⟨a, ha, hoa⟩ := ho
      have hnone := List.findSome?_eq_none_iff.mp hfirst a ha
      rw [argumentCount_of_overdrawn hoa] at hnone
      cases hnone
    | some fault =>
      -- the first argument that fails is overdrawn too
      obtain ⟨a, ha, hfails⟩ := List.exists_of_findSome?_eq_some hfirst
      by_cases hoa : IsOverdrawnText a
      · rw [argumentCount_of_overdrawn hoa] at hfails
        exact hfails.symm
      · obtain ⟨n, -, hn⟩ := argumentCount_le (hv a ha) hoa
        rw [hn] at hfails
        cases hfails
  rw [count, eq_error_of_fault? hfault]
  rfl

section

variable {context : Context} {arguments : List Value} {summands : List Number} {sum : Number}

theorem count_yields (context : Context) (arguments : List Value) :
    (Catalog.standard.call context "COUNT" arguments []).Yields
      (Value.answer (Value.ofNat <$> count arguments)) [] :=
  Catalog.standard_call_yields_of_seeing rfl rfl (Run.Yields.ofOutcome _)

theorem countFilled_yields (context : Context) (arguments : List Value) :
    (Catalog.standard.call context "COUNTA" arguments []).Yields
      (.ok (.ofNat (countFilled arguments))) [] := by
  have hcall : (Catalog.standard.call context "COUNTA" arguments []).Yields
      (Value.answer (.ok (.ofNat (countFilled arguments)))) [] :=
    Catalog.standard_call_yields_of_seeing rfl rfl (Run.Yields.pure _)
  exact hcall

/-- What a sum that is a number has added up. -/
theorem summands_of_sum {labels : List String}
    (h : (Catalog.standard.call context "SUM" arguments []).Yields (.ok (.number sum)) labels) :
    Entry.firstErrorOf arguments [] = none ∧
      ∃ summands, numbers arguments = .ok summands ∧ total summands = .ok sum := by
  have hcall : (Catalog.standard.call context "SUM" arguments []).Yields
      (Entry.guarded arguments (Value.number <$> Aggregate.sum arguments)) [] :=
    Catalog.standard_call_yields_guarded rfl rfl rfl
  have hguarded := (hcall.unique h).1
  cases herror : Entry.firstErrorOf arguments [] with
  | some kind =>
    rw [Entry.guarded_of_error herror] at hguarded
    cases hguarded
  | none =>
    rw [Entry.guarded_of_no_error herror] at hguarded
    have hsum : Aggregate.sum arguments = .ok sum := by
      rcases hresult : Aggregate.sum arguments with (cause | cause) | n
      · rw [hresult] at hguarded
        cases hguarded
      · rw [hresult] at hguarded
        cases hguarded
      · rw [hresult] at hguarded
        cases hguarded
        rfl
    exact ⟨rfl, bind_eq_ok_iff.mp hsum⟩

end

/-- What aggregates answer for arguments that contribute some numbers with this sum. -/
structure Tallied (context : Context) (arguments : List Value) (summands : List Number)
    (sum : Number) : Prop where
  numbers : numbers arguments = .ok summands
  total : total summands = .ok sum
  count : (Catalog.standard.call context "COUNT" arguments []).Yields
    (.ok (.ofNat summands.length)) []
  mean_of_none : summands = [] →
    (Catalog.standard.call context "AVERAGE" arguments []).Yields (.ok (.error .divisionByZero)) []
  mean : summands ≠ [] → (Catalog.standard.call context "AVERAGE" arguments []).Yields
    (Value.ofFloat <$> sum.div (.int summands.length)) []
  /-- The mean is a number, unless the quotient is that of a whole number beyond all doubles. -/
  quotient : summands ≠ [] → (∃ quotient, sum.div (.int summands.length) = .ok quotient) ∨
    sum.div (.int summands.length) = fail .overflow ∧
      ((∃ whole, sum = .int whole ∧ 2 ^ 1023 * summands.length ≤ whole.natAbs) ∨
        2 ^ 1023 ≤ summands.length)
  bounds : summands ≠ [] → (∀ n ∈ summands, ∃ i, n = .int i) → ∃ low whole high : Int,
    sum = .int whole ∧
    (Catalog.standard.call context "MIN" arguments []).Yields (.ok (.ofInt low)) [] ∧
    (Catalog.standard.call context "MAX" arguments []).Yields (.ok (.ofInt high)) [] ∧
    low * summands.length ≤ whole ∧ whole ≤ high * summands.length

theorem tallied_of_sum {context : Context} {arguments : List Value} {sum : Number}
    {labels : List String}
    (h : (Catalog.standard.call context "SUM" arguments []).Yields (.ok (.number sum)) labels) :
    ∃ summands, Tallied context arguments summands sum := by
  obtain ⟨hnone, summands, hnumbers, htotal⟩ := summands_of_sum h
  have hlength (hne : summands ≠ []) : summands.length ≠ 0 := fun hz =>
    hne (List.length_eq_zero_iff.mp hz)
  have hmean := average_eq hnumbers htotal
  have hanswer : (Catalog.standard.call context "AVERAGE" arguments []).Yields
      (Value.answer (Value.ofFloat <$> average arguments)) [] :=
    Catalog.standard_call_yields_answer rfl rfl rfl hnone
  refine ⟨summands, hnumbers, htotal, ?_, fun hempty => ?_, fun hne => ?_,
    fun hne => Number.div_count sum (hlength hne), fun hne hints => ?_⟩
  · have hcount := count_yields context arguments
    rw [count_eq_length hnumbers] at hcount
    exact hcount
  · subst hempty
    rw [hmean] at hanswer
    exact hanswer
  · rw [hmean, if_neg (by simpa using hne)] at hanswer
    rcases Number.div_count sum (hlength hne) with ⟨quotient, hq⟩ | ⟨hover, -⟩
    · rw [hq] at hanswer ⊢
      exact hanswer
    · rw [hover] at hanswer ⊢
      exact hanswer
  · obtain ⟨low, whole, high, hleast, hwhole, hgreatest, hlow, hhigh⟩ :=
      extremes_bound_total hne hints
    rw [htotal] at hwhole
    cases hwhole
    have hmin : Aggregate.min arguments = .ok (.int low) := by
      rw [Aggregate.min, hnumbers, ok_bind, hleast]
      rfl
    have hmax : Aggregate.max arguments = .ok (.int high) := by
      rw [Aggregate.max, hnumbers, ok_bind, hgreatest]
      rfl
    exact ⟨low, whole, high, rfl, Catalog.standard_call_yields_ok rfl rfl rfl hnone hmin,
      Catalog.standard_call_yields_ok rfl rfl rfl hnone hmax, hlow, hhigh⟩

/-- Wherever the sum is a number, the count says how many numbers were summed up, the mean is the
quotient of the two, and whole numbers lie between the least and the greatest of them. The count of
any values is at most that of the values that are not empty, unless a text among the arguments has
too many percent signs: then it overflows. -/
theorem count_is_of_summands_unless_overdrawn (context : Context) (arguments : List Value) :
    (∀ sum, (Catalog.standard.call context "SUM" arguments []).Yields (.ok (.number sum)) [] →
      ∃ summands, Tallied context arguments summands sum) ∧
    ((∀ leaf ∈ flatten arguments, leaf.kind? ≠ none) →
      (Catalog.standard.call context "COUNTA" arguments []).Yields
        (.ok (.ofNat (countFilled arguments))) [] ∧
      ((∀ a ∈ arguments, ¬ IsOverdrawnText a) → ∃ n ≤ countFilled arguments,
        (Catalog.standard.call context "COUNT" arguments []).Yields (.ok (.ofNat n)) []) ∧
      ((∃ a ∈ arguments, IsOverdrawnText a) →
        (Catalog.standard.call context "COUNT" arguments []).Yields (fail .overflow) [])) := by
  refine ⟨fun sum h => tallied_of_sum h, fun hv => ⟨countFilled_yields context arguments, ?_⟩⟩
  have hleaves : ∀ a ∈ arguments, ∀ leaf ∈ a.leaves, leaf.kind? ≠ none := by
    intro a ha leaf hleaf
    rw [flatten_eq_leavesOf, leavesOf_eq_flatMap] at hv
    exact hv leaf (List.mem_flatMap.mpr ⟨a, ha, hleaf⟩)
  have hcount := count_yields context arguments
  constructor
  · intro ho
    obtain ⟨n, hle, hn⟩ := count_le_countFilled hleaves ho
    rw [hn] at hcount
    exact ⟨n, hle, hcount⟩
  · intro ho
    rw [count_overflows hleaves ho] at hcount
    exact hcount

/-- The truth value and the text add one and four to the two numbers in the arrays; a text with 155
percent signs cannot even be counted. -/
theorem count_is_of_four_summands :
    let context := Environment.contextAt ⟨Catalog.standard, [], ⟨⟨2024, 1, 15⟩, .midnight⟩⟩ 1
    let arguments : List Value := [.bool true, .text "4",
      .array [.ofInt 10, .text "4", .bool true, .array [.empty, .ofInt (-3)]], .empty]
    let overdrawn : Value := .text (String.ofList (['5'] ++ List.replicate 155 '%'))
    ((Catalog.standard.call context "SUM" arguments []).Yields (.ok (.ofInt 12)) [] ∧
      ∃ summands, Tallied context arguments summands (.int 12)) ∧
    IsOverdrawnText overdrawn ∧
      (Catalog.standard.call context "COUNT" [overdrawn] []).Yields (fail .overflow) [] := by
  intro context arguments overdrawn
  have htext : argumentNumbers (.text "4") = .ok [.int 4] := rfl
  have harray : argumentNumbers (.array [.ofInt 10, .text "4", .bool true,
      .array [.empty, .ofInt (-3)]]) = .ok [.int 10, .int (-3)] := by
    rw [argumentNumbers, flatten_eq_leavesOf]
    rfl
  have hnumbers : numbers arguments = .ok [.int 1, .int 4, .int 10, .int (-3)] := by
    rw [numbers, List.mapM_cons, List.mapM_cons, List.mapM_cons, htext, harray]
    rfl
  have hsum : Aggregate.sum arguments = .ok (.int 12) := by
    rw [Aggregate.sum, hnumbers]
    rfl
  have hcall : (Catalog.standard.call context "SUM" arguments []).Yields (.ok (.ofInt 12)) [] :=
    Catalog.standard_call_yields_ok rfl rfl rfl rfl hsum
  have hoverdrawn : IsOverdrawnText overdrawn :=
    isOverdrawn_digits true (by decide) (Numeral.isDigits_iff_all.mp (by decide)) (by decide)
  have hvalue : ∀ leaf ∈ flatten [overdrawn], leaf.kind? ≠ none := by
    rw [flatten_eq_leavesOf]
    simp [leavesOf, leaves, overdrawn, kind?]
  obtain ⟨hsummed, -⟩ := count_is_of_summands_unless_overdrawn context arguments
  obtain ⟨-, hcounted⟩ := count_is_of_summands_unless_overdrawn context [overdrawn]
  exact ⟨⟨hcall, hsummed _ hcall⟩, hoverdrawn,
    (hcounted hvalue).2.2 ⟨_, List.mem_singleton_self _, hoverdrawn⟩⟩

end Aggregate

end SheetFormulas
