import SheetFormulas.Proofs.Lookup.IndexOfMatch
import SheetFormulas.Proofs.Lookup.SortedSearch
import SheetFormulas.Proofs.Value.Consistency

/-!
What the scan of sorted data answers, whatever stands between the values of the target's type. The
scan keeps the last place whose value fits, and it may stop at the first value of the target's type
that does not, for no later one does.
-/

namespace SheetFormulas.Lookup

open Value Run

variable {descending : Bool} {values rest : List Value} {target v w : Value}
  {best : Option Nat} {start : Nat}

/-- Whether a value is of the type of the target. -/
def isOfType (target v : Value) : Bool := v.kind? == target.kind?

/-- A value of the type of the target that is not behind it in the order of the data. -/
structure Fits (descending : Bool) (target v : Value) : Prop where
  isOfType : isOfType target v = true
  notBehind : (if descending then v.greaterOrEqual target else v.lessOrEqual target) = .ok true

/-- Whether a value can be written out. -/
def isWritable : Value → Bool
  | .number (.int n) => n.natAbs < tenTo Number.digitLimit
  | _ => true

/-- The answer of the match function to what a search has found. -/
def matchAnswer (target : Value) : Option Nat → Outcome Value
  | some position => .ok (.ofNat (position + 1))
  | none => if isWritable target then .ok (.error .notAvailable) else fail .invalid

theorem isComparable_of_kind (hv : v.kind? ≠ none) (ht : target.isOrdered = true) :
    isComparable target v = .ok (isOfType target v) := by
  cases v <;> cases target
  all_goals first
    | rfl
    | exact absurd rfl hv
    | cases ht

theorem isOrdered_of_isOfType (hn : v.isNaN = false) (ht : target.isOrdered = true)
    (h : isOfType target v = true) : v.isOrdered = true ∧ v.rank = target.rank := by
  cases v <;> cases target <;> simp_all [isOfType, kind?, isOrdered, isNaN, rank]

/-- A value is not behind the target if it compares as equal to it or as before it. -/
theorem isLE_orderIn_iff (descending : Bool) (v w : Value) :
    (orderIn descending v w).isLE = true ↔
      v.order w = .eq ∨ v.order w = if descending then .gt else .lt := by
  cases descending with
  | false =>
    show (v.order w).isLE = true ↔ _
    cases v.order w <;> simp
  | true =>
    have hs : w.order v = (v.order w).swap := Std.OrientedCmp.eq_swap
    show (w.order v).isLE = true ↔ _
    rw [hs]
    cases v.order w <;> simp

section Step

variable (descending best start rest)

theorem scanFrom_of_foreign (h : isComparable target v = .ok false) :
    scanFrom target descending best start (v :: rest) =
      scanFrom target descending best (start + 1) rest := by
  rw [scanFrom, h]
  rfl

theorem scanFrom_of_error {e : Fault} (h : isComparable target v = .ok true)
    (hc : v.compare target = .error e) :
    scanFrom target descending best start (v :: rest) = .error e := by
  rw [scanFrom, h, Outcome.ok_bind, if_pos rfl, hc]
  rfl

/-- A value of the target's type becomes the best one, or ends the scan. -/
theorem scanFrom_of_order (h : isComparable target v = .ok true)
    (hc : v.compare target = .ok (.order (v.order target))) :
    scanFrom target descending best start (v :: rest) =
      if (orderIn descending v target).isLE then scanFrom target descending (some start) (start + 1) rest
      else .ok best := by
  rw [scanFrom, h, Outcome.ok_bind, if_pos rfl, hc, Outcome.ok_bind]
  simp only [isLE_orderIn_iff]
  rfl

end Step

theorem fits_iff (hn : v.isNaN = false) (ht : target.isOrdered = true)
    (h : isOfType target v = true) :
    Fits descending target v ↔
      v.overflows target = false ∧ (orderIn descending v target).isLE = true := by
  rw [← inOrder_iff (isOrdered_of_isOfType hn ht h).1 ht]
  exact ⟨fun hf => hf.notBehind, fun hb => ⟨h, hb⟩⟩

/-- The values of the target's type, which are sorted. -/
theorem sortedLine_filter (hn : ∀ v ∈ values, v.isNaN = false) (ht : target.isOrdered = true)
    (hs : IsSorted descending (values.filter (isOfType target))) :
    SortedLine descending (values.filter (isOfType target)) := by
  refine sortedLine_of_isOrdered (fun v hv => ?_) hs
  obtain ⟨hvm, hvt⟩ := List.mem_filter.mp hv
  exact (isOrdered_of_isOfType (hn v hvm) ht hvt).1

/-- Behind a value that does not fit, none of the values in order after it fits. -/
theorem not_fits_of_after (hn : ∀ w ∈ v :: rest, w.isNaN = false) (ht : target.isOrdered = true)
    (hs : IsSorted descending ((v :: rest).filter (isOfType target)))
    (hv : isOfType target v = true) (hb : ¬ (orderIn descending v target).isLE = true) :
    ∀ w ∈ v :: rest, ¬ Fits descending target w := by
  have hvo := (isOrdered_of_isOfType (hn v List.mem_cons_self) ht hv).1
  intro w hw hf
  obtain ⟨hwo, hwr⟩ := isOrdered_of_isOfType (hn w hw) ht hf.isOfType
  have hwt := ((fits_iff (hn w hw) ht hf.isOfType).mp hf).2
  rcases List.mem_cons.mp hw with rfl | hw
  · exact hb hwt
  · rw [List.filter_cons_of_pos hv] at hs
    have hvw := (List.pairwise_cons.mp hs).1 w (List.mem_filter.mpr ⟨hw, hf.isOfType⟩)
    exact hb (Std.TransCmp.isLE_trans ((inOrder_iff hvo hwo).mp hvw).2 hwt)

theorem isSorted_tail (hs : IsSorted descending ((v :: rest).filter (isOfType target))) :
    IsSorted descending (rest.filter (isOfType target)) :=
  hs.sublist ((List.sublist_cons_self v rest).filter _)

/-- A scan over values that can be compared with the target ends with the last place that fits, or
keeps the best one it has. -/
theorem scanFrom_of_comparable (hk : ∀ v ∈ values, v.kind? ≠ none)
    (hn : ∀ v ∈ values, v.isNaN = false) (ht : target.isOrdered = true)
    (hs : IsSorted descending (values.filter (isOfType target)))
    (hc : ∀ v ∈ values, isOfType target v = true → v.overflows target = false) :
    ∃ found, scanFrom target descending best start values = .ok found ∧
      ((∃ i, found = some (start + i) ∧ IsLast (Fits descending target) values i) ∨
        found = best ∧ ∀ v ∈ values, ¬ Fits descending target v) := by
  induction values generalizing best start with
  | nil => exact ⟨best, rfl, .inr ⟨rfl, by simp⟩⟩
  | cons v rest ih =>
    have hvm : v ∈ v :: rest := List.mem_cons_self
    have hcomparable := isComparable_of_kind (hk v hvm) ht
    have ihRest {best : Option Nat} := @ih best (start + 1) (fun w hw => hk w (List.mem_cons_of_mem _ hw))
      (fun w hw => hn w (List.mem_cons_of_mem _ hw)) (isSorted_tail hs)
      (fun w hw => hc w (List.mem_cons_of_mem _ hw))
    cases htype : isOfType target v with
    | false =>
      rw [htype] at hcomparable
      rw [scanFrom_of_foreign descending rest best start hcomparable]
      obtain ⟨found, hfound, ⟨i, hi, hlast⟩ | ⟨hbest, hnone⟩⟩ := @ihRest best
      · exact ⟨found, hfound, .inl ⟨i + 1, by rw [hi]; congr 1; omega, hlast.cons v⟩⟩
      · refine ⟨found, hfound, .inr ⟨hbest, List.forall_mem_cons.mpr ⟨fun hf => ?_, hnone⟩⟩⟩
        rw [hf.isOfType] at htype
        cases htype
    | true =>
      have hvo := (isOrdered_of_isOfType (hn v hvm) ht htype).1
      have hcompare : v.compare target = .ok (.order (v.order target)) := by
        rw [compare_eq hvo ht, hc v hvm htype]
        rfl
      rw [htype] at hcomparable
      rw [scanFrom_of_order descending rest best start hcomparable hcompare]
      by_cases hb : (orderIn descending v target).isLE = true
      · rw [if_pos hb]
        obtain ⟨found, hfound, ⟨i, hi, hlast⟩ | ⟨hbest, hnone⟩⟩ := @ihRest (some start)
        · exact ⟨found, hfound, .inl ⟨i + 1, by rw [hi]; congr 1; omega, hlast.cons v⟩⟩
        · have hfits := (fits_iff (hn v hvm) ht htype).mpr ⟨hc v hvm htype, hb⟩
          exact ⟨found, hfound, .inl ⟨0, hbest, isLast_head hfits hnone⟩⟩
      · rw [if_neg hb]
        exact ⟨best, rfl, .inr ⟨rfl, not_fits_of_after hn ht hs htype hb⟩⟩

/-- A scan overflows at the first value of the target's type, if all of that type do. -/
theorem scanFrom_of_overflows (hk : ∀ v ∈ values, v.kind? ≠ none)
    (hn : ∀ v ∈ values, v.isNaN = false) (ht : target.isOrdered = true)
    (ho : ∀ v ∈ values, isOfType target v = true → v.overflows target = true)
    (hv : v ∈ values) (htype : isOfType target v = true) :
    scanFrom target descending best start values = fail .overflow := by
  induction values generalizing start with
  | nil => cases hv
  | cons u rest ih =>
    have hum : u ∈ u :: rest := List.mem_cons_self
    have hcomparable := isComparable_of_kind (hk u hum) ht
    cases hut : isOfType target u with
    | false =>
      rw [hut] at hcomparable
      rw [scanFrom_of_foreign descending rest best start hcomparable]
      have hne : v ≠ u := by
        rintro rfl
        rw [htype] at hut
        cases hut
      exact ih (fun w hw => hk w (List.mem_cons_of_mem _ hw))
        (fun w hw => hn w (List.mem_cons_of_mem _ hw))
        (fun w hw => ho w (List.mem_cons_of_mem _ hw)) (List.mem_of_ne_of_mem hne hv)
    | true =>
      rw [hut] at hcomparable
      refine scanFrom_of_error descending rest best start hcomparable ?_
      rw [compare_eq (isOrdered_of_isOfType (hn u hum) ht hut).1 ht, ho u hum hut]
      rfl

/-- If one value of the target's type cannot be compared with it, none of them can. -/
theorem overflows_of_isOfType (hn : ∀ v ∈ values, v.isNaN = false) (ht : target.isOrdered = true)
    (hs : IsSorted descending (values.filter (isOfType target))) (hv : v ∈ values)
    (hvt : isOfType target v = true) (hov : v.overflows target = true) :
    ∀ w ∈ values, isOfType target w = true → w.overflows target = true := by
  intro w hw hwt
  have h := sortedLine_filter hn ht hs
  obtain ⟨i, hi⟩ := List.mem_iff_getElem?.mp (List.mem_filter.mpr ⟨hv, hvt⟩)
  obtain ⟨j, hj⟩ := List.mem_iff_getElem?.mp (List.mem_filter.mpr ⟨hw, hwt⟩)
  obtain ⟨hwo, hwr⟩ := isOrdered_of_isOfType (hn w hw) ht hwt
  exact h.overflows_of_rank_eq hi hov hj (isEmpty_of_isOrdered hwo) hwr

section Match

/-- A value that was not found is named in the refusal, if it can be written out. -/
theorem answer_positionFound (ht : target.isOrdered = true) (found : Option Nat) :
    Value.answer (ofNat <$> positionFound target found) = matchAnswer target found := by
  cases found with
  | some position => rfl
  | none =>
    cases target with
    | number n =>
      cases n with
      | int n =>
        simp only [positionFound, refuseNotFound, shown, Number.shown, Number.intText, matchAnswer,
          isWritable, decide_eq_true_eq]
        split <;> rfl
      | float x => rfl
    | text s => rfl
    | bool b => cases b <;> rfl
    | _ => cases ht

theorem isZero_eq_false_of_sign {n : Number}
    (h : (if descending then n.lt (.int 0) else (Number.int 0).lt n) = true) :
    n.isZero = false ∧ n.lt (.int 0) = descending := by
  cases descending with
  | false =>
    have hle := Number.le_eq_false_of_lt h
    rw [Number.le, Bool.or_eq_false_iff] at hle
    exact ⟨hle.2, hle.1⟩
  | true =>
    rw [if_pos rfl] at h
    refine ⟨?_, h⟩
    rw [Number.lt, beq_iff_eq] at h
    rw [Number.isZero, Number.eq, h]
    rfl

/-- With a match type other than zero, the match function answers with the place that the scan in
the direction of its sign finds. -/
theorem match_sorted_yields (context : Context) {line type : Value} {n : Number}
    {found : Option Nat} (ht : target.isOrdered = true) (hline : line.error? = none)
    (hl : lineOf line = .ok values) (htype : type.toNumber = .ok n)
    (hsign : (if descending then n.lt (.int 0) else (Number.int 0).lt n) = true)
    (hf : scanSorted values target descending = .ok found) :
    (Catalog.standard.call context "MATCH" [target, line, type] []).Yields
      (matchAnswer target found) [] := by
  obtain ⟨hzero, hlt⟩ := isZero_eq_false_of_sign hsign
  have hnoError : target.error? = none := by
    cases target <;> first | rfl | cases ht
  have htypeError : type.error? = none := by
    cases type <;> first | rfl | cases htype
  have hposition : matchPosition target line type = positionFound target found := by
    unfold matchPosition
    rw [single_of_isOrdered ht, Outcome.ok_bind, hl, Outcome.ok_bind, htype, Outcome.ok_bind, hzero,
      if_neg (by decide), hlt, hf]
    rfl
  have hy := @match_yields context target line type (by simp [hline, htypeError])
  rw [Entry.guarded_of_no_error (by simp [hnoError, Entry.firstErrorOf]),
    hposition, answer_positionFound ht] at hy
  exact hy

end Match

/-- The scan of sorted data finds the last value of the target's type that is not behind the target,
whatever else stands in the line, and the match function answers with its place. Only where a number
is compared with the target of which one is too large for a double, the scan overflows. -/
theorem sorted_scan_answers_unless_overflow (hk : ∀ v ∈ values, v.kind? ≠ none)
    (hn : ∀ v ∈ values, v.isNaN = false) (ht : target.isOrdered = true)
    (hs : IsSorted descending (values.filter (isOfType target))) :
    ((∃ v ∈ values, isOfType target v = true ∧ v.compare target = fail .overflow) ∧
        scanSorted values target descending = fail .overflow) ∨
      ((∀ v ∈ values, isOfType target v = true → ∃ side, Stands target side v) ∧
        ∃ found, scanSorted values target descending = .ok found ∧
          (∀ i, found = some i ↔ IsLast (Fits descending target) values i) ∧
          ∀ context line type n, lineOf line = .ok values → line.error? = none →
            type.toNumber = .ok n →
            (if descending then n.lt (.int 0) else (Number.int 0).lt n) = true →
            (Catalog.standard.call context "MATCH" [target, line, type] []).Yields
              (matchAnswer target found) []) := by
  by_cases hc : ∀ v ∈ values, isOfType target v = true → v.overflows target = false
  · refine .inr ⟨fun v hvm hvt => ⟨v.order target, ?_⟩, ?_⟩
    · rw [Stands, compare_eq (isOrdered_of_isOfType (hn v hvm) ht hvt).1 ht, hc v hvm hvt]
      rfl
    · obtain ⟨found, hfound, hplace⟩ := @scanFrom_of_comparable descending values target none 0 hk hn ht hs hc
      refine ⟨found, hfound, fun i => ?_, fun context line type n hl hline htype hsign =>
        match_sorted_yields context ht hline hl htype hsign hfound⟩
      rcases hplace with ⟨last, rfl, hlast⟩ | ⟨rfl, hnone⟩
      · rw [Nat.zero_add, Option.some.injEq]
        exact ⟨fun h => h ▸ hlast, fun h => hlast.unique h⟩
      · exact iff_of_false (by rintro ⟨⟩) (not_isLast_of_forall hnone)
  · push Not at hc
    obtain ⟨v, hvm, hvt, hov⟩ := hc
    rw [ne_eq, Bool.not_eq_false] at hov
    refine .inl ⟨⟨v, hvm, hvt, ?_⟩, ?_⟩
    · rw [compare_eq (isOrdered_of_isOfType (hn v hvm) ht hvt).1 ht, hov]
      rfl
    · exact scanFrom_of_overflows hk hn ht (overflows_of_isOfType hn ht hs hvm hvt hov) hvm hvt

/-- A scan that steps over a text, a blank and an error value, and stops at the third number. -/
theorem sorted_scan_answers_among_others :
    let values := [ofInt 1, .text "2", .empty, ofInt 3, .error .notAvailable, ofInt 5]
    (∀ v ∈ values, v.kind? ≠ none) ∧ (∀ v ∈ values, v.isNaN = false) ∧
      (ofInt 4).isOrdered = true ∧ IsSorted false (values.filter (isOfType (ofInt 4))) ∧
      ∃ found, scanSorted values (ofInt 4) false = .ok found ∧
        ∀ i, found = some i ↔ IsLast (Fits false (ofInt 4)) values i := by
  intro values
  have hcompare (m n : Int) (hm : m.natAbs < 6) (hn : n.natAbs < 6) :
      (ofInt m).compare (ofInt n) = .ok (.order (Ord.compare m n)) :=
    compare_ofInt (Number.lt_two_pow (by omega) (by decide)) (Number.lt_two_pow (by omega) (by decide))
  have hk : ∀ v ∈ values, v.kind? ≠ none := by simp [values, ofInt, kind?]
  have hn : ∀ v ∈ values, v.isNaN = false := by simp [values, ofInt, isNaN, Number.isNaN]
  have hs : IsSorted false (values.filter (isOfType (ofInt 4))) := by
    have h13 : Ord.compare (1 : Int) 3 = .lt := by decide
    have h15 : Ord.compare (1 : Int) 5 = .lt := by decide
    have h35 : Ord.compare (3 : Int) 5 = .lt := by decide
    have hf : values.filter (isOfType (ofInt 4)) = [ofInt 1, ofInt 3, ofInt 5] := rfl
    simp [hf, IsSorted, lessOrEqual, hcompare, Compared.is, h13, h15, h35]
  refine ⟨hk, hn, rfl, hs, ?_⟩
  rcases sorted_scan_answers_unless_overflow hk hn rfl hs with ⟨⟨v, hvm, hvt, hov⟩, -⟩ | ⟨-, h⟩
  · have hmem : v ∈ values.filter (isOfType (ofInt 4)) := List.mem_filter.mpr ⟨hvm, hvt⟩
    have hf : values.filter (isOfType (ofInt 4)) = [ofInt 1, ofInt 3, ofInt 5] := rfl
    simp only [hf, List.mem_cons, List.not_mem_nil, or_false] at hmem
    rcases hmem with rfl | rfl | rfl <;>
      · rw [hcompare _ _ (by decide) (by decide)] at hov
        cases hov
  · obtain ⟨found, hfound, hiff, -⟩ := h
    exact ⟨found, hfound, hiff⟩

end SheetFormulas.Lookup
