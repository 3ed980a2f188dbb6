import SheetFormulas.Proofs.Lookup.NearestAgreement
import SheetFormulas.Proofs.Lookup.Places

/-!
What the search of sorted data answers. Without blanks, the halving ends between the values before
the target and the others, so its answer is the first of the equal values, or else the neighbour of
that place on the side that the mode asks for.
-/

namespace SheetFormulas.Lookup

open Value

variable {descending : Bool} {values : List Value} {target v : Value} {boundary i : Nat}
  {mode : MatchMode}

/-- The values that stand to a target in a given order. -/
def Stands (target : Value) (side : Ordering) (v : Value) : Prop :=
  v.compare target = .ok (.order side)

/-- The place that a search of sorted data is to report: the first of the values equal to the target,
and if there is none, the place next to that of the target on the side that the mode asks for. -/
def IsSortedAnswer (target : Value) (mode : MatchMode) (descending : Bool) (values : List Value)
    (i : Nat) : Prop :=
  IsFirst (Stands target .eq) values i ∨ (∀ v ∈ values, ¬ Stands target .eq v) ∧
    match mode, descending with
    | .nextSmaller, false => IsLast (Stands target .lt) values i
    | .nextLarger, false => IsFirst (Stands target .gt) values i
    | .nextSmaller, true => IsFirst (Stands target .lt) values i
    | .nextLarger, true => IsLast (Stands target .gt) values i
    | _, _ => False

theorem isNeighbour_iff_isLast {wanted : Ordering}
    (h : wanted = if descending then .gt else .lt) :
    IsNeighbour target wanted descending values i ↔ IsLast (Stands target wanted) values i := by
  constructor
  · rintro ⟨hside, hnearest⟩
    refine ⟨hside, fun j v hv hc => ?_⟩
    have := hnearest j v hv hc
    rwa [if_pos h] at this
  · rintro ⟨hside, hlast⟩
    refine ⟨hside, fun j v hv hc => ?_⟩
    rw [if_pos h]
    exact hlast j v hv hc

theorem isNeighbour_iff_isFirst {wanted : Ordering}
    (h : ¬ wanted = if descending then .gt else .lt) :
    IsNeighbour target wanted descending values i ↔ IsFirst (Stands target wanted) values i := by
  constructor
  · rintro ⟨hside, hnearest⟩
    refine ⟨hside, fun j v hv hc => ?_⟩
    have := hnearest j v hv hc
    rwa [if_neg h] at this
  · rintro ⟨hside, hfirst⟩
    refine ⟨hside, fun j v hv hc => ?_⟩
    rw [if_neg h]
    exact hfirst j v hv hc

theorem isSortedAnswer_of_equal (hv : v ∈ values) (he : Stands target .eq v) :
    IsSortedAnswer target mode descending values i ↔ IsFirst (Stands target .eq) values i :=
  or_iff_left fun h => h.1 v hv he

/-- Without an equal value, a nearest match is to report the neighbour of the target's place. -/
theorem isSortedAnswer_of_no_equal (hne : ∀ v ∈ values, ¬ Stands target .eq v)
    (hm : mode = .nextSmaller ∨ mode = .nextLarger) :
    IsSortedAnswer target mode descending values i ↔
      IsNeighbour target mode.wanted descending values i := by
  unfold IsSortedAnswer
  rw [or_iff_right (not_isFirst_of_forall hne), and_iff_right hne]
  rcases hm with rfl | rfl <;> cases descending
  · exact (isNeighbour_iff_isLast (by rfl)).symm
  · exact (isNeighbour_iff_isFirst (by decide)).symm
  · exact (isNeighbour_iff_isFirst (by decide)).symm
  · exact (isNeighbour_iff_isLast (by rfl)).symm

theorem not_isSortedAnswer_exact (hne : ∀ v ∈ values, ¬ Stands target .eq v) :
    ¬ IsSortedAnswer target .exact descending values i := by
  rintro (hfirst | ⟨-, ⟨⟩⟩)
  exact not_isFirst_of_forall hne hfirst

section

variable (hv : ∀ v ∈ values, v.isOrdered = true) (hs : IsSorted descending values)
  (ht : target.isOrdered = true) (hc : AllComparable target values)

include hv ht hc in
theorem stands_eq_iff_hits (hvm : v ∈ values) : Stands target .eq v ↔ hits target v = true := by
  rw [Stands, compare_eq (hv v hvm) ht, hc v hvm, if_neg (by decide), hits,
    isPresent_of_isOrdered (hv v hvm), Except.ok.injEq, Compared.order.injEq, Bool.true_and,
    beq_iff_eq]

include hv ht hc in
theorem not_stands_eq (hf : values.findIdx? (hits target) = none) :
    ∀ v ∈ values, ¬ Stands target .eq v := by
  intro v hvm he
  have hmiss := List.findIdx?_eq_none_iff.mp hf v hvm
  rw [(stands_eq_iff_hits hv ht hc hvm).mp he] at hmiss
  cases hmiss

include hv hs ht hc in
/-- Without a hit, a nearest match reports the neighbour of the target's place. -/
theorem binaryPosition_of_not_hits (hf : values.findIdx? (hits target) = none)
    (hm : mode = .nextSmaller ∨ mode = .nextLarger) :
    ∃ found, binaryPosition values target mode descending = .ok found ∧
      ∀ i, found = some i ↔ IsNeighbour target mode.wanted descending values i := by
  have h := sortedLine_of_isOrdered hv hs
  obtain ⟨boundary, hl⟩ := exists_boundary h ht hc
  have hne (v : Value) (hvm : v ∈ values) : orderIn descending v target ≠ .eq :=
    orderIn_ne_eq_of_not_hits hv hf hvm
  refine ⟨_, binaryPosition_of_miss hl (isHitAt_of_not_hits h ht hc hf boundary), fun i => ?_⟩
  have hwanted := turned_turned descending mode.wanted
  rw [beside_eq_nextTo hm, ← hwanted]
  have hside : turned descending mode.wanted = .lt ∨ turned descending mode.wanted = .gt := by
    rcases hm with rfl | rfl <;> cases descending <;> decide
  rcases hside with hside | hside
  · rw [hside, turned_turned, isNeighbour_before_iff hv hs ht hc hl hne]
  · rw [hside, turned_turned, isNeighbour_after_iff hv hs ht hc hl hne]

include hv hs ht hc in
/-- Where every value can be compared with the target, the search gives the answer of sorted data. -/
theorem binaryPosition_of_allComparable (hm : mode ≠ .wildcard) :
    ∃ found, binaryPosition values target mode descending = .ok found ∧
      ∀ i, found = some i ↔ IsSortedAnswer target mode descending values i := by
  have h := sortedLine_of_isOrdered hv hs
  cases hf : values.findIdx? (hits target) with
  | some first =>
    obtain ⟨hi, hhit, -⟩ := List.findIdx?_eq_some_iff_getElem.mp hf
    have hfm := List.getElem_mem hi
    refine ⟨_, binaryPosition_of_hits hv hs ht hc hf, fun i => ?_⟩
    rw [isSortedAnswer_of_equal hfm ((stands_eq_iff_hits hv ht hc hfm).mpr hhit),
      isFirst_congr fun v hvm => stands_eq_iff_hits hv ht hc hvm, isFirst_iff_findIdx?, hf]
  | none =>
    have hne := not_stands_eq hv ht hc hf
    have nearest (hnear : mode = .nextSmaller ∨ mode = .nextLarger) :
        ∃ found, binaryPosition values target mode descending = .ok found ∧
          ∀ i, found = some i ↔ IsSortedAnswer target mode descending values i := by
      obtain ⟨found, hfound, hiff⟩ := binaryPosition_of_not_hits hv hs ht hc hf hnear
      exact ⟨found, hfound, fun i => (hiff i).trans (isSortedAnswer_of_no_equal hne hnear).symm⟩
    cases mode with
    | nextSmaller => exact nearest (.inl rfl)
    | nextLarger => exact nearest (.inr rfl)
    | wildcard => exact absurd rfl hm
    | exact =>
      obtain ⟨boundary, hl⟩ := exists_boundary h ht hc
      refine ⟨_, binaryPosition_of_miss hl (isHitAt_of_not_hits h ht hc hf boundary), fun i => ?_⟩
      exact iff_of_false (by rintro ⟨⟩) (not_isSortedAnswer_exact hne)

end

/-- The search of sorted data without blanks, in every mode but the wildcard: it overflows if some
value is compared with the target of which one is too large for a double, and otherwise it reports
the first value equal to the target, or else the neighbour on the side that the mode asks for. -/
theorem sorted_search_answers_unless_overflow (hv : ∀ v ∈ values, v.isOrdered = true)
    (hs : IsSorted descending values) (ht : target.isOrdered = true) :
    ((∃ v ∈ values, v.compare target = fail .overflow) ∧ ∀ mode, mode ≠ .wildcard →
        findPosition values target mode (binaryMode descending) = fail .overflow) ∨
      ((∀ v ∈ values, ∃ side, Stands target side v) ∧ ∀ mode, mode ≠ .wildcard →
        ∃ found, findPosition values target mode (binaryMode descending) = .ok found ∧
          ∀ i, found = some i ↔ IsSortedAnswer target mode descending values i) := by
  by_cases hc : AllComparable target values
  · refine .inr ⟨fun v hvm => ⟨v.order target, ?_⟩, fun mode hm => ?_⟩
    · rw [Stands, compare_eq (hv v hvm) ht, hc v hvm]
      rfl
    · rw [findPosition_binary descending hm]
      exact binaryPosition_of_allComparable hv hs ht hc hm
  · obtain ⟨v, hvm, hov⟩ := exists_overflows hc
    refine .inl ⟨⟨v, hvm, ?_⟩, fun mode hm => ?_⟩
    · rw [compare_eq (hv v hvm) ht, hov]
      rfl
    · rw [findPosition_binary descending hm,
        binaryPosition_of_error (halving_eq_overflow hv hs ht hvm hov)]
      rfl

/-- Between the two equal values and the third one, no comparison overflows. -/
theorem sorted_search_answers_between_one_and_three :
    (∀ v ∈ [ofInt 1, ofInt 1, ofInt 3], v.isOrdered = true) ∧
      IsSorted false [ofInt 1, ofInt 1, ofInt 3] ∧ (ofInt 2).isOrdered = true ∧
      ∀ mode, mode ≠ .wildcard → ∃ found,
        findPosition [ofInt 1, ofInt 1, ofInt 3] (ofInt 2) mode .binaryAscending = .ok found ∧
          ∀ i, found = some i ↔
            IsSortedAnswer (ofInt 2) mode false [ofInt 1, ofInt 1, ofInt 3] i := by
  have hcompare (m n : Int) (hm : m.natAbs < 4) (hn : n.natAbs < 4) :
      (ofInt m).compare (ofInt n) = .ok (.order (Ord.compare m n)) :=
    compare_ofInt (Number.lt_two_pow (by omega) (by decide)) (Number.lt_two_pow (by omega) (by decide))
  have hv : ∀ v ∈ [ofInt 1, ofInt 1, ofInt 3], v.isOrdered = true := by
    simp [isOrdered, ofInt, Number.isNaN]
  have hs : IsSorted false [ofInt 1, ofInt 1, ofInt 3] := by
    have h13 : Ord.compare (1 : Int) 3 = .lt := by decide
    simp [IsSorted, lessOrEqual, hcompare, Compared.is, h13]
  refine ⟨hv, hs, rfl, ?_⟩
  rcases @sorted_search_answers_unless_overflow false _ (ofInt 2) hv hs rfl with ⟨⟨v, hvm, hov⟩, -⟩ | h
  · simp only [List.mem_cons, List.not_mem_nil, or_false] at hvm
    rcases hvm with rfl | rfl | rfl <;>
      · rw [hcompare _ _ (by decide) (by decide)] at hov
        cases hov
  · exact h.2

end SheetFormulas.Lookup
