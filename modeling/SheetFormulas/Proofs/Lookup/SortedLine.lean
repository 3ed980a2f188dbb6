import SheetFormulas.Proofs.Lookup.Boundary
import SheetFormulas.Proofs.Value.Order

/-!
Lines that are sorted but for their blanks, and where the halving ends on them. A target that some
value of the line cannot be compared with is one that no value of its type can be compared with.
-/

namespace SheetFormulas.Lookup

open Value

/-- Values each of which compares as not after the ones behind it. -/
def IsSorted (descending : Bool) (values : List Value) : Prop :=
  values.Pairwise fun a b =>
    (if descending then a.greaterOrEqual b else a.lessOrEqual b) = .ok true

/-- A line whose values have a place in the order and are sorted, with blanks anywhere. -/
structure SortedLine (descending : Bool) (values : List Value) : Prop where
  isOrdered : ∀ v ∈ values, v.isEmpty = false → v.isOrdered = true
  sorted : IsSorted descending (values.filter fun v => !v.isEmpty)

variable {descending : Bool} {values : List Value} {target u v w : Value} {boundary i j : Nat}

theorem isEmpty_of_isOrdered (h : v.isOrdered = true) : v.isEmpty = false := by
  cases v <;> first | rfl | cases h

theorem eq_empty_of_isEmpty (h : v.isEmpty = true) : v = .empty := by
  cases v <;> first | rfl | cases h

theorem isEmpty_of_overflows (h : v.overflows target = true) : v.isEmpty = false := by
  cases v <;> first | rfl | cases h

theorem isPresent_of_isOrdered (h : v.isOrdered = true) : isPresent v = true := by
  cases v <;> first | rfl | cases h

theorem sortedLine_of_isOrdered (h : ∀ v ∈ values, v.isOrdered = true)
    (hs : IsSorted descending values) : SortedLine descending values where
  isOrdered v hv _ := h v hv
  sorted := by
    rwa [List.filter_eq_self.mpr]
    intro v hv
    rw [isEmpty_of_isOrdered (h v hv)]
    rfl

theorem inOrder_iff (hv : v.isOrdered = true) (hw : w.isOrdered = true) :
    (if descending then v.greaterOrEqual w else v.lessOrEqual w) = .ok true ↔
      v.overflows w = false ∧ (orderIn descending v w).isLE = true := by
  cases descending with
  | false =>
    rw [if_neg (by decide), lessOrEqual_eq hv hw]
    cases v.overflows w <;> simp [orderIn, fail]
  | true =>
    rw [if_pos rfl, greaterOrEqual, lessOrEqual_eq hw hv, overflows_comm v w]
    cases w.overflows v <;> simp [orderIn, fail]

/-- Two values of a sorted line, blanks apart, can be compared and are in order. -/
theorem SortedLine.inOrder (h : SortedLine descending values) (hij : i < j)
    (hv : values[i]? = some v) (hw : values[j]? = some w) (hve : v.isEmpty = false)
    (hwe : w.isEmpty = false) :
    v.overflows w = false ∧ (orderIn descending v w).isLE = true := by
  have hvo := h.isOrdered v (List.mem_of_getElem? hv) hve
  have hwo := h.isOrdered w (List.mem_of_getElem? hw) hwe
  obtain ⟨hi, rfl⟩ := List.getElem?_eq_some_iff.mp hv
  obtain ⟨hj, rfl⟩ := List.getElem?_eq_some_iff.mp hw
  have hp := List.pairwise_iff_getElem.mp (List.pairwise_filter.mp h.sorted) i j hi hj hij
  exact (inOrder_iff hvo hwo).mp (hp (by rw [hve]; rfl) (by rw [hwe]; rfl))

theorem isBefore_of_order {o : Ordering} (hv : v.isEmpty = false)
    (hc : v.compare target = .ok (.order o)) :
    isBefore target descending v = .ok (o == if descending then .gt else .lt) := by
  cases v
  case empty => cases hv
  all_goals simp only [isBefore, hc, Outcome.ok_bind, Outcome.pure_eq]

theorem isBefore_of_error {e : Fault} (hv : v.isEmpty = false)
    (hc : v.compare target = .error e) : isBefore target descending v = .error e := by
  cases v
  case empty => cases hv
  all_goals simp only [isBefore, hc, Outcome.error_bind]

theorem isBefore_eq (hv : v.isOrdered = true) (ht : target.isOrdered = true) :
    isBefore target descending v =
      if v.overflows target then fail .overflow
      else .ok (orderIn descending v target == .lt) := by
  have hcompare := compare_eq hv ht
  have hve := isEmpty_of_isOrdered hv
  cases hov : v.overflows target with
  | true =>
    rw [hov, if_pos rfl] at hcompare
    rw [isBefore_of_error hve hcompare, if_pos rfl]
    rfl
  | false =>
    rw [hov, if_neg Bool.false_ne_true] at hcompare
    rw [isBefore_of_order hve hcompare, if_neg Bool.false_ne_true]
    cases descending with
    | false => rfl
    | true =>
      have hs : target.order v = (v.order target).swap := Std.OrientedCmp.eq_swap
      simp only [orderIn, if_true, hs]
      cases v.order target <;> rfl

theorem orderIn_eq_iff : orderIn descending v w = .eq ↔ v.order w = .eq := by
  cases descending with
  | false => rfl
  | true => exact Std.OrientedCmp.eq_comm

theorem isHit_eq (descending : Bool) (hv : v.isOrdered = true) (ht : target.isOrdered = true) :
    isHit false target v =
      if v.overflows target then fail .overflow
      else .ok (orderIn descending v target == .eq) := by
  have he : (orderIn descending v target == .eq) = (v.order target == .eq) := by
    rw [Bool.eq_iff_iff, beq_iff_eq, beq_iff_eq]
    exact orderIn_eq_iff
  rw [isHit, isPresent_of_isOrdered hv, he, ← equal_eq hv ht]
  rfl

/-- Where two types differ, any value of the one stands to the other as they do. -/
theorem orderIn_of_rank_ne (h : u.rank ≠ target.rank) (hv : v.rank = target.rank) :
    orderIn descending u v = orderIn descending u target := by
  cases descending with
  | false =>
    show u.order v = u.order target
    rw [order_of_rank_ne h, order_of_rank_ne (by rwa [hv]), hv]
  | true =>
    show v.order u = target.order u
    rw [order_of_rank_ne h.symm, order_of_rank_ne (by rw [hv]; exact h.symm), hv]

theorem orderIn_ne_eq_of_rank_ne (h : v.rank ≠ target.rank) :
    orderIn descending v target ≠ .eq := fun he => h (rank_eq_of_orderIn_eq he)

/-- If one value of a sorted line overflows with the target, so does every value of its type. -/
theorem SortedLine.overflows_of_rank_eq (h : SortedLine descending values)
    (hv : values[i]? = some v) (hov : v.overflows target = true) (hw : values[j]? = some w)
    (hwe : w.isEmpty = false) (hr : w.rank = target.rank) : w.overflows target = true := by
  have hve := isEmpty_of_overflows hov
  have hwo := h.isOrdered w (List.mem_of_getElem? hw) hwe
  rcases lt_trichotomy i j with hij | rfl | hij
  · exact overflows_of_not_overflows hov hwo hr (h.inOrder hij hv hw hve hwe).1
  · rw [hv] at hw
    cases hw
    exact hov
  · have hc := (h.inOrder hij hw hv hwe hve).1
    rw [overflows_comm] at hc
    exact overflows_of_not_overflows hov hwo hr hc

section Boundary

variable (h : SortedLine descending values) (ht : target.isOrdered = true)
  (hl : halving target descending values = .ok boundary)

include h ht hl

/-- A blank is never at the boundary: the halving steps over it. The value that is there can be
compared with the target and is not before it. -/
theorem at_boundary (hv : values[boundary]? = some v) :
    v.isEmpty = false ∧ v.overflows target = false ∧ orderIn descending v target ≠ .lt := by
  obtain ⟨-, -, hafter⟩ := boundary_sides hl
  have htest := hafter (List.getElem?_eq_some_iff.mp hv).1
  rw [isBeforeAt_of_getElem? hv] at htest
  cases hve : v.isEmpty with
  | true =>
    rw [eq_empty_of_isEmpty hve] at htest
    cases htest
  | false =>
    rw [isBefore_eq (h.isOrdered v (List.mem_of_getElem? hv) hve) ht] at htest
    cases hov : v.overflows target with
    | true =>
      rw [hov] at htest
      cases htest
    | false =>
      rw [hov, if_neg (by decide)] at htest
      exact ⟨rfl, rfl, by simpa using Except.ok.inj htest⟩

/-- No value from the boundary on comes before the target. -/
theorem not_before_of_boundary_le (hle : boundary ≤ i) (hv : values[i]? = some v)
    (hve : v.isEmpty = false) : orderIn descending v target ≠ .lt := by
  have hn : boundary < values.length :=
    lt_of_le_of_lt hle (List.getElem?_eq_some_iff.mp hv).1
  obtain ⟨hue, -, hu⟩ := at_boundary h ht hl (List.getElem?_eq_getElem hn)
  rcases Nat.eq_or_lt_of_le hle with rfl | hlt
  · rw [List.getElem?_eq_getElem hn] at hv
    cases hv
    exact hu
  · intro hvt
    have huv := (h.inOrder hlt (List.getElem?_eq_getElem hn) hv hue hve).2
    exact hu (Std.TransCmp.lt_of_isLE_of_lt huv hvt)

/-- The value before the boundary, unless it is blank, can be compared with the target and comes
before it. -/
theorem before_boundary_of_not_empty (hpos : 0 < boundary) (hv : values[boundary - 1]? = some v)
    (hve : v.isEmpty = false) : v.overflows target = false ∧ orderIn descending v target = .lt := by
  obtain ⟨-, hbefore, -⟩ := boundary_sides hl
  have htest := hbefore hpos
  rw [isBeforeAt_of_getElem? hv, isBefore_eq (h.isOrdered v (List.mem_of_getElem? hv) hve) ht]
    at htest
  cases hov : v.overflows target with
  | true =>
    rw [hov] at htest
    cases htest
  | false =>
    rw [hov, if_neg (by decide)] at htest
    exact ⟨rfl, by simpa using Except.ok.inj htest⟩

/-- A value before the boundary that does not come before the target, or cannot be compared with it,
has been stepped over at a blank. -/
theorem empty_before_boundary (hlt : i < boundary) (hv : values[i]? = some v)
    (hve : v.isEmpty = false)
    (hvt : v.overflows target = true ∨ orderIn descending v target ≠ .lt) :
    values[boundary - 1]? = some .empty := by
  have hle := (boundary_sides hl).1
  have hu := List.getElem?_eq_getElem (show boundary - 1 < values.length by omega)
  cases hue : (values[boundary - 1]).isEmpty with
  | true => rw [hu, eq_empty_of_isEmpty hue]
  | false =>
    exfalso
    obtain ⟨hov, hut⟩ := before_boundary_of_not_empty h ht hl (by omega) hu hue
    rcases Nat.eq_or_lt_of_le (show i ≤ boundary - 1 by omega) with rfl | hi
    · rw [hu] at hv
      cases hv
      rcases hvt with hvt | hvt
      · rw [hov] at hvt
        cases hvt
      · exact hvt hut
    · have hvu := (h.inOrder hi hv hu hve hue).2
      rcases hvt with hvt | hvt
      · have hr : (values[boundary - 1]).rank ≠ target.rank := by
          intro hr
          rw [h.overflows_of_rank_eq hv hvt hu hue hr] at hov
          cases hov
        rw [← orderIn_of_rank_ne hr (rank_eq_of_overflows hvt)] at hut
        exact Std.OrientedCmp.not_isLE_of_lt hut hvu
      · exact hvt (Std.TransCmp.lt_of_isLE_of_lt hvu hut)

/-- Every value that cannot be compared with the target is before the boundary. -/
theorem lt_boundary_of_overflows (hv : values[i]? = some v) (hov : v.overflows target = true) :
    i < boundary := by
  by_contra hle
  have hve := isEmpty_of_overflows hov
  have hi := (List.getElem?_eq_some_iff.mp hv).1
  have hu := List.getElem?_eq_getElem (show boundary < values.length by omega)
  obtain ⟨hue, huo, hut⟩ := at_boundary h ht hl hu
  have hr : (values[boundary]).rank ≠ target.rank := by
    intro hr
    rw [h.overflows_of_rank_eq hv hov hu hue hr] at huo
    cases huo
  rcases Nat.eq_or_lt_of_le (Nat.not_lt.mp hle) with rfl | hlt
  · rw [hu] at hv
    cases hv
    rw [hov] at huo
    cases huo
  · have huv := (h.inOrder hlt hu hv hue hve).2
    rw [orderIn_of_rank_ne hr (rank_eq_of_overflows hov)] at huv
    rcases Ordering.isLE_iff_eq_lt_or_eq_eq.mp huv with hlt | heq
    · exact hut hlt
    · exact orderIn_ne_eq_of_rank_ne hr heq

end Boundary

end SheetFormulas.Lookup
