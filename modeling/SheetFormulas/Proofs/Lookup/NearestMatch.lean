import SheetFormulas.Proofs.Lookup.ExactSearch
import SheetFormulas.Proofs.Lookup.Match

/-!
Nearest matches in sorted data without blanks. The halving reports the value next to the boundary,
whatever its type; the search of all values reports the first of the nearest values that have the
type of the target.
-/

namespace SheetFormulas.Lookup

open Value

variable {descending : Bool} {values : List Value} {target u v w : Value} {boundary i : Nat}
  {side : Ordering}

/-- A side of the target in the line as one in the order of values, or the other way round. -/
def turned (descending : Bool) (side : Ordering) : Ordering :=
  if descending then side.swap else side

theorem turned_turned (descending : Bool) (side : Ordering) :
    turned descending (turned descending side) = side := by
  cases descending <;> cases side <;> rfl

theorem order_eq_turned_iff (descending : Bool) (side : Ordering) (v w : Value) :
    v.order w = turned descending side ↔ orderIn descending v w = side := by
  cases descending with
  | false => rfl
  | true =>
    have hs : v.order w = (w.order v).swap := Std.OrientedCmp.eq_swap
    rw [hs]
    exact Ordering.swap_inj

/-- Whether a value is of the type of the target and can be compared with it. -/
structure Rival (target v : Value) : Prop where
  isOrdered : v.isOrdered = true
  rank : v.rank = target.rank
  comparable : v.overflows target = false

theorem isComparable_eq (hv : v.isOrdered = true) (ht : target.isOrdered = true) :
    isComparable target v = .ok (v.rank == target.rank) := by
  have hk := kind?_eq_iff hv ht
  unfold isComparable
  rw [isPresent_of_isOrdered hv]
  cases v <;> cases target <;> simp_all [isOrdered, kind, kind?, rank]

theorem isComparable_iff (hv : v.isOrdered = true) (ht : target.isOrdered = true) :
    isComparable target v = .ok true ↔ v.rank = target.rank := by
  rw [isComparable_eq hv ht, Except.ok.injEq, beq_iff_eq]

/-- A value replaces the best one if it is of the type of the target, on the side that is wanted, and
nearer to the target than the best one. -/
theorem improves_eq {best : Option (Nat × Value)} (hv : v.isOrdered = true)
    (ht : target.isOrdered = true) (hc : v.overflows target = false)
    (hbest : ∀ p ∈ best, Rival target p.2) :
    improves target (turned descending side) best v =
      .ok (v.rank == target.rank && orderIn descending v target == side &&
        best.all fun p => orderIn descending v p.2 == side.swap) := by
  have his (o : Ordering) (a b : Value) : (Compared.order (a.order b)).is (turned descending o) =
      (orderIn descending a b == o) := by
    rw [Bool.eq_iff_iff, Compared.is, beq_iff_eq, beq_iff_eq, Compared.order.injEq]
    exact order_eq_turned_iff descending o a b
  have hswap : (turned descending side).swap = turned descending side.swap := by
    cases descending <;> rfl
  unfold improves
  rw [isComparable_eq hv ht, Outcome.ok_bind]
  cases v.rank == target.rank with
  | false => rfl
  | true =>
    rw [compare_eq hv ht, hc]
    simp only [Bool.not_true, Bool.false_eq_true, if_false, Outcome.ok_bind, Bool.true_and, his]
    cases orderIn descending v target == side with
    | false => rfl
    | true =>
      cases best with
      | none => rfl
      | some p =>
        obtain ⟨k, u⟩ := p
        obtain ⟨huo, hur, huc⟩ := hbest (k, u) rfl
        have hvu := overflows_eq_false huo ht hur hc huc
        simp only [Bool.not_true, Bool.false_eq_true, if_false, compare_eq hv huo, hvu, hswap,
          Outcome.ok_bind, his, Outcome.pure_eq, Bool.true_and, Option.all_some]

/-- The values equal to a given one have a first among them. -/
theorem exists_first_equal (descending : Bool) (hi : values[i]? = some u) :
    ∃ first v, first ≤ i ∧ values[first]? = some v ∧ orderIn descending v u = .eq ∧
      ∀ j < first, ∀ w, values[j]? = some w → orderIn descending w u ≠ .eq := by
  obtain ⟨hlt, rfl⟩ := List.getElem?_eq_some_iff.mp hi
  have hself : (orderIn descending values[i] values[i] == .eq) = true :=
    beq_iff_eq.mpr Std.ReflCmp.compare_self
  cases hf : values.findIdx? fun w => orderIn descending w values[i] == .eq with
  | none =>
    have hnone := List.findIdx?_eq_none_iff.mp hf _ (List.getElem_mem hlt)
    rw [hself] at hnone
    cases hnone
  | some first =>
    obtain ⟨hfl, hfeq, hfmin⟩ := List.findIdx?_eq_some_iff_getElem.mp hf
    refine ⟨first, values[first], ?_, List.getElem?_eq_getElem hfl, beq_iff_eq.mp hfeq,
      fun j hj w hw heq => ?_⟩
    · by_contra hgt
      exact hfmin i (by omega) hself
    · obtain ⟨_, rfl⟩ := List.getElem?_eq_some_iff.mp hw
      exact hfmin j hj (beq_iff_eq.mpr heq)

/-- The place next to the boundary on one side. -/
def nextTo (side : Ordering) (boundary length : Nat) : Option Nat :=
  if side = .lt then if 0 < boundary then some (boundary - 1) else none
  else if boundary < length then some boundary else none

section

variable (hv : ∀ v ∈ values, v.isOrdered = true) (hs : IsSorted descending values)
  (ht : target.isOrdered = true) (hc : AllComparable target values)

include hv ht in
/-- The search of all values only reports one of the type of the target. -/
theorem rank_eq_of_nearestPosition {wanted : Ordering} {backward : Bool}
    (hn : nearestPosition values target wanted backward = .ok (some i)) (hi : values[i]? = some v) :
    v.rank = target.rank := by
  obtain ⟨w, hw, hcomp⟩ := nearestPosition_eq_some hn
  rw [hi] at hw
  cases hw
  exact (isComparable_iff (hv v (List.mem_of_getElem? hi)) ht).mp hcomp

include hv ht hc in
theorem nearestPosition_of_none_on_side
    (hside : ∀ v ∈ values, orderIn descending v target ≠ side) :
    nearestPosition values target (turned descending side) false = .ok none := by
  refine nearestFrom_of_not_improves 0 fun v hvm => ?_
  rw [improves_eq (hv v hvm) ht (hc v hvm) (by simp), beq_eq_false_iff_ne.mpr (hside v hvm)]
  simp

include hv ht hc in
theorem exists_nearestPosition :
    ∃ found, nearestPosition values target (turned descending side) false = .ok found := by
  refine @exists_nearestFrom target _ (fun best => ∀ p ∈ best, Rival target p.2) none values 0 (by simp) ?_
  intro v hvm best hbest
  refine ⟨_, improves_eq (hv v hvm) ht (hc v hvm) hbest, fun himp k p hp => ?_⟩
  cases hp
  simp only [Bool.and_eq_true, beq_iff_eq] at himp
  exact ⟨hv v hvm, himp.1.1, hc v hvm⟩

variable (hl : halving target descending values = .ok boundary)
  (hne : ∀ v ∈ values, orderIn descending v target ≠ .eq)

include hv hs ht hl in
theorem orderIn_eq_lt_of_lt_boundary (hlt : i < boundary) (hi : values[i]? = some v) :
    v.overflows target = false ∧ orderIn descending v target = .lt := by
  have h := sortedLine_of_isOrdered hv hs
  have hvm := List.mem_of_getElem? hi
  by_contra hcon
  have hvt : v.overflows target = true ∨ orderIn descending v target ≠ .lt := by
    rcases Bool.eq_false_or_eq_true (v.overflows target) with ho | ho
    · exact .inl ho
    · exact .inr fun heq => hcon ⟨ho, heq⟩
  have hempty := empty_before_boundary h ht hl hlt hi (isEmpty_of_isOrdered (hv v hvm)) hvt
  have := hv _ (List.mem_of_getElem? hempty)
  cases this

include hv hs ht hl hne in
theorem orderIn_eq_gt_of_boundary_le (hle : boundary ≤ i) (hi : values[i]? = some v) :
    orderIn descending v target = .gt := by
  have h := sortedLine_of_isOrdered hv hs
  have hvm := List.mem_of_getElem? hi
  have hlt := not_before_of_boundary_le h ht hl hle hi (isEmpty_of_isOrdered (hv v hvm))
  cases ho : orderIn descending v target with
  | lt => exact absurd ho hlt
  | eq => exact absurd ho (hne v hvm)
  | gt => rfl

include hv hs ht hl hne in
theorem orderIn_eq_iff_side (hi : values[i]? = some v) :
    (orderIn descending v target = .lt ↔ i < boundary) ∧
      (orderIn descending v target = .gt ↔ boundary ≤ i) := by
  rcases Nat.lt_or_ge i boundary with hlt | hge
  · rw [(orderIn_eq_lt_of_lt_boundary hv hs ht hl hlt hi).2]
    exact ⟨iff_of_true rfl hlt, iff_of_false (by decide) (Nat.not_le.mpr hlt)⟩
  · rw [orderIn_eq_gt_of_boundary_le hv hs ht hl hne hge hi]
    exact ⟨iff_of_false (by decide) (Nat.not_lt.mpr hge), iff_of_true rfl hge⟩

include hv hs ht hc hl hne in
/-- Behind the target, the first value is the nearest one. -/
theorem nearestPosition_after (hi : values[boundary]? = some v) (hr : v.rank = target.rank) :
    nearestPosition values target (turned descending .gt) false = .ok (some boundary) := by
  have h := sortedLine_of_isOrdered hv hs
  have hvm := List.mem_of_getElem? hi
  have hgt := orderIn_eq_gt_of_boundary_le hv hs ht hl hne (le_refl _) hi
  have hn := @nearestFrom_of_best target (turned descending .gt) (· = none) none values boundary v 0
    hi rfl ?_ ?_ ?_
  · rwa [Nat.zero_add] at hn
  · rintro j hj w hw best rfl
    have hwm := List.mem_of_getElem? hw
    refine ⟨false, ?_, fun himp => by cases himp⟩
    rw [improves_eq (hv w hwm) ht (hc w hwm) (by simp),
      (orderIn_eq_lt_of_lt_boundary hv hs ht hl hj hw).2]
    simp
  · rintro best rfl
    rw [improves_eq (hv v hvm) ht (hc v hvm) (by simp), hgt, hr]
    simp
  · intro j hj w hw k
    have hwm := List.mem_of_getElem? hw
    have hvw := (h.inOrder hj hi hw (isEmpty_of_isOrdered (hv v hvm))
      (isEmpty_of_isOrdered (hv w hwm))).2
    have hwv : orderIn descending w v ≠ .lt := Std.OrientedCmp.not_lt_of_isLE hvw
    rw [improves_eq (hv w hwm) ht (hc w hwm) fun p hp => by
      cases hp
      exact ⟨hv v hvm, hr, hc v hvm⟩]
    simp [hwv]

include hv hs in
/-- No value up to a place comes after one that is equal to the value there. -/
theorem orderIn_ne_gt_of_le {j : Nat} (hw : values[j]? = some w) (hu : values[i]? = some u)
    (hle : j ≤ i) (hvu : orderIn descending v u = .eq) : orderIn descending w v ≠ .gt := by
  have h := sortedLine_of_isOrdered hv hs
  have hwu : (orderIn descending w u).isLE = true := by
    rcases Nat.lt_or_eq_of_le hle with hlt | rfl
    · exact (h.inOrder hlt hw hu (isEmpty_of_isOrdered (hv w (List.mem_of_getElem? hw)))
        (isEmpty_of_isOrdered (hv u (List.mem_of_getElem? hu)))).2
    · rw [hu] at hw
      cases hw
      exact Std.ReflCmp.isLE_rfl
  rw [Std.TransCmp.congr_right hvu]
  intro hgt
  rw [hgt] at hwu
  cases hwu

include hv hs ht hc hl hne in
/-- Before the target, the first of the values equal to the last one is reported. -/
theorem nearestPosition_before {first : Nat} (hi : i < boundary) (hu : values[i]? = some u)
    (hlast : i = boundary - 1) (hr : u.rank = target.rank) (hf : values[first]? = some v)
    (hle : first ≤ i) (hvu : orderIn descending v u = .eq)
    (hfirst : ∀ j < first, ∀ w, values[j]? = some w → orderIn descending w u ≠ .eq) :
    nearestPosition values target (turned descending .lt) false = .ok (some first) := by
  have h := sortedLine_of_isOrdered hv hs
  have hvm := List.mem_of_getElem? hf
  have hve := isEmpty_of_isOrdered (hv v hvm)
  have hvr : v.rank = target.rank := (rank_eq_of_orderIn_eq hvu).trans hr
  have hvt := (orderIn_eq_lt_of_lt_boundary hv hs ht hl (lt_of_le_of_lt hle hi) hf).2
  have hn := @nearestFrom_of_best target (turned descending .lt)
    (fun best => ∀ p ∈ best, Rival target p.2 ∧ orderIn descending p.2 v = .lt) none values first v 0
    hf (by simp) ?_ ?_ ?_
  · rwa [Nat.zero_add] at hn
  · intro j hj w hw best hbest
    have hwm := List.mem_of_getElem? hw
    refine ⟨_, improves_eq (hv w hwm) ht (hc w hwm) fun p hp => (hbest p hp).1, fun himp k p hp => ?_⟩
    cases hp
    simp only [Bool.and_eq_true, beq_iff_eq] at himp
    refine ⟨⟨hv w hwm, himp.1.1, hc w hwm⟩, ?_⟩
    have hwv := (h.inOrder hj hw hf (isEmpty_of_isOrdered (hv w hwm)) hve).2
    rcases Ordering.isLE_iff_eq_lt_or_eq_eq.mp hwv with hlt | heq
    · exact hlt
    · exact absurd (Std.TransCmp.eq_trans heq hvu) (hfirst j hj w hw)
  · intro best hbest
    rw [improves_eq (hv v hvm) ht (hc v hvm) fun p hp => (hbest p hp).1, hvt, hvr]
    cases best with
    | none => simp
    | some p =>
      have hpv : orderIn descending v p.2 = .gt := Std.OrientedCmp.gt_of_lt (hbest p rfl).2
      simp [hpv]
  · intro j hj w hw k
    have hwm := List.mem_of_getElem? hw
    rw [improves_eq (hv w hwm) ht (hc w hwm) fun p hp => by
      cases hp
      exact ⟨hv v hvm, hvr, hc v hvm⟩]
    rcases Nat.lt_or_ge j boundary with hlt | hge
    · simp [orderIn_ne_gt_of_le hv hs hw hu (by omega) hvu]
    · rw [orderIn_eq_gt_of_boundary_le hv hs ht hl hne hge hw]
      simp

end

end SheetFormulas.Lookup
