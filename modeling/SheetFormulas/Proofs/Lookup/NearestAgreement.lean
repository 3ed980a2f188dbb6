import SheetFormulas.Proofs.Lookup.NearestMatch

/-!
When a nearest match in sorted data gives the answer of the match from the first value: the value
next to the place of the target has its type and stands behind no equal one.
-/

namespace SheetFormulas.Lookup

open Value

variable {descending : Bool} {values : List Value} {target v : Value} {boundary i : Nat}
  {mode : MatchMode} {side : Ordering}

/-- The place next to that of the target on the side of the lesser values (`wanted` is `lt`) or of
the greater ones (`gt`): the last place before it or the first one behind it. -/
structure IsNeighbour (target : Value) (wanted : Ordering) (descending : Bool) (values : List Value)
    (i : Nat) : Prop where
  onSide : ∃ v, values[i]? = some v ∧ v.compare target = .ok (.order wanted)
  nearest : ∀ j v, values[j]? = some v → v.compare target = .ok (.order wanted) →
    if wanted = (if descending then .gt else .lt) then j ≤ i else i ≤ j

/-- Whether the halving and the search of all values report the same neighbour: it has the type of
the target, and no value before it compares as equal. -/
def NeighbourAgrees (target : Value) (values : List Value) (i : Nat) : Prop :=
  ∀ v, values[i]? = some v → v.kind? = target.kind? ∧
    ∀ j < i, ∀ w, values[j]? = some w → w.equal v = .ok false

/-- The order to the target of the values that a mode wants. -/
def MatchMode.wanted : MatchMode → Ordering
  | .nextSmaller => .lt
  | _ => .gt

theorem ne_wildcard (hm : mode = .nextSmaller ∨ mode = .nextLarger) : mode ≠ .wildcard := by
  rcases hm with rfl | rfl <;> decide

theorem beside_eq_nextTo (hm : mode = .nextSmaller ∨ mode = .nextLarger) (length : Nat) :
    beside mode descending boundary length =
      nextTo (turned descending mode.wanted) boundary length := by
  rcases hm with rfl | rfl <;> cases descending <;> rfl

section

variable (hv : ∀ v ∈ values, v.isOrdered = true) (hs : IsSorted descending values)
  (ht : target.isOrdered = true)

include hv hs in
theorem equal_eq_false_iff {j : Nat} {w : Value} (hj : j < i) (hw : values[j]? = some w)
    (hi : values[i]? = some v) : w.equal v = .ok false ↔ orderIn descending w v ≠ .eq := by
  have hvo := hv v (List.mem_of_getElem? hi)
  have hwo := hv w (List.mem_of_getElem? hw)
  have hc := ((sortedLine_of_isOrdered hv hs).inOrder hj hw hi (isEmpty_of_isOrdered hwo)
    (isEmpty_of_isOrdered hvo)).1
  rw [equal_eq hwo hvo, hc, if_neg (by decide), Except.ok.injEq, beq_eq_false_iff_ne, ne_eq, ne_eq,
    orderIn_eq_iff]

include hv hs ht in
theorem neighbourAgrees_iff (hi : values[i]? = some v) :
    NeighbourAgrees target values i ↔ v.rank = target.rank ∧
      ∀ j < i, ∀ w, values[j]? = some w → orderIn descending w v ≠ .eq := by
  have hvo := hv v (List.mem_of_getElem? hi)
  constructor
  · intro h
    obtain ⟨hk, heq⟩ := h v hi
    exact ⟨(kind?_eq_iff hvo ht).mp hk,
      fun j hj w hw => (equal_eq_false_iff hv hs hj hw hi).mp (heq j hj w hw)⟩
  · rintro ⟨hr, hne⟩ u hu
    rw [hi] at hu
    cases hu
    exact ⟨(kind?_eq_iff hvo ht).mpr hr,
      fun j hj w hw => (equal_eq_false_iff hv hs hj hw hi).mpr (hne j hj w hw)⟩

variable (hc : AllComparable target values)
  (hl : halving target descending values = .ok boundary)
  (hne : ∀ v ∈ values, orderIn descending v target ≠ .eq)

include hv hs ht hc hl hne in
theorem nearestPosition_eq_after_iff :
    nearestPosition values target (turned descending .gt) false =
        .ok (nextTo .gt boundary values.length) ↔
      ∀ i, nextTo .gt boundary values.length = some i → NeighbourAgrees target values i := by
  have hnext : nextTo .gt boundary values.length =
      if boundary < values.length then some boundary else none := rfl
  rw [hnext]
  by_cases hlt : boundary < values.length
  · rw [if_pos hlt]
    have hi := List.getElem?_eq_getElem hlt
    constructor
    · rintro hn i hsome
      cases hsome
      have hr := rank_eq_of_nearestPosition hv ht hn hi
      refine (neighbourAgrees_iff hv hs ht hi).mpr ⟨hr, fun j hj w hw heq => ?_⟩
      -- the values before the boundary are before the target, and this one is not
      have hwt := (orderIn_eq_lt_of_lt_boundary hv hs ht hl hj hw).2
      have hvt := orderIn_eq_gt_of_boundary_le hv hs ht hl hne (le_refl _) hi
      rw [Std.TransCmp.congr_left heq, hvt] at hwt
      cases hwt
    · intro hagrees
      have hr := ((neighbourAgrees_iff hv hs ht hi).mp (hagrees _ rfl)).1
      exact nearestPosition_after hv hs ht hc hl hne hi hr
  · rw [if_neg hlt]
    refine iff_of_true ?_ fun i hi => by cases hi
    refine nearestPosition_of_none_on_side hv ht hc fun v hvm hgt => ?_
    obtain ⟨i, hi⟩ := List.mem_iff_getElem?.mp hvm
    have hle := (orderIn_eq_iff_side hv hs ht hl hne hi).2.mp hgt
    have := (List.getElem?_eq_some_iff.mp hi).1
    omega

include hv hs ht hc hl hne in
theorem nearestPosition_eq_before_iff :
    nearestPosition values target (turned descending .lt) false =
        .ok (nextTo .lt boundary values.length) ↔
      ∀ i, nextTo .lt boundary values.length = some i → NeighbourAgrees target values i := by
  have hnext : nextTo .lt boundary values.length =
      if 0 < boundary then some (boundary - 1) else none := rfl
  rw [hnext]
  by_cases hpos : 0 < boundary
  · rw [if_pos hpos]
    have hle := (boundary_sides hl).1
    have hlt : boundary - 1 < values.length := by omega
    have hi := List.getElem?_eq_getElem hlt
    by_cases hr : values[boundary - 1].rank = target.rank
    · obtain ⟨first, v, hfirst, hf, heq, hbefore⟩ := exists_first_equal descending hi
      have hn := nearestPosition_before hv hs ht hc hl hne (by omega) hi rfl hr hf hfirst heq hbefore
      rw [hn]
      constructor
      · rintro hsame i hsome
        cases hsome
        refine (neighbourAgrees_iff hv hs ht hi).mpr ⟨hr, fun j hj w hw => hbefore j ?_ w hw⟩
        have := Option.some.inj (Except.ok.inj hsame)
        omega
      · intro hagrees
        have hnot := ((neighbourAgrees_iff hv hs ht hi).mp (hagrees _ rfl)).2
        rcases Nat.lt_or_eq_of_le hfirst with hlt' | hsame
        · exact absurd heq (hnot first hlt' v hf)
        · rw [hsame]
    · refine iff_of_false (fun hn => hr (rank_eq_of_nearestPosition hv ht hn hi)) fun hagrees => ?_
      exact hr ((neighbourAgrees_iff hv hs ht hi).mp (hagrees _ rfl)).1
  · rw [if_neg hpos]
    refine iff_of_true ?_ fun i hi => by cases hi
    refine nearestPosition_of_none_on_side hv ht hc fun v hvm hlt => ?_
    obtain ⟨i, hi⟩ := List.mem_iff_getElem?.mp hvm
    have := (orderIn_eq_iff_side hv hs ht hl hne hi).1.mp hlt
    omega

include hv ht hc in
theorem compare_eq_turned_iff (hi : values[i]? = some v) :
    v.compare target = .ok (.order (turned descending side)) ↔
      orderIn descending v target = side := by
  have hvm := List.mem_of_getElem? hi
  rw [compare_eq (hv v hvm) ht, hc v hvm, if_neg (by decide), Except.ok.injEq,
    Compared.order.injEq, order_eq_turned_iff]

include hv hs ht hc hl hne in
theorem isNeighbour_before_iff :
    IsNeighbour target (turned descending .lt) descending values i ↔
      nextTo .lt boundary values.length = some i := by
  have hnext : nextTo .lt boundary values.length =
      if 0 < boundary then some (boundary - 1) else none := rfl
  have hif : turned descending .lt = if descending then .gt else .lt := by cases descending <;> rfl
  have hside (j : Nat) (w : Value) (hw : values[j]? = some w) :
      w.compare target = .ok (.order (turned descending .lt)) ↔ j < boundary :=
    (compare_eq_turned_iff hv ht hc hw).trans (orderIn_eq_iff_side hv hs ht hl hne hw).1
  have hle := (boundary_sides hl).1
  rw [hnext, Option.ite_none_right_eq_some, Option.some.injEq]
  constructor
  · rintro ⟨⟨v, hi, hvc⟩, hnearest⟩
    have hlt := (hside i v hi).mp hvc
    have hu := List.getElem?_eq_getElem (show boundary - 1 < values.length by omega)
    have hmax := hnearest _ _ hu ((hside _ _ hu).mpr (by omega))
    rw [if_pos hif] at hmax
    omega
  · rintro ⟨hpos, rfl⟩
    have hu := List.getElem?_eq_getElem (show boundary - 1 < values.length by omega)
    refine ⟨⟨_, hu, (hside _ _ hu).mpr (by omega)⟩, fun j w hw hwc => ?_⟩
    rw [if_pos hif]
    have := (hside j w hw).mp hwc
    omega

include hv hs ht hc hl hne in
theorem isNeighbour_after_iff :
    IsNeighbour target (turned descending .gt) descending values i ↔
      nextTo .gt boundary values.length = some i := by
  have hnext : nextTo .gt boundary values.length =
      if boundary < values.length then some boundary else none := rfl
  have hif : ¬ turned descending .gt = if descending then .gt else .lt := by
    cases descending <;> decide
  have hside (j : Nat) (w : Value) (hw : values[j]? = some w) :
      w.compare target = .ok (.order (turned descending .gt)) ↔ boundary ≤ j :=
    (compare_eq_turned_iff hv ht hc hw).trans (orderIn_eq_iff_side hv hs ht hl hne hw).2
  rw [hnext, Option.ite_none_right_eq_some, Option.some.injEq]
  constructor
  · rintro ⟨⟨v, hi, hvc⟩, hnearest⟩
    have hle := (hside i v hi).mp hvc
    have hlt := (List.getElem?_eq_some_iff.mp hi).1
    have hu := List.getElem?_eq_getElem (show boundary < values.length by omega)
    have hmin := hnearest _ _ hu ((hside _ _ hu).mpr (le_refl _))
    rw [if_neg hif] at hmin
    omega
  · rintro ⟨hlt, rfl⟩
    have hu := List.getElem?_eq_getElem hlt
    refine ⟨⟨_, hu, (hside _ _ hu).mpr (le_refl _)⟩, fun j w hw hwc => ?_⟩
    rw [if_neg hif]
    exact (hside j w hw).mp hwc

end

section

variable (hv : ∀ v ∈ values, v.isOrdered = true) (hs : IsSorted descending values)
  (ht : target.isOrdered = true) (hm : mode = .nextSmaller ∨ mode = .nextLarger)

include hv in
theorem orderIn_ne_eq_of_not_hits (hf : values.findIdx? (hits target) = none) (hvm : v ∈ values) :
    orderIn descending v target ≠ .eq := by
  intro heq
  have hmiss := List.findIdx?_eq_none_iff.mp hf v hvm
  rw [hits, isPresent_of_isOrdered (hv v hvm), orderIn_eq_iff.mp heq] at hmiss
  cases hmiss

include hv hs ht hm in
/-- Without a hit, both searches look for a neighbour. -/
theorem binary_eq_linear_iff_neighbourAgrees (hc : AllComparable target values)
    (hf : values.findIdx? (hits target) = none) :
    binaryPosition values target mode descending = linearPosition values target mode false ↔
      ∀ i, IsNeighbour target mode.wanted descending values i → NeighbourAgrees target values i := by
  have h := sortedLine_of_isOrdered hv hs
  have hne (v : Value) (hvm : v ∈ values) : orderIn descending v target ≠ .eq :=
    orderIn_ne_eq_of_not_hits hv hf hvm
  obtain ⟨boundary, hl⟩ := exists_boundary h ht hc
  have hlinear : linearPosition values target mode false =
      nearestPosition values target mode.wanted false := by
    rw [linearPosition_eq values target (ne_wildcard hm),
      firstFrom_of_comparable h ht 0 (fun v hvm => hvm) hc, hf]
    rcases hm with rfl | rfl <;> rfl
  rw [binaryPosition_of_miss hl (isHitAt_of_not_hits h ht hc hf boundary), beside_eq_nextTo hm,
    hlinear, eq_comm]
  have hwanted := turned_turned descending mode.wanted
  have hside : turned descending mode.wanted = .lt ∨ turned descending mode.wanted = .gt := by
    rcases hm with rfl | rfl <;> cases descending <;> decide
  rw [← hwanted]
  rcases hside with hside | hside
  · rw [hside, turned_turned, nearestPosition_eq_before_iff hv hs ht hc hl hne]
    simp only [isNeighbour_before_iff hv hs ht hc hl hne]
  · rw [hside, turned_turned, nearestPosition_eq_after_iff hv hs ht hc hl hne]
    simp only [isNeighbour_after_iff hv hs ht hc hl hne]

include hv hs ht in
/-- A halving overflows wherever some value cannot be compared with the target. -/
theorem halving_eq_overflow (hvm : v ∈ values) (hov : v.overflows target = true) :
    halving target descending values = fail .overflow := by
  have h := sortedLine_of_isOrdered hv hs
  cases hl : halving target descending values with
  | error e =>
    rw [(overflows_of_halving_eq_error h ht hl).1]
    rfl
  | ok boundary =>
    obtain ⟨i, hi⟩ := List.mem_iff_getElem?.mp hvm
    have hlt := lt_boundary_of_overflows h ht hl hi hov
    rw [(orderIn_eq_lt_of_lt_boundary hv hs ht hl hlt hi).1] at hov
    cases hov

include hv hs ht hm in
theorem linearPosition_eq_overflow {e : Fault}
    (he : linearPosition values target mode false = .error e) : e = .failure .overflow := by
  have h := sortedLine_of_isOrdered hv hs
  rw [linearPosition_eq values target (ne_wildcard hm)] at he
  by_cases hc : AllComparable target values
  · rw [firstFrom_of_comparable h ht 0 (fun v hvm => hvm) hc] at he
    obtain ⟨found, hfound⟩ := @exists_nearestPosition descending values target
      (turned descending mode.wanted) hv ht hc
    rw [turned_turned] at hfound
    cases hf : values.findIdx? (hits target) with
    | some first =>
      rw [hf] at he
      cases he
    | none =>
      rw [hf] at he
      rcases hm with rfl | rfl
      · cases hfound.symm.trans he
      · cases hfound.symm.trans he
  · obtain ⟨v, hvm, hov⟩ := exists_overflows hc
    rw [firstFrom_of_overflows h ht 0 (fun w hw => hw) hvm hov] at he
    exact (Except.error.inj he).symm

include hv hs ht in
/-- The halving reports the first hit. -/
theorem binaryPosition_of_hits (hc : AllComparable target values)
    (hf : values.findIdx? (hits target) = some i) :
    binaryPosition values target mode descending = .ok (some i) := by
  have h := sortedLine_of_isOrdered hv hs
  obtain ⟨boundary, hl⟩ := exists_boundary h ht hc
  obtain ⟨hi, hhit, -⟩ := List.findIdx?_eq_some_iff_getElem.mp hf
  -- a place before the boundary holds a value before the target, so the hit is not there
  have hle : boundary ≤ i := by
    by_contra hgt
    have hbefore := (orderIn_eq_lt_of_lt_boundary hv hs ht hl (Nat.not_le.mp hgt)
      (List.getElem?_eq_getElem hi)).2
    rw [orderIn_eq_iff.mpr (order_eq_of_hits hhit)] at hbefore
    cases hbefore
  rw [boundary_eq_of_first_hit h ht hl hf hle] at hl
  exact binaryPosition_of_first_hit h ht mode hc hl hf

include hv hs ht hm in
/-- A hit is found by both searches, and it is the first one. -/
theorem binary_eq_linear_of_hit (hc : AllComparable target values)
    (hf : values.findIdx? (hits target) = some i) :
    binaryPosition values target mode descending = linearPosition values target mode false := by
  have h := sortedLine_of_isOrdered hv hs
  rw [binaryPosition_of_hits hv hs ht hc hf, linearPosition_eq values target (ne_wildcard hm),
    firstFrom_of_comparable h ht 0 (fun v hvm => hvm) hc, hf, Option.map_some, Nat.zero_add]
  rfl

include hv hs ht hm in
/-- Where some value cannot be compared with the target, both searches overflow. -/
theorem binary_eq_linear_of_overflows (hvm : v ∈ values) (hov : v.overflows target = true) :
    binaryPosition values target mode descending = linearPosition values target mode false := by
  have h := sortedLine_of_isOrdered hv hs
  have hw := ne_wildcard hm
  rw [binaryPosition_of_error (halving_eq_overflow hv hs ht hvm hov),
    linearPosition_eq values target hw, firstFrom_of_overflows h ht 0 (fun w hw => hw) hvm hov]
  rfl

include hv hs ht hm in
theorem binary_eq_linear_nearest_iff :
    binaryPosition values target mode descending = linearPosition values target mode false ↔
      (∃ v ∈ values, v.equal target ≠ .ok false) ∨
        ∀ i, IsNeighbour target mode.wanted descending values i →
          NeighbourAgrees target values i := by
  have hequal (v : Value) (hvm : v ∈ values) : v.equal target =
      if v.overflows target then fail .overflow else .ok (hits target v) := by
    rw [equal_eq (hv v hvm) ht, hits, isPresent_of_isOrdered (hv v hvm), Bool.true_and]
  by_cases hc : AllComparable target values
  · cases hf : values.findIdx? (hits target) with
    | none =>
      rw [binary_eq_linear_iff_neighbourAgrees hv hs ht hm hc hf, or_iff_right]
      rintro ⟨v, hvm, hne⟩
      rw [hequal v hvm, hc v hvm, List.findIdx?_eq_none_iff.mp hf v hvm] at hne
      exact hne rfl
    | some first =>
      obtain ⟨hlt, hhit, -⟩ := List.findIdx?_eq_some_iff_getElem.mp hf
      have hfm := List.getElem_mem hlt
      refine iff_of_true (binary_eq_linear_of_hit hv hs ht hm hc hf) (.inl ⟨_, hfm, ?_⟩)
      rw [hequal _ hfm, hc _ hfm, hhit]
      intro heq
      cases heq
  · obtain ⟨v, hvm, hov⟩ := exists_overflows hc
    refine iff_of_true (binary_eq_linear_of_overflows hv hs ht hm hvm hov) (.inl ⟨v, hvm, ?_⟩)
    rw [hequal v hvm, hov]
    intro heq
    cases heq

end

/-- On sorted data, a nearest match by halving gives the answer of the match from the first value
just if some value is equal to the target, or cannot be compared with it, or if the neighbour on the
side that is asked for has the type of the target and no equal value before it. -/
theorem nearest_sorted_eq_nearest_linear_iff (hv : ∀ v ∈ values, v.isOrdered = true)
    (hs : IsSorted descending values) (ht : target.isOrdered = true) {m : Int}
    (hm : m = -1 ∨ m = 1) :
    matchPositionBy target (.array values) (.ofInt m) (.ofInt (if descending then -2 else 2)) =
        matchPositionBy target (.array values) (.ofInt m) (.ofInt 1) ↔
      (∃ v ∈ values, v.equal target ≠ .ok false) ∨
        ∀ i, IsNeighbour target (if m = -1 then .lt else .gt) descending values i →
          NeighbourAgrees target values i := by
  have h := sortedLine_of_isOrdered hv hs
  have harray (v : Value) (hvm : v ∈ values) : v.kind? ≠ some .array := kind?_ne_array (hv v hvm)
  obtain ⟨mode, hmode, hmodes, hwanted⟩ : ∃ mode, MatchMode.ofInt? m = some mode ∧
      (mode = .nextSmaller ∨ mode = .nextLarger) ∧
      (if m = -1 then Ordering.lt else .gt) = mode.wanted := by
    rcases hm with rfl | rfl
    · exact ⟨.nextSmaller, rfl, .inl rfl, rfl⟩
    · exact ⟨.nextLarger, rfl, .inr rfl, rfl⟩
  have hw := ne_wildcard hmodes
  rw [match_binary_eq_match_linear_iff ht harray hmode hw
    (fun e he => binaryPosition_eq_error h ht he)
    (fun e he => linearPosition_eq_overflow hv hs ht hmodes he), hwanted]
  exact binary_eq_linear_nearest_iff hv hs ht hmodes

/-- The neighbour below two is the second of two equal values; the other search takes the first. -/
theorem nearest_sorted_ne_nearest_linear_of_equal_values :
    (∀ v ∈ [ofInt 1, ofInt 1, ofInt 3], v.isOrdered = true) ∧
      IsSorted false [ofInt 1, ofInt 1, ofInt 3] ∧
      matchPositionBy (.ofInt 2) (.array [ofInt 1, ofInt 1, ofInt 3]) (.ofInt (-1)) (.ofInt 2) ≠
        matchPositionBy (.ofInt 2) (.array [ofInt 1, ofInt 1, ofInt 3]) (.ofInt (-1))
          (.ofInt 1) := by
  have hcompare (m n : Int) (hm : m.natAbs < 4) (hn : n.natAbs < 4) :
      (ofInt m).compare (ofInt n) = .ok (.order (Ord.compare m n)) :=
    compare_ofInt (Number.lt_two_pow (by omega) (by decide)) (Number.lt_two_pow (by omega) (by decide))
  have hv : ∀ v ∈ [ofInt 1, ofInt 1, ofInt 3], v.isOrdered = true := by
    simp [isOrdered, ofInt, Number.isNaN]
  have hs : IsSorted false [ofInt 1, ofInt 1, ofInt 3] := by
    have h13 : Ord.compare (1 : Int) 3 = .lt := by decide
    simp [IsSorted, lessOrEqual, hcompare, Compared.is, h13]
  refine ⟨hv, hs, fun heq => ?_⟩
  rcases (@nearest_sorted_eq_nearest_linear_iff false _ _ hv hs rfl (-1) (.inl rfl)).mp heq with
    ⟨v, hvm, hne⟩ | hagrees
  · apply hne
    simp only [List.mem_cons, List.not_mem_nil, or_false] at hvm
    rcases hvm with rfl | rfl | rfl <;> rw [equal, hcompare _ _ (by decide) (by decide)] <;> rfl
  · have hn : IsNeighbour (ofInt 2) .lt false [ofInt 1, ofInt 1, ofInt 3] 1 := by
      refine ⟨⟨ofInt 1, rfl, hcompare 1 2 (by decide) (by decide)⟩, fun j v hj hc => ?_⟩
      rcases j with _ | _ | _ | j
      · exact Nat.zero_le 1
      · exact le_refl 1
      · cases hj
        rw [hcompare 3 2 (by decide) (by decide)] at hc
        cases hc
      · cases hj
    have hne := (hagrees 1 hn (ofInt 1) rfl).2 0 (by decide) (ofInt 1) rfl
    rw [equal, hcompare 1 1 (by decide) (by decide)] at hne
    cases hne

end SheetFormulas.Lookup
