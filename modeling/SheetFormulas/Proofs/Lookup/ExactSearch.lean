import SheetFormulas.Proofs.Lookup.SortedLine

/-!
Exact search of sorted lines, from the first value to the last and by halving. Either every value of
the line can be compared with the target, or both kinds of search run into an overflow.
-/

namespace SheetFormulas.Lookup

open Value

variable {descending : Bool} {values : List Value} {target v : Value} {boundary i : Nat}

/-- Whether a value takes part in a search and has the place of the target in the order. -/
def hits (target v : Value) : Bool := isPresent v && v.order target == .eq

/-- Whether every value of a line can be compared with a target. -/
def AllComparable (target : Value) (values : List Value) : Prop :=
  ∀ v ∈ values, v.overflows target = false

theorem exists_overflows (h : ¬ AllComparable target values) :
    ∃ v ∈ values, v.overflows target = true := by
  simpa [AllComparable] using h

theorem isEmpty_eq_false_of_hits (h : hits target v = true) : v.isEmpty = false := by
  cases v <;> first | rfl | cases h

theorem order_eq_of_hits (h : hits target v = true) : v.order target = .eq := by
  simpa using (Bool.and_eq_true_iff.mp h).2

section

variable (h : SortedLine descending values) (ht : target.isOrdered = true)

include h ht

theorem isHit_of_comparable (hv : v ∈ values) (hc : v.overflows target = false) :
    isHit false target v = .ok (hits target v) := by
  cases hve : v.isEmpty with
  | true =>
    rw [eq_empty_of_isEmpty hve]
    rfl
  | false =>
    have hvo := h.isOrdered v hv hve
    rw [isHit_eq false hvo ht, hc, hits, isPresent_of_isOrdered hvo]
    rfl

/-- Where all values can be compared, the first hit is found. -/
theorem firstFrom_of_comparable (start : Nat) {part : List Value} (hp : ∀ v ∈ part, v ∈ values)
    (hc : AllComparable target part) :
    firstFrom (isHit false target) start part =
      .ok ((part.findIdx? (hits target)).map (start + ·)) :=
  firstFrom_eq_findIdx? start fun v hv => isHit_of_comparable h ht (hp v hv) (hc v hv)

/-- A search that reaches a value which cannot be compared with the target overflows there, for no
value before it is a hit. -/
theorem firstFrom_of_overflows (start : Nat) {part : List Value} (hp : ∀ v ∈ part, v ∈ values)
    (hv : v ∈ part) (hov : v.overflows target = true) :
    firstFrom (isHit false target) start part = fail .overflow := by
  have hvo := h.isOrdered v (hp v hv) (isEmpty_of_overflows hov)
  refine firstFrom_eq_error start (fun w hw => ?_) hv ?_
  · cases hwe : w.isEmpty with
    | true =>
      rw [eq_empty_of_isEmpty hwe]
      exact .inl rfl
    | false =>
      rw [isHit_eq false (h.isOrdered w (hp w hw) hwe) ht]
      cases hwo : w.overflows target with
      | true => exact .inr rfl
      | false =>
        refine .inl ?_
        obtain ⟨i, hi⟩ := List.mem_iff_getElem?.mp (hp v hv)
        obtain ⟨j, hj⟩ := List.mem_iff_getElem?.mp (hp w hw)
        have hr : w.rank ≠ target.rank := by
          intro hr
          rw [h.overflows_of_rank_eq hi hov hj hwe hr] at hwo
          cases hwo
        have hne := @orderIn_ne_eq_of_rank_ne false target w hr
        rw [if_neg (by decide), beq_eq_false_iff_ne.mpr hne]
  · rw [isHit_eq false hvo ht, hov]
    rfl

/-- The halving only fails by overflow, at a value that cannot be compared with the target. -/
theorem overflows_of_halving_eq_error {e : Fault}
    (hl : halving target descending values = .error e) :
    e = .failure .overflow ∧
      ∃ p ∈ halvingProbes target descending values,
        (∃ v, values[p]? = some v ∧ v.overflows target = true) ∧
        ∀ m ∈ halvingProbes target descending values,
          m = p ∨ isBeforeAt target descending values m = .ok (decide (m < p)) := by
  obtain ⟨p, hp, hpe, htests⟩ := lowerBound_eq_error hl
  have hlt := (mem_range_of_mem_probes hp).2
  have hv := List.getElem?_eq_getElem hlt
  rw [isBeforeAt_of_getElem? hv] at hpe
  cases hve : values[p].isEmpty with
  | true =>
    rw [eq_empty_of_isEmpty hve] at hpe
    cases hpe
  | false =>
    rw [isBefore_eq (h.isOrdered _ (List.mem_of_getElem? hv) hve) ht] at hpe
    split at hpe
    · next hov =>
      cases hpe
      exact ⟨rfl, p, hp, ⟨_, hv, hov⟩, htests⟩
    · cases hpe

theorem exists_boundary (hc : AllComparable target values) :
    ∃ boundary, halving target descending values = .ok boundary := by
  cases hl : halving target descending values with
  | ok boundary => exact ⟨boundary, rfl⟩
  | error e =>
    obtain ⟨-, p, -, ⟨v, hv, hov⟩, -⟩ := overflows_of_halving_eq_error h ht hl
    rw [hc v (List.mem_of_getElem? hv)] at hov
    cases hov

theorem isHitAt_of_comparable (hc : AllComparable target values) (i : Nat) :
    isHitAt target values i = .ok (values[i]?.any (hits target)) := by
  unfold isHitAt
  cases hv : values[i]? with
  | none => rfl
  | some v => exact isHit_of_comparable h ht (List.mem_of_getElem? hv) (hc v (List.mem_of_getElem? hv))

theorem exists_isHitAt_boundary
    (hl : halving target descending values = .ok boundary) :
    ∃ found, isHitAt target values boundary = .ok found := by
  cases hv : values[boundary]? with
  | none => exact ⟨false, by rw [isHitAt, hv]⟩
  | some v =>
    obtain ⟨-, hov, -⟩ := at_boundary h ht hl hv
    rw [isHitAt_of_getElem? hv]
    exact ⟨_, isHit_of_comparable h ht (List.mem_of_getElem? hv) hov⟩

/-- A halving that ends gives an answer. -/
theorem exists_binaryPosition (mode : MatchMode)
    (hl : halving target descending values = .ok boundary) :
    ∃ found, binaryPosition values target mode descending = .ok found := by
  obtain ⟨found, hf⟩ := exists_isHitAt_boundary h ht hl
  cases found with
  | true => exact ⟨_, binaryPosition_of_hit hl hf⟩
  | false => exact ⟨_, binaryPosition_of_miss hl hf⟩

theorem binaryPosition_eq_error {mode : MatchMode} {e : Fault}
    (he : binaryPosition values target mode descending = .error e) : e = .failure .overflow := by
  cases hl : halving target descending values with
  | error e' =>
    rw [binaryPosition_of_error hl] at he
    cases he
    exact (overflows_of_halving_eq_error h ht hl).1
  | ok boundary =>
    obtain ⟨found, hf⟩ := exists_binaryPosition h ht mode hl
    rw [hf] at he
    cases he

theorem firstFrom_eq_overflow {e : Fault}
    (he : firstFrom (isHit false target) 0 values = .error e) : e = .failure .overflow := by
  by_cases hc : AllComparable target values
  · rw [firstFrom_of_comparable h ht 0 (fun v hv => hv) hc] at he
    cases he
  · obtain ⟨v, hv, hov⟩ := exists_overflows hc
    rw [firstFrom_of_overflows h ht 0 (fun w hw => hw) hv hov] at he
    exact (Except.error.inj he).symm

/-- A first hit that is not before the boundary is at the boundary. -/
theorem boundary_eq_of_first_hit
    (hl : halving target descending values = .ok boundary)
    (hf : values.findIdx? (hits target) = some i) (hle : boundary ≤ i) : boundary = i := by
  obtain ⟨hi, hhit, hfirst⟩ := List.findIdx?_eq_some_iff_getElem.mp hf
  have hv := List.getElem?_eq_getElem hi
  rcases Nat.eq_or_lt_of_le hle with heq | hlt
  · exact heq
  · exfalso
    have hu := List.getElem?_eq_getElem (show boundary < values.length by omega)
    obtain ⟨hue, -, hut⟩ := at_boundary h ht hl hu
    have huv := (h.inOrder hlt hu hv hue (isEmpty_eq_false_of_hits hhit)).2
    have hvt : orderIn descending values[i] target = .eq :=
      orderIn_eq_iff.mpr (order_eq_of_hits hhit)
    -- the value at the boundary is not after the first hit, and not before the target
    rw [Std.TransCmp.congr_right hvt] at huv
    rcases Ordering.isLE_iff_eq_lt_or_eq_eq.mp huv with h1 | h1
    · exact hut h1
    · apply hfirst boundary hlt
      rw [hits, isPresent_of_isOrdered (h.isOrdered _ (List.mem_of_getElem? hu) hue),
        orderIn_eq_iff.mp h1]
      rfl

theorem binaryPosition_of_first_hit (mode : MatchMode) (hc : AllComparable target values)
    (hl : halving target descending values = .ok i)
    (hf : values.findIdx? (hits target) = some i) :
    binaryPosition values target mode descending = .ok (some i) := by
  obtain ⟨hi, hhit, -⟩ := List.findIdx?_eq_some_iff_getElem.mp hf
  have hat := isHitAt_of_comparable h ht hc i
  rw [List.getElem?_eq_getElem hi, Option.any_some, hhit] at hat
  exact binaryPosition_of_hit hl hat

theorem isHitAt_of_not_hits (hc : AllComparable target values)
    (hf : values.findIdx? (hits target) = none) (i : Nat) :
    isHitAt target values i = .ok false := by
  rw [isHitAt_of_comparable h ht hc]
  cases hv : values[i]? with
  | none => rfl
  | some v => exact congrArg Except.ok (List.findIdx?_eq_none_iff.mp hf v (List.mem_of_getElem? hv))

end

end SheetFormulas.Lookup
