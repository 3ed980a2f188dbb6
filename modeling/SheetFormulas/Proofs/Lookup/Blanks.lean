import SheetFormulas.Proofs.Lookup.ExactSearch
import SheetFormulas.Proofs.Lookup.Match

/-!
Blanks in sorted data. The halving steps over a blank to the values behind it, so a match in front of
a blank that it looks at is lost.
-/

namespace SheetFormulas.Lookup

open Value

variable {descending : Bool} {values : List Value} {target v : Value} {boundary i : Nat}

/-- Whether a search that starts behind a place finds the same as a search of the whole line. -/
def NothingLost (target : Value) (values : List Value) (place : Nat) : Prop :=
  firstFrom (isHit false target) (place + 1) (values.drop (place + 1)) =
    firstFrom (isHit false target) 0 values

theorem findIdx?_drop_eq_some_iff {passes : Value → Bool} (n : Nat)
    (hf : values.findIdx? passes = some i) :
    ((values.drop n).findIdx? passes).map (n + ·) = some i ↔ n ≤ i := by
  obtain ⟨hi, hpass, hfirst⟩ := List.findIdx?_eq_some_iff_getElem.mp hf
  constructor
  · intro h
    obtain ⟨k, -, hk⟩ := Option.map_eq_some_iff.mp h
    omega
  · intro hle
    rw [Option.map_eq_some_iff]
    refine ⟨i - n, ?_, by omega⟩
    rw [List.findIdx?_eq_some_iff_getElem]
    refine ⟨by rw [List.length_drop]; omega, ?_, fun j hj => ?_⟩
    · simpa [Nat.add_sub_cancel' hle] using hpass
    · simpa using hfirst (n + j) (by omega)

theorem linearPosition_exact (values : List Value) (target : Value) :
    linearPosition values target .exact false = firstFrom (isHit false target) 0 values := by
  rw [linearPosition_eq values target (by decide)]
  rcases firstFrom (isHit false target) 0 values with e | _ | p <;> rfl

theorem lt_boundary_of_empty
    (hl : halving target descending values = .ok boundary)
    (hm : i ∈ halvingProbes target descending values) (hi : values[i]? = some .empty) :
    i < boundary := by
  obtain ⟨-, -, -, htests⟩ := halving_eq_ok hl
  have htest := htests i hm
  rw [isBeforeAt_of_getElem? hi] at htest
  exact of_decide_eq_true (Except.ok.inj htest).symm

section

variable (h : SortedLine descending values) (ht : target.isOrdered = true)

include h ht

theorem nothingLost_iff (hc : AllComparable target values)
    (hf : values.findIdx? (hits target) = some i) (place : Nat) :
    NothingLost target values place ↔ place < i := by
  rw [NothingLost, firstFrom_of_comparable h ht _ (fun v hv => List.mem_of_mem_drop hv)
    (fun v hv => hc v (List.mem_of_mem_drop hv)), firstFrom_of_comparable h ht _ (fun v hv => hv) hc,
    hf, Except.ok.injEq, Option.map_some, Nat.zero_add, findIdx?_drop_eq_some_iff _ hf]
  exact Nat.succ_le_iff

theorem nothingLost_of_not_hits (hc : AllComparable target values)
    (hf : values.findIdx? (hits target) = none) (place : Nat) : NothingLost target values place := by
  have hnone := List.findIdx?_eq_none_iff.mp hf
  have hrest : (values.drop (place + 1)).findIdx? (hits target) = none :=
    List.findIdx?_eq_none_iff.mpr fun v hv => hnone v (List.mem_of_mem_drop hv)
  rw [NothingLost, firstFrom_of_comparable h ht _ (fun v hv => List.mem_of_mem_drop hv)
    (fun v hv => hc v (List.mem_of_mem_drop hv)), firstFrom_of_comparable h ht _ (fun v hv => hv) hc,
    hf, hrest]
  rfl

/-- Where a hit is before the boundary, the halving has looked at a blank behind it. -/
theorem exists_blank_of_lt_boundary
    (hl : halving target descending values = .ok boundary)
    (hlt : i < boundary) (hv : values[i]? = some v) (hve : v.isEmpty = false)
    (hvt : v.overflows target = true ∨ orderIn descending v target ≠ .lt) :
    boundary - 1 ∈ halvingProbes target descending values ∧
      values[boundary - 1]? = some .empty := by
  refine ⟨?_, empty_before_boundary h ht hl hlt hv hve hvt⟩
  rcases (halving_eq_ok hl).2.1 with h0 | hm
  · omega
  · exact hm

theorem binaryPosition_exact_of_not_hits (hc : AllComparable target values)
    (hf : values.findIdx? (hits target) = none) :
    binaryPosition values target .exact descending = .ok none := by
  obtain ⟨boundary, hl⟩ := exists_boundary h ht hc
  exact binaryPosition_of_miss hl (isHitAt_of_not_hits h ht hc hf boundary)

theorem binaryPosition_exact_eq_first_iff (hc : AllComparable target values)
    (hl : halving target descending values = .ok boundary)
    (hf : values.findIdx? (hits target) = some i) :
    binaryPosition values target .exact descending = .ok (some i) ↔ boundary = i := by
  have hat := isHitAt_of_comparable h ht hc boundary
  constructor
  · intro heq
    cases hfound : values[boundary]?.any (hits target) with
    | true =>
      rw [hfound] at hat
      rw [binaryPosition_of_hit hl hat] at heq
      exact Option.some.inj (Except.ok.inj heq)
    | false =>
      rw [hfound] at hat
      rw [binaryPosition_of_miss hl hat] at heq
      cases heq
  · rintro rfl
    exact binaryPosition_of_first_hit h ht .exact hc hl hf

/-- Where all values can be compared, the halving finds the first match just if it looks at no blank
behind that match. -/
theorem binary_eq_linear_iff_of_comparable (hc : AllComparable target values) :
    binaryPosition values target .exact descending = firstFrom (isHit false target) 0 values ↔
      ∀ m ∈ halvingProbes target descending values, values[m]? = some .empty →
        NothingLost target values m := by
  rw [firstFrom_of_comparable h ht 0 (fun v hv => hv) hc]
  cases hf : values.findIdx? (hits target) with
  | none =>
    rw [binaryPosition_exact_of_not_hits h ht hc hf]
    exact iff_of_true rfl fun m _ _ => nothingLost_of_not_hits h ht hc hf m
  | some first =>
    obtain ⟨boundary, hl⟩ := exists_boundary h ht hc
    obtain ⟨hlt, hhit, -⟩ := List.findIdx?_eq_some_iff_getElem.mp hf
    simp only [nothingLost_iff h ht hc hf]
    rw [Option.map_some, Nat.zero_add, binaryPosition_exact_eq_first_iff h ht hc hl hf]
    constructor
    · rintro rfl m hm hempty
      exact lt_boundary_of_empty hl hm hempty
    · intro hpassed
      refine boundary_eq_of_first_hit h ht hl hf ?_
      by_contra hgt
      have hvt : orderIn descending values[first] target ≠ .lt := by
        rw [orderIn_eq_iff.mpr (order_eq_of_hits hhit)]
        decide
      obtain ⟨hm, hempty⟩ := exists_blank_of_lt_boundary h ht hl (Nat.not_le.mp hgt)
        (List.getElem?_eq_getElem hlt) (isEmpty_eq_false_of_hits hhit) (.inr hvt)
      have := hpassed _ hm hempty
      omega

/-- A halving that overflows has looked at no blank behind the last value that cannot be compared
with the target. -/
theorem nothingLost_of_halving_eq_error {e : Fault}
    (hl : halving target descending values = .error e)
    (hm : i ∈ halvingProbes target descending values) (hi : values[i]? = some .empty) :
    NothingLost target values i := by
  obtain ⟨-, p, -, ⟨v, hv, hov⟩, htests⟩ := overflows_of_halving_eq_error h ht hl
  have hlt : i < p := by
    rcases htests i hm with rfl | htest
    · rw [hi] at hv
      cases hv
      cases hov
    · rw [isBeforeAt_of_getElem? hi] at htest
      exact of_decide_eq_true (Except.ok.inj htest).symm
  have hrest : v ∈ values.drop (i + 1) := by
    rw [List.mem_iff_getElem?]
    exact ⟨p - (i + 1), by rwa [List.getElem?_drop, Nat.add_sub_cancel' hlt]⟩
  rw [NothingLost, firstFrom_of_overflows h ht 0 (fun w hw => hw) (List.mem_of_getElem? hv) hov]
  exact firstFrom_of_overflows h ht _ (fun w hw => List.mem_of_mem_drop hw) hrest hov

/-- A halving that ends although some value cannot be compared with the target has passed over all
such values at a blank. -/
theorem not_nothingLost_of_halving_eq_ok
    (hl : halving target descending values = .ok boundary)
    (hv : v ∈ values) (hov : v.overflows target = true) :
    ∃ m ∈ halvingProbes target descending values,
      values[m]? = some .empty ∧ ¬ NothingLost target values m := by
  obtain ⟨j, hj⟩ := List.mem_iff_getElem?.mp hv
  have hlt := lt_boundary_of_overflows h ht hl hj hov
  obtain ⟨hm, hempty⟩ := exists_blank_of_lt_boundary h ht hl hlt hj (isEmpty_of_overflows hov)
    (.inl hov)
  refine ⟨boundary - 1, hm, hempty, fun hlost => ?_⟩
  have hrest : AllComparable target (values.drop (boundary - 1 + 1)) := by
    intro u hu
    obtain ⟨k, hk⟩ := List.mem_iff_getElem?.mp hu
    rw [List.getElem?_drop] at hk
    rw [← Bool.not_eq_true]
    intro huo
    have := lt_boundary_of_overflows h ht hl hk huo
    omega
  rw [NothingLost, firstFrom_of_overflows h ht 0 (fun w hw => hw) hv hov, firstFrom_of_comparable h ht _
    (fun u hu => List.mem_of_mem_drop hu) hrest] at hlost
  cases hlost

/-- The halving finds what the search from the first value finds just if it loses nothing at the
blanks that it looks at. -/
theorem binary_eq_linear_iff :
    binaryPosition values target .exact descending = firstFrom (isHit false target) 0 values ↔
      ∀ m ∈ halvingProbes target descending values, values[m]? = some .empty →
        NothingLost target values m := by
  by_cases hc : AllComparable target values
  · exact binary_eq_linear_iff_of_comparable h ht hc
  · obtain ⟨v, hv, hov⟩ := exists_overflows hc
    cases hl : halving target descending values with
    | error e =>
      obtain ⟨rfl, -⟩ := overflows_of_halving_eq_error h ht hl
      rw [binaryPosition_of_error hl, firstFrom_of_overflows h ht 0 (fun w hw => hw) hv hov]
      exact iff_of_true rfl fun m hm hempty => nothingLost_of_halving_eq_error h ht hl hm hempty
    | ok boundary =>
      obtain ⟨m, hm, hempty, hlost⟩ := not_nothingLost_of_halving_eq_ok h ht hl hv hov
      obtain ⟨found, hfound⟩ := exists_binaryPosition h ht .exact hl
      rw [hfound, firstFrom_of_overflows h ht 0 (fun w hw => hw) hv hov]
      exact iff_of_false (fun heq => by cases heq) fun hpassed => hlost (hpassed m hm hempty)

end

/-- On sorted data with blanks, an exact match by halving gives the answer of the match from the
first value just if no blank that the halving looks at hides one: a search behind that blank finds
what a search of the whole line finds. -/
theorem match_sorted_eq_match_linear_iff (h : SortedLine descending values)
    (ht : target.isOrdered = true) :
    matchPositionBy target (.array values) (.ofInt 0) (.ofInt (if descending then -2 else 2)) =
        matchPositionBy target (.array values) (.ofInt 0) (.ofInt 1) ↔
      ∀ m ∈ halvingProbes target descending values, values[m]? = some .empty →
        NothingLost target values m := by
  have harray : ∀ v ∈ values, v.kind? ≠ some .array := by
    intro v hv
    cases hve : v.isEmpty with
    | true =>
      rw [eq_empty_of_isEmpty hve]
      decide
    | false => exact kind?_ne_array (h.isOrdered v hv hve)
  have hlinear := linearPosition_exact values target
  rw [match_binary_eq_match_linear_iff ht harray rfl (by decide)
    (fun e he => binaryPosition_eq_error h ht he)
    (fun e he => firstFrom_eq_overflow h ht (hlinear.symm.trans he)), hlinear]
  exact binary_eq_linear_iff h ht

/-- The halving looks at the blank in the middle first and misses the match in front of it. -/
theorem match_sorted_ne_match_linear_of_blank :
    SortedLine false [ofInt 1, .empty, .empty] ∧
      matchPositionBy (.ofInt 1) (.array [ofInt 1, .empty, .empty]) (.ofInt 0) (.ofInt 2) ≠
        matchPositionBy (.ofInt 1) (.array [ofInt 1, .empty, .empty]) (.ofInt 0) (.ofInt 1) := by
  have h : SortedLine false [ofInt 1, .empty, .empty] := by
    refine ⟨fun v hv hve => ?_, List.pairwise_singleton _ (ofInt 1)⟩
    simp only [List.mem_cons, List.not_mem_nil, or_false] at hv
    rcases hv with rfl | rfl | rfl
    · rfl
    · cases hve
    · cases hve
  refine ⟨h, fun heq => ?_⟩
  have hprobe : 1 ∈ halvingProbes (ofInt 1) false [ofInt 1, .empty, .empty] := by
    rw [halvingProbes, probes_of_lt (by decide)]
    exact List.mem_cons_self
  have hlost := (@match_sorted_eq_match_linear_iff false _ _ h rfl).mp heq 1 hprobe rfl
  have hone : (ofInt 1).compare (ofInt 1) = .ok (.order .eq) :=
    compare_ofInt (Number.lt_two_pow (by decide) (by decide)) (Number.lt_two_pow (by decide) (by decide))
  have hhit : isHit false (ofInt 1) (ofInt 1) = .ok true := by
    show (ofInt 1).equal (ofInt 1) = _
    rw [equal, hone]
    rfl
  rw [NothingLost, firstFrom, hhit] at hlost
  cases hlost

end SheetFormulas.Lookup
