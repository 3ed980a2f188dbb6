import SheetFormulas.Lookup.Keyed
import SheetFormulas.Proofs.Lookup.SortedLine
import SheetFormulas.Proofs.Value.Coercion

/-!
The match function on a line of single values, by the position that the search of the line finds.
-/

namespace SheetFormulas.Lookup

open Value

variable {values : List Value} {target : Value} {mode : MatchMode} {search : SearchMode}

theorem natAbs_le_of_matchMode {n : Int} (h : MatchMode.ofInt? n = some mode) : n.natAbs ≤ 2 := by
  unfold MatchMode.ofInt? at h
  split at h <;> first | decide | cases h

theorem natAbs_le_of_searchMode {n : Int} (h : SearchMode.ofInt? n = some search) :
    n.natAbs ≤ 2 := by
  unfold SearchMode.ofInt? at h
  split at h <;> first | decide | cases h

theorem toInt_small {n : Int} (h : n.natAbs ≤ 2) : (ofInt n).toInt = .ok n :=
  toInt_ofInt n (Number.lt_two_pow (by omega) (by decide))

/-- Two numbers that name modes are read as these modes. -/
theorem modesOf_ofInt {m s : Int} (hm : MatchMode.ofInt? m = some mode)
    (hs : SearchMode.ofInt? s = some search) :
    modesOf (.ofInt m) (.ofInt s) = .ok (mode, search) := by
  unfold modesOf
  rw [toInt_small (natAbs_le_of_matchMode hm), toInt_small (natAbs_le_of_searchMode hs)]
  simp only [Outcome.ok_bind, hm, hs, Outcome.pure_eq]

theorem lineOf_array (h : ∀ v ∈ values, v.kind? ≠ some .array) :
    lineOf (.array values) = .ok values := by
  cases values with
  | nil => rfl
  | cons v rest =>
    have hv := h v (List.mem_cons_self ..)
    cases v <;> first | rfl | exact absurd rfl hv

theorem single_of_isOrdered (h : target.isOrdered = true) : single target = .ok target := by
  cases target <;> first | rfl | cases h

/-- The match function answers with the place of what the search of the line finds. -/
theorem matchPositionBy_array {m s : Int} (ht : target.isOrdered = true)
    (h : ∀ v ∈ values, v.kind? ≠ some .array) (hm : MatchMode.ofInt? m = some mode)
    (hs : SearchMode.ofInt? s = some search) :
    matchPositionBy target (.array values) (.ofInt m) (.ofInt s) =
      (positionAmong values target mode search >>= positionFound target) := by
  unfold matchPositionBy
  rw [single_of_isOrdered ht, modesOf_ofInt hm hs, lineOf_array h]
  rfl

/-- A search of all values for anything but a pattern first looks for a hit. -/
theorem linearPosition_eq (values : List Value) (target : Value) (h : mode ≠ .wildcard) :
    linearPosition values target mode false =
      (firstFrom (isHit false target) 0 values >>= fun hit =>
        match hit, mode with
        | some position, _ => .ok (some position)
        | none, .nextSmaller => nearestPosition values target .lt false
        | none, .nextLarger => nearestPosition values target .gt false
        | none, _ => .ok none) := by
  have hw : (mode == .wildcard && isText target) = false := by
    rw [beq_eq_false_iff_ne.mpr h, Bool.false_and]
  unfold linearPosition
  rw [hw]
  rfl

theorem findPosition_nil (h : mode ≠ .wildcard) : findPosition [] target mode search = .ok none := by
  have binary (descending : Bool) : binaryPosition [] target mode descending = .ok none := by
    have hl : lowerBound (isBeforeAt target descending []) 0 0 = .ok 0 := lowerBound_of_le (le_refl 0)
    rw [binaryPosition_of_miss hl rfl]
    cases mode <;> cases descending <;> rfl
  cases search with
  | binaryAscending => exact (if_neg h).trans (binary false)
  | binaryDescending => exact (if_neg h).trans (binary true)
  | _ => cases mode <;> rfl

/-- Only for a wildcard in an empty line is there a difference. -/
theorem positionAmong_eq (h : mode ≠ .wildcard) :
    positionAmong values target mode search = findPosition values target mode search := by
  cases values with
  | nil => exact (findPosition_nil h).symm
  | cons v rest => rfl

theorem refuseNotFound_bind {α β : Type} (target : Value) (next : α → Outcome β) :
    refuseNotFound target >>= next = refuseNotFound target := by
  unfold refuseNotFound
  cases target.shown <;> rfl

/-- A message about a value that was not found can be written, or the value has too many digits. -/
theorem refuseNotFound_ne_overflow {α : Type} (ht : target.isOrdered = true) :
    ∃ e, (refuseNotFound target : Outcome α) = .error e ∧ e ≠ .failure .overflow := by
  have hs : (∃ s, target.shown = .ok s) ∨ target.shown = fail .invalid := by
    cases target with
    | number n =>
      cases n with
      | int n =>
        rw [shown, Number.shown, Number.intText]
        split
        · exact .inl ⟨_, rfl⟩
        · exact .inr rfl
      | float x => exact .inl ⟨_, rfl⟩
    | text s => exact .inl ⟨_, rfl⟩
    | bool b => cases b <;> exact .inl ⟨_, rfl⟩
    | _ => cases ht
  unfold refuseNotFound
  rcases hs with ⟨s, hs⟩ | hs
  · rw [hs]
    exact ⟨_, rfl, fun heq => by cases heq⟩
  · rw [hs]
    exact ⟨_, rfl, fun heq => by cases heq⟩

/-- Two searches that only fail by overflow give the same answer just if they find the same. -/
theorem positionFound_inj {x y : Outcome (Option Nat)} (ht : target.isOrdered = true)
    (hx : ∀ e, x = .error e → e = .failure .overflow)
    (hy : ∀ e, y = .error e → e = .failure .overflow) :
    (x >>= positionFound target) = (y >>= positionFound target) ↔ x = y := by
  obtain ⟨e, he, hne⟩ := @refuseNotFound_ne_overflow target Nat ht
  have hnone : positionFound target none = .error e := he
  refine ⟨fun h => ?_, fun h => by rw [h]⟩
  rcases x with ex | _ | p <;> rcases y with ey | _ | q
  · rw [hx ex rfl, hy ey rfl]
  · rw [Outcome.error_bind, Outcome.ok_bind, hnone, hx ex rfl] at h
    exact absurd (Except.error.inj h).symm hne
  · cases h
  · rw [Outcome.error_bind, Outcome.ok_bind, hnone, hy ey rfl] at h
    exact absurd (Except.error.inj h) hne
  · rfl
  · rw [Outcome.ok_bind, hnone] at h
    cases h
  · cases h
  · rw [Outcome.ok_bind, Outcome.ok_bind, hnone] at h
    cases h
  · have hp := Nat.succ.inj (Except.ok.inj h)
    rw [hp]

/-- The match function gives one answer in its search mode for sorted data and in the one from the
first value just if both searches find the same. -/
theorem match_binary_eq_match_linear_iff {descending : Bool} {m : Int}
    (ht : target.isOrdered = true) (h : ∀ v ∈ values, v.kind? ≠ some .array)
    (hm : MatchMode.ofInt? m = some mode) (hw : mode ≠ .wildcard)
    (hbinary : ∀ e, binaryPosition values target mode descending = .error e →
      e = .failure .overflow)
    (hlinear : ∀ e, linearPosition values target mode false = .error e → e = .failure .overflow) :
    matchPositionBy target (.array values) (.ofInt m) (.ofInt (if descending then -2 else 2)) =
        matchPositionBy target (.array values) (.ofInt m) (.ofInt 1) ↔
      binaryPosition values target mode descending = linearPosition values target mode false := by
  have hs : SearchMode.ofInt? (if descending then -2 else 2) = some (binaryMode descending) := by
    cases descending <;> rfl
  have hfirst : SearchMode.ofInt? 1 = some .firstToLast := rfl
  rw [matchPositionBy_array ht h hm hs, matchPositionBy_array ht h hm hfirst, positionAmong_eq hw,
    positionAmong_eq hw, findPosition_binary _ hw, findPosition, positionFound_inj ht hbinary hlinear]

end SheetFormulas.Lookup
