import SheetFormulas.Proofs.Lookup.Boundary

/-!
What a reported position holds. Every search that looks at the value it reports leaves out empty and
error values. A nearest value in sorted data is reported unseen, and there they can slip in.
-/

namespace SheetFormulas.Lookup

/-- Whether a search can report this value although it takes no part in any search: those values
that the halving puts on the side which the mode reads, without a look at what it reports. -/
def slipsIn : MatchMode → SearchMode → Value → Bool
  | .nextSmaller, .binaryAscending, v => v.isEmpty
  | .nextLarger, .binaryAscending, v => v.isError
  | .nextLarger, .binaryDescending, v => v.isEmpty || v.isError
  | _, _, _ => false

theorem isBefore_empty (target : Value) (descending : Bool) :
    isBefore target descending .empty = .ok true := rfl

theorem isBefore_error (target : Value) (descending : Bool) (kind : ErrorKind) :
    isBefore target descending (.error kind) = .ok descending := rfl

theorem isPresent_or (v : Value) :
    isPresent v = true ∨ v = .empty ∨ ∃ kind, v = .error kind := by
  cases v with
  | empty => exact .inr (.inl rfl)
  | error kind => exact .inr (.inr ⟨kind, rfl⟩)
  | _ => exact .inl rfl

/-- The value just before the boundary is present, or empty, or an error value in descending data. -/
theorem before_boundary {target v : Value} {descending : Bool}
    (h : isBefore target descending v = .ok true) :
    isPresent v = true ∨ v.isEmpty = true ∨ (descending = true ∧ v.isError = true) := by
  rcases isPresent_or v with hp | rfl | ⟨kind, rfl⟩
  · exact .inl hp
  · exact .inr (.inl rfl)
  · rw [isBefore_error] at h
    exact .inr (.inr ⟨Except.ok.inj h, rfl⟩)

/-- The value just after the boundary is present, or an error value in ascending data. -/
theorem after_boundary {target v : Value} {descending : Bool}
    (h : isBefore target descending v = .ok false) :
    isPresent v = true ∨ (descending = false ∧ v.isError = true) := by
  rcases isPresent_or v with hp | rfl | ⟨kind, rfl⟩
  · exact .inl hp
  · rw [isBefore_empty] at h
    cases h
  · rw [isBefore_error] at h
    exact .inr ⟨Except.ok.inj h, rfl⟩

theorem linearPosition_present {values : List Value} {target : Value} {mode : MatchMode}
    {backward : Bool} {position : Nat}
    (h : linearPosition values target mode backward = .ok (some position)) :
    ∃ v, values[position]? = some v ∧ isPresent v = true := by
  obtain ⟨hit, hh, h⟩ := Outcome.bind_eq_ok_iff.mp h
  cases hit with
  | some found =>
    cases h
    exact exactPosition_eq_some hh
  | none =>
    cases mode with
    | nextSmaller =>
      obtain ⟨v, hv, hc⟩ := nearestPosition_eq_some h
      exact ⟨v, hv, isPresent_of_isComparable hc⟩
    | nextLarger =>
      obtain ⟨v, hv, hc⟩ := nearestPosition_eq_some h
      exact ⟨v, hv, isPresent_of_isComparable hc⟩
    | exact => cases h
    | wildcard => cases h

theorem getElem?_before {values : List Value} {target : Value} {descending : Bool}
    {boundary position : Nat}
    (hl : halving target descending values = .ok boundary)
    (h : (if 0 < boundary then some (boundary - 1) else none) = some position) :
    ∃ v, values[position]? = some v ∧
      (isPresent v = true ∨ v.isEmpty = true ∨ (descending = true ∧ v.isError = true)) := by
  obtain ⟨hle, hbefore, -⟩ := boundary_sides hl
  obtain ⟨hpos, hp⟩ := Option.ite_none_right_eq_some.mp h
  cases hp
  have hv := List.getElem?_eq_getElem (show boundary - 1 < values.length by omega)
  have ht := hbefore hpos
  rw [isBeforeAt_of_getElem? hv] at ht
  exact ⟨_, hv, before_boundary ht⟩

theorem getElem?_after {values : List Value} {target : Value} {descending : Bool}
    {boundary position : Nat}
    (hl : halving target descending values = .ok boundary)
    (h : (if boundary < values.length then some boundary else none) = some position) :
    ∃ v, values[position]? = some v ∧
      (isPresent v = true ∨ (descending = false ∧ v.isError = true)) := by
  obtain ⟨-, -, hafter⟩ := boundary_sides hl
  obtain ⟨hlt, hp⟩ := Option.ite_none_right_eq_some.mp h
  cases hp
  have hv := List.getElem?_eq_getElem hlt
  have ht := hafter hlt
  rw [isBeforeAt_of_getElem? hv] at ht
  exact ⟨_, hv, after_boundary ht⟩

theorem beside_present_or_slipsIn {values : List Value} {target : Value} {mode : MatchMode}
    {descending : Bool} {boundary position : Nat}
    (hl : halving target descending values = .ok boundary)
    (h : beside mode descending boundary values.length = some position) :
    ∃ v, values[position]? = some v ∧
      (isPresent v = true ∨ slipsIn mode (binaryMode descending) v = true) := by
  cases mode with
  | nextSmaller =>
    cases descending with
    | false =>
      obtain ⟨v, hv, hs⟩ := getElem?_before hl h
      exact ⟨v, hv, by simpa [slipsIn, binaryMode] using hs⟩
    | true =>
      obtain ⟨v, hv, hs⟩ := getElem?_after hl h
      exact ⟨v, hv, by simpa [slipsIn, binaryMode] using hs⟩
  | nextLarger =>
    cases descending with
    | false =>
      obtain ⟨v, hv, hs⟩ := getElem?_after hl h
      exact ⟨v, hv, by simpa [slipsIn, binaryMode] using hs⟩
    | true =>
      obtain ⟨v, hv, hs⟩ := getElem?_before hl h
      exact ⟨v, hv, by simpa [slipsIn, binaryMode] using hs⟩
  | exact => cases h
  | wildcard => cases h

theorem isHitAt_eq_true {target : Value} {values : List Value} {i : Nat}
    (h : isHitAt target values i = .ok true) : ∃ v, values[i]? = some v ∧ isPresent v = true := by
  unfold isHitAt at h
  split at h
  · next v hv => exact ⟨v, hv, isPresent_of_isHit h⟩
  · cases h

/-- Whether a place is reported unseen: the halving of sorted data ends beside it without a hit. -/
def IsReadUnseen (values : List Value) (target : Value) (mode : MatchMode) (search : SearchMode)
    (position : Nat) : Prop :=
  ∃ descending boundary, search = binaryMode descending ∧
    halving target descending values = .ok boundary ∧
    isHitAt target values boundary = .ok false ∧
    beside mode descending boundary values.length = some position

theorem present_or_slipsIn_of_isReadUnseen {values : List Value} {target : Value} {mode : MatchMode}
    {search : SearchMode} {position : Nat} (h : IsReadUnseen values target mode search position) :
    ∃ v, values[position]? = some v ∧ (isPresent v = true ∨ slipsIn mode search v = true) := by
  obtain ⟨descending, boundary, rfl, hl, -, hb⟩ := h
  exact beside_present_or_slipsIn hl hb

theorem findPosition_of_isReadUnseen {values : List Value} {target : Value} {mode : MatchMode}
    {search : SearchMode} {position : Nat} (h : IsReadUnseen values target mode search position) :
    findPosition values target mode search = .ok (some position) := by
  obtain ⟨descending, boundary, rfl, hl, hf, hb⟩ := h
  have hm : mode ≠ .wildcard := by
    rintro rfl
    cases hb
  rw [findPosition_binary descending hm, binaryPosition_of_miss hl hf, hb]

theorem binaryPosition_present_or_isReadUnseen {values : List Value} {target : Value}
    {mode : MatchMode} {descending : Bool} {position : Nat}
    (h : binaryPosition values target mode descending = .ok (some position)) :
    (∃ v, values[position]? = some v ∧ isPresent v = true) ∨
      IsReadUnseen values target mode (binaryMode descending) position := by
  rw [binaryPosition_eq] at h
  obtain ⟨boundary, hl, h⟩ := Outcome.bind_eq_ok_iff.mp h
  obtain ⟨found, hf, h⟩ := Outcome.bind_eq_ok_iff.mp h
  cases found with
  | true =>
    cases h
    exact .inl (isHitAt_eq_true hf)
  | false => exact .inr ⟨descending, boundary, rfl, hl, hf, Except.ok.inj h⟩

theorem findPosition_present_or_isReadUnseen {values : List Value} {target : Value}
    {mode : MatchMode} {search : SearchMode} {position : Nat}
    (h : findPosition values target mode search = .ok (some position)) :
    (∃ v, values[position]? = some v ∧ isPresent v = true) ∨
      IsReadUnseen values target mode search position := by
  have binary (descending : Bool)
      (hb : findPosition values target mode (binaryMode descending) = .ok (some position)) :
      (∃ v, values[position]? = some v ∧ isPresent v = true) ∨
        IsReadUnseen values target mode (binaryMode descending) position := by
    have hm : mode ≠ .wildcard := by
      rintro rfl
      cases descending <;> cases hb
    rw [findPosition_binary descending hm] at hb
    exact binaryPosition_present_or_isReadUnseen hb
  cases search with
  | firstToLast => exact .inl (linearPosition_present h)
  | lastToFirst => exact .inl (linearPosition_present h)
  | binaryAscending => exact binary false h
  | binaryDescending => exact binary true h

theorem isPresent_eq_false_of_slipsIn {mode : MatchMode} {search : SearchMode} {v : Value}
    (h : slipsIn mode search v = true) : isPresent v = false := by
  cases mode <;> cases search <;> cases v <;> first | rfl | cases h

/-- Every position that a search reports is inside the line and holds a value that is neither empty
nor an error value, just if no value slips in at a place that the search reads unseen. -/
theorem reports_present_iff (values : List Value) (target : Value) (mode : MatchMode)
    (search : SearchMode) :
    (∀ position, findPosition values target mode search = .ok (some position) →
      ∃ v, values[position]? = some v ∧ isPresent v = true) ↔
      ∀ position v, IsReadUnseen values target mode search position →
        values[position]? = some v → slipsIn mode search v = false := by
  constructor
  · intro hall position v hunseen hv
    obtain ⟨w, hw, hp⟩ := hall position (findPosition_of_isReadUnseen hunseen)
    rw [hv] at hw
    cases hw
    rw [← Bool.not_eq_true]
    intro hs
    rw [isPresent_eq_false_of_slipsIn hs] at hp
    cases hp
  · intro hnone position h
    rcases findPosition_present_or_isReadUnseen h with hp | hunseen
    · exact hp
    · obtain ⟨v, hv, hp | hs⟩ := present_or_slipsIn_of_isReadUnseen hunseen
      · exact ⟨v, hv, hp⟩
      · rw [hnone position v hunseen hv] at hs
        cases hs

/-- A search for the next smaller value reads the place of a lone blank unseen. -/
theorem not_reports_present_of_blank :
    IsReadUnseen [.empty] (.ofInt 0) .nextSmaller .binaryAscending 0 ∧
      ¬ ∀ position, findPosition [.empty] (.ofInt 0) .nextSmaller .binaryAscending =
          .ok (some position) → ∃ v, [Value.empty][position]? = some v ∧ isPresent v = true := by
  have htest : isBeforeAt (.ofInt 0) false [.empty] 0 = .ok true := rfl
  have hl : lowerBound (isBeforeAt (.ofInt 0) false [.empty]) 0 1 = .ok 1 := by
    simp [lowerBound_of_lt, lowerBound_of_le, htest]
  have hunseen : IsReadUnseen [.empty] (.ofInt 0) .nextSmaller .binaryAscending 0 :=
    ⟨false, 1, rfl, hl, rfl, rfl⟩
  refine ⟨hunseen, fun hall => ?_⟩
  have hslips := (reports_present_iff _ _ _ _).mp hall 0 .empty hunseen rfl
  cases hslips

/-- Every value that can slip in does so where it is alone on its line. -/
theorem findPosition_of_slipsIn {mode : MatchMode} {search : SearchMode} {v : Value}
    (h : slipsIn mode search v = true) :
    findPosition [v] (.ofInt 0) mode search = .ok (some 0) := by
  have alone (descending isBeforeTarget : Bool)
      (ht : isBefore (.ofInt 0) descending v = .ok isBeforeTarget)
      (hb : beside mode descending (if isBeforeTarget then 1 else 0) 1 = some 0) :
      findPosition [v] (.ofInt 0) mode (binaryMode descending) = .ok (some 0) := by
    have htest : isBeforeAt (.ofInt 0) descending [v] 0 = .ok isBeforeTarget := ht
    refine findPosition_of_isReadUnseen ⟨descending, if isBeforeTarget then 1 else 0, rfl, ?_, ?_, hb⟩
    · show lowerBound (isBeforeAt (.ofInt 0) descending [v]) 0 1 = _
      cases isBeforeTarget <;> simp [lowerBound_of_lt, lowerBound_of_le, htest]
    · cases isBeforeTarget <;> simp [isHitAt, isHit, isPresent_eq_false_of_slipsIn h]
  cases mode <;> cases search <;> cases v <;>
    simp only [slipsIn, Value.isEmpty, Value.isError, Bool.or_true, Bool.or_false,
      Bool.false_eq_true] at h
  case nextSmaller.binaryAscending.empty => exact alone false true rfl rfl
  case nextLarger.binaryAscending.error => exact alone false false rfl rfl
  case nextLarger.binaryDescending.empty => exact alone true true rfl rfl
  case nextLarger.binaryDescending.error => exact alone true true rfl rfl

end SheetFormulas.Lookup
