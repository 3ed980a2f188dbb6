import SheetFormulas.Lookup.Position
import SheetFormulas.Proofs.Lookup.Halving
import SheetFormulas.Proofs.Lookup.Linear

/-!
How the search of sorted data reads its answer off the boundary that the halving ends at.
-/

namespace SheetFormulas.Lookup

variable {target : Value} {mode : MatchMode} {descending : Bool} {values : List Value}

/-- The test of the halving: whether the value at a place comes before the target. -/
def isBeforeAt (target : Value) (descending : Bool) (values : List Value) (i : Nat) :
    Outcome Bool :=
  isBefore target descending (values[i]?.getD .empty)

/-- Where the halving of a line ends. -/
def halving (target : Value) (descending : Bool) (values : List Value) : Outcome Nat :=
  lowerBound (isBeforeAt target descending values) 0 values.length

/-- The places that the halving of a line looks at. -/
def halvingProbes (target : Value) (descending : Bool) (values : List Value) : List Nat :=
  probes (isBeforeAt target descending values) 0 values.length

/-- The place next to the boundary that a mode takes its nearest value from. -/
def beside (mode : MatchMode) (descending : Bool) (boundary length : Nat) : Option Nat :=
  let after := if boundary < length then some boundary else none
  let before := if 0 < boundary then some (boundary - 1) else none
  match mode with
  | .nextSmaller => if descending then after else before
  | .nextLarger => if descending then before else after
  | _ => none

/-- Whether the value at a place, if there is one, is a hit. -/
def isHitAt (target : Value) (values : List Value) (i : Nat) : Outcome Bool :=
  match values[i]? with
  | some candidate => isHit false target candidate
  | none => .ok false

/-- The search mode of sorted data. -/
def binaryMode (descending : Bool) : SearchMode :=
  if descending then .binaryDescending else .binaryAscending

theorem findPosition_binary (descending : Bool) (h : mode ≠ .wildcard) :
    findPosition values target mode (binaryMode descending) =
      binaryPosition values target mode descending := by
  cases descending <;> exact if_neg h

theorem isBeforeAt_of_getElem? {i : Nat} {v : Value} (h : values[i]? = some v) :
    isBeforeAt target descending values i = isBefore target descending v := by
  rw [isBeforeAt, h, Option.getD_some]

theorem isHitAt_of_getElem? {i : Nat} {v : Value} (h : values[i]? = some v) :
    isHitAt target values i = isHit false target v := by
  rw [isHitAt, h]

theorem binaryPosition_eq (values : List Value) (target : Value) (mode : MatchMode)
    (descending : Bool) :
    binaryPosition values target mode descending = (do
      let boundary ← halving target descending values
      if ← isHitAt target values boundary then return some boundary
      else return beside mode descending boundary values.length) := by
  unfold binaryPosition
  simp only [List.getElem?_toArray, List.size_toArray]
  congr 1
  funext boundary
  unfold isHitAt
  cases values[boundary]? with
  | none => cases mode <;> rfl
  | some v =>
    dsimp only
    congr 1
    funext found
    cases found <;> cases mode <;> rfl

theorem binaryPosition_of_error {e : Fault}
    (h : halving target descending values = .error e) :
    binaryPosition values target mode descending = .error e := by
  rw [binaryPosition_eq, h]
  rfl

theorem binaryPosition_of_hit {boundary : Nat}
    (h : halving target descending values = .ok boundary)
    (hh : isHitAt target values boundary = .ok true) :
    binaryPosition values target mode descending = .ok (some boundary) := by
  rw [binaryPosition_eq, h, Outcome.ok_bind, hh]
  rfl

theorem binaryPosition_of_miss {boundary : Nat}
    (h : halving target descending values = .ok boundary)
    (hh : isHitAt target values boundary = .ok false) :
    binaryPosition values target mode descending =
      .ok (beside mode descending boundary values.length) := by
  rw [binaryPosition_eq, h, Outcome.ok_bind, hh]
  rfl

/-- A halving that ends has looked at both sides of its end, and what it looked at is on the side that
its test says. -/
theorem halving_eq_ok {boundary : Nat} (h : halving target descending values = .ok boundary) :
    boundary ≤ values.length ∧
      (boundary = 0 ∨ boundary - 1 ∈ halvingProbes target descending values) ∧
      (boundary = values.length ∨ boundary ∈ halvingProbes target descending values) ∧
      ∀ m ∈ halvingProbes target descending values,
        isBeforeAt target descending values m = .ok (decide (m < boundary)) :=
  (lowerBound_eq_ok (Nat.zero_le _) h).2

/-- The two places at the boundary: the last value before it comes before the target, and the first
one after it does not. -/
theorem boundary_sides {boundary : Nat} (h : halving target descending values = .ok boundary) :
    boundary ≤ values.length ∧
      (0 < boundary → isBeforeAt target descending values (boundary - 1) = .ok true) ∧
      (boundary < values.length → isBeforeAt target descending values boundary = .ok false) := by
  obtain ⟨hle, hbefore, hafter, htests⟩ := halving_eq_ok h
  refine ⟨hle, fun hpos => ?_, fun hlt => ?_⟩
  · rcases hbefore with h0 | hm
    · omega
    · rw [htests _ hm, decide_eq_true (by omega)]
  · rcases hafter with hn | hm
    · omega
    · rw [htests _ hm, decide_eq_false (by omega)]

end SheetFormulas.Lookup
