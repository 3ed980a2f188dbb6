import SheetFormulas.Lookup.Exact

/-!
Binary search. `lowerBound` halves a range until it finds the place where a test turns false; the
search of a line reads its answer off that place.
-/

namespace SheetFormulas.Lookup

/-- The first place in `[low, high)` where the test is false, if it is true before some place and
false from there on; `high` if it is true everywhere. -/
def lowerBound (test : Nat → Outcome Bool) (low high : Nat) : Outcome Nat :=
  if low < high then do
    let middle := (low + high) / 2
    if ← test middle then lowerBound test (middle + 1) high else lowerBound test low middle
  else .ok low
termination_by high - low
decreasing_by
  · have : low ≤ (low + high) / 2 := by omega
    omega
  · have : (low + high) / 2 < high := by omega
    omega

/-- What is wanted where no value is equal to the target. -/
inductive MatchMode where
  | nextSmaller
  | exact
  | nextLarger
  | wildcard
  deriving DecidableEq

/-- Whether a candidate comes before the target in the order of the data. Empty values are stepped
over, and an error value counts as greater than any target. -/
def isBefore (target : Value) (descending : Bool) (candidate : Value) : Outcome Bool :=
  match candidate with
  | .empty => .ok true
  | _ => do
    match ← candidate.compare target with
    | .error _ => return descending
    | .order o => return o == (if descending then .gt else .lt)

/-- The position in sorted data. An exact hit is the first of its equals; a nearest value is read
off the boundary between the values before the target and the others. -/
def binaryPosition (line : List Value) (target : Value) (mode : MatchMode) (descending : Bool) :
    Outcome (Option Nat) := do
  let values := line.toArray
  let test (i : Nat) : Outcome Bool := isBefore target descending (values[i]?.getD .empty)
  let boundary ← lowerBound test 0 values.size
  let after := if boundary < values.size then some boundary else none
  let before := if 0 < boundary then some (boundary - 1) else none
  let found ←
    match values[boundary]? with
    | some candidate => isHit false target candidate
    | none => pure false
  if found then return some boundary
  else
    match mode with
    | .nextSmaller => return if descending then after else before
    | .nextLarger => return if descending then before else after
    | _ => return none

end SheetFormulas.Lookup
