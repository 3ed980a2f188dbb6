import SheetFormulas.Lookup.Exact

/-!
Searches for the nearest value where none is equal: a scan of sorted data, and a search of data in
any order. Empty values, error values and values of another type than the target never take part.
-/

namespace SheetFormulas.Lookup

/-- Whether a candidate is of the type of the target. -/
def isComparable (target candidate : Value) : Outcome Bool :=
  if !isPresent candidate then .ok false
  else do return (← candidate.kind) == (← target.kind)

/-- Scans values that are assumed sorted, from position `start` on: the last position up to the
first value on the wrong side of the target. `best` is the last position found before. -/
def scanFrom (target : Value) (descending : Bool) (best : Option Nat) (start : Nat) :
    List Value → Outcome (Option Nat)
  | [] => .ok best
  | candidate :: rest => do
    if ← isComparable target candidate then
      match ← candidate.compare target with
      | .error kind => refuse (.carried kind)
      | .order o =>
        if o = .eq ∨ o = (if descending then .gt else .lt) then
          scanFrom target descending (some start) (start + 1) rest
        else return best
    else scanFrom target descending best (start + 1) rest

/-- The position of the last value not above the target in ascending data, or not below it in
descending data. -/
def scanSorted (line : List Value) (target : Value) (descending : Bool) : Outcome (Option Nat) :=
  scanFrom target descending none 0 line

/-- Whether a value replaces the best one found so far: it is on the wanted side of the target, and
nearer than the best one. -/
def improves (target : Value) (wanted : Ordering) (best : Option (Nat × Value))
    (candidate : Value) : Outcome Bool := do
  if !(← isComparable target candidate) then return false
  else if !(← candidate.compare target).is wanted then return false
  else
    match best with
    | none => return true
    | some (_, nearest) => return (← candidate.compare nearest).is wanted.swap

/-- The nearest value on the wanted side of the target, from position `start` on. -/
def nearestFrom (target : Value) (wanted : Ordering) (best : Option (Nat × Value)) (start : Nat) :
    List Value → Outcome (Option Nat)
  | [] => .ok (best.map (·.1))
  | candidate :: rest => do
    let best := if ← improves target wanted best candidate then some (start, candidate) else best
    nearestFrom target wanted best (start + 1) rest

/-- The position of the greatest value below the target (`wanted` is `lt`) or of the least value
above it (`gt`), in data of any order. Of equal ones the first in the direction of the search is
taken. -/
def nearestPosition (line : List Value) (target : Value) (wanted : Ordering) (backward : Bool) :
    Outcome (Option Nat) :=
  inDirection backward (nearestFrom target wanted none 0) line

end SheetFormulas.Lookup
