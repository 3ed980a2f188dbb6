import SheetFormulas.Value.Comparison
import SheetFormulas.Wildcard

/-!
Linear search for a value in a line of values. Positions count from zero.
-/

namespace SheetFormulas.Lookup

/-- Whether a candidate takes part in a search at all: it is neither empty nor an error value. -/
def isPresent : Value → Bool
  | .empty => false
  | .error _ => false
  | _ => true

/-- Whether a candidate is a hit for the target, as a pattern or by comparison. -/
def isHit (asPattern : Bool) (target candidate : Value) : Outcome Bool :=
  if !isPresent candidate then .ok false
  else if asPattern then Wildcard.matchesValue target candidate
  else candidate.equal target

/-- The first position, counted from `start`, whose value passes a test. -/
def firstFrom (test : Value → Outcome Bool) (start : Nat) : List Value → Outcome (Option Nat)
  | [] => .ok none
  | v :: rest => do
    if ← test v then return some start else firstFrom test (start + 1) rest

/-- A position counted from the other end of a line of `length` values. -/
def mirror (length position : Nat) : Nat := length - 1 - position

/-- A search from the last value to the first, by a search from the first to the last. -/
def fromLast (line : List Value) (search : List Value → Outcome (Option Nat)) :
    Outcome (Option Nat) := do
  return (← search line.reverse).map (mirror line.length)

/-- A search in either direction. -/
def inDirection (backward : Bool) (search : List Value → Outcome (Option Nat))
    (line : List Value) : Outcome (Option Nat) :=
  if backward then fromLast line search else search line

/-- The position of the first hit, or of the last. -/
def exactPosition (line : List Value) (target : Value) (asPattern backward : Bool) :
    Outcome (Option Nat) :=
  inDirection backward (firstFrom (isHit asPattern target) 0) line

end SheetFormulas.Lookup
