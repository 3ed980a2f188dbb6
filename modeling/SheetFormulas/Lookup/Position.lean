import SheetFormulas.Lookup.Binary
import SheetFormulas.Lookup.Nearest
import SheetFormulas.Value.Coercion

/-!
The position of a value in a line, by match mode and search mode.
-/

namespace SheetFormulas.Lookup

/-- The order in which a line is searched. -/
inductive SearchMode where
  | firstToLast
  | lastToFirst
  | binaryAscending
  | binaryDescending
  deriving DecidableEq

def MatchMode.ofInt? (n : Int) : Option MatchMode :=
  match n with
  | -1 => some .nextSmaller
  | 0 => some .exact
  | 1 => some .nextLarger
  | 2 => some .wildcard
  | _ => none

def SearchMode.ofInt? (n : Int) : Option SearchMode :=
  match n with
  | 1 => some .firstToLast
  | -1 => some .lastToFirst
  | 2 => some .binaryAscending
  | -2 => some .binaryDescending
  | _ => none

def isText : Value → Bool
  | .text _ => true
  | _ => false

/-- The position of a value found one by one: a hit, or else the nearest value that the mode asks
for. -/
def linearPosition (line : List Value) (target : Value) (mode : MatchMode) (backward : Bool) :
    Outcome (Option Nat) := do
  let hit ← exactPosition line target (mode == .wildcard && isText target) backward
  match hit, mode with
  | some position, _ => return some position
  | none, .nextSmaller => nearestPosition line target .lt backward
  | none, .nextLarger => nearestPosition line target .gt backward
  | none, _ => return none

/-- The position of a value in a line, counted from zero. -/
def findPosition (line : List Value) (target : Value) (mode : MatchMode) (search : SearchMode) :
    Outcome (Option Nat) :=
  match search with
  | .firstToLast => linearPosition line target mode false
  | .lastToFirst => linearPosition line target mode true
  | .binaryAscending | .binaryDescending =>
    if mode = .wildcard then refuse .wildcardBinarySearch
    else binaryPosition line target mode (search == .binaryDescending)

/-- The modes that two arguments name. -/
def modesOf (mode search : Value) : Outcome (MatchMode × SearchMode) := do
  let m ← mode.toInt
  let s ← search.toInt
  match MatchMode.ofInt? m, SearchMode.ofInt? s with
  | none, _ => refuse (.matchMode m)
  | _, none => refuse (.searchMode s)
  | some mode, some search => return (mode, search)

end SheetFormulas.Lookup
