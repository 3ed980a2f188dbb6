import SheetFormulas.Lookup.Keyed
import SheetFormulas.Proofs.Lookup.Boundary
import SheetFormulas.Proofs.Run.Answers

/-!
The error values that stand for what a computation refuses. A search of a line refuses values that
have no type and patterns in sorted data, all of which are bad values; the conversion of a mode also
refuses numbers that are not finite. None of these is what stands for a value that was not found.
-/

namespace SheetFormulas

open Outcome

def IsBadValue (kind : ErrorKind) : Prop := kind = .badValue

/-- Whether an error value is another than the one for a value that was not found. -/
def IsNotMissing (kind : ErrorKind) : Prop := kind ≠ .notAvailable

theorem isNotMissing_of_isBadValue {kind : ErrorKind} (h : IsBadValue kind) :
    IsNotMissing kind := by
  rw [IsNotMissing, h]
  decide

theorem refusesOnly_coercion {α : Type} (cause : CoercionCause) :
    RefusesOnly IsBadValue (refuseCoercion cause : Outcome α) := .refuse rfl

theorem Number.toFloat_refusesOnly (allowed : ErrorKind → Prop) (n : Number) :
    RefusesOnly allowed n.toFloat := by
  cases n with
  | int n => exact .ite (.fail _) (.ok _)
  | float x => exact .ok x

theorem Number.shown_refusesOnly (allowed : ErrorKind → Prop) (n : Number) :
    RefusesOnly allowed n.shown := by
  cases n with
  | int n =>
    rw [shown, intText]
    exact .ite (.ok _) (.fail _)
  | float x => exact .ok _

namespace Value

theorem kind_refusesOnly (v : Value) : RefusesOnly IsBadValue v.kind := by
  cases v with
  | deferred label body => exact refusesOnly_coercion _
  | _ => exact .ok _

theorem numberOfText_refusesOnly (convention : Numeral.Convention) (text : String) :
    RefusesOnly IsBadValue (numberOfText convention text) := by
  unfold numberOfText
  split
  · exact .ok _
  · exact .fail _
  · exact refusesOnly_coercion _

theorem toNumber_refusesOnly {v : Value} (h : v.error? = none) :
    RefusesOnly IsBadValue v.toNumber := by
  cases v with
  | number n => exact .ite (refusesOnly_coercion _) (.ok n)
  | text s => exact .ite (.ok _) (numberOfText_refusesOnly .cell s)
  | error kind => cases h
  | array items => exact refusesOnly_coercion _
  | deferred label body => exact refusesOnly_coercion _
  | empty => exact .ok _
  | bool b => exact .ok _

theorem toInt_refusesOnly {v : Value} (h : v.error? = none) :
    RefusesOnly IsNotMissing v.toInt := by
  have hfinite (n : Number) : RefusesOnly IsNotMissing n.isFinite :=
    .bind (n.toFloat_refusesOnly _) fun _ => .ok _
  refine .bind (.bind ?_ fun n => .bind (hfinite n) fun _ => .ite (.ok _) ?_) fun _ => .ok _
  · exact (toNumber_refusesOnly h).mono isNotMissing_of_isBadValue
  · exact .bind (n.shown_refusesOnly _) fun _ => .refuse fun h => by cases h

theorem compareNumbers_refusesOnly (m n : Number) :
    RefusesOnly IsBadValue (compareNumbers m n) := by
  refine .bind (m.toFloat_refusesOnly _) fun x => .ite (.ok _) ?_
  exact .bind (n.toFloat_refusesOnly _) fun y => .ite (.ok _) (.ok _)

theorem compareFilled_refusesOnly (a b : Value) : RefusesOnly IsBadValue (compareFilled a b) := by
  unfold compareFilled
  split
  · exact compareNumbers_refusesOnly _ _
  all_goals exact .ok _

theorem compare_refusesOnly (a b : Value) : RefusesOnly IsBadValue (a.compare b) := by
  unfold compare
  split
  · exact .ok _
  · exact .ok _
  · refine .bind a.kind_refusesOnly fun _ => .bind b.kind_refusesOnly fun _ => .ite (.ok _) ?_
    exact compareFilled_refusesOnly _ _

end Value

namespace Lookup

variable {target : Value} {mode : MatchMode} {search : SearchMode} {values : List Value}

theorem modesOf_refusesOnly {mode search : Value} (hm : mode.error? = none)
    (hs : search.error? = none) : RefusesOnly IsNotMissing (modesOf mode search) := by
  refine .bind (Value.toInt_refusesOnly hm) fun m => .bind (Value.toInt_refusesOnly hs) fun s => ?_
  split
  · exact .refuse (isNotMissing_of_isBadValue rfl)
  · exact .refuse (isNotMissing_of_isBadValue rfl)
  · exact .ok _

theorem isHit_refusesOnly (asPattern : Bool) (target candidate : Value) :
    RefusesOnly IsBadValue (isHit asPattern target candidate) := by
  refine .ite (.ok _) (.ite ?_ ?_)
  · unfold Wildcard.matchesValue
    split
    · exact .ok _
    · exact .fail _
    · exact .ok _
  · exact .bind (candidate.compare_refusesOnly target) fun _ => .ok _

theorem firstFrom_refusesOnly {test : Value → Outcome Bool}
    (h : ∀ v, RefusesOnly IsBadValue (test v)) (values : List Value) (start : Nat) :
    RefusesOnly IsBadValue (firstFrom test start values) := by
  induction values generalizing start with
  | nil => exact .ok none
  | cons v rest ih => exact .bind (h v) fun _ => .ite (.ok _) (ih (start + 1))

theorem inDirection_refusesOnly {find : List Value → Outcome (Option Nat)}
    (h : ∀ values, RefusesOnly IsBadValue (find values)) (backward : Bool) (values : List Value) :
    RefusesOnly IsBadValue (inDirection backward find values) :=
  .ite (.bind (h _) fun _ => .ok _) (h values)

theorem isComparable_refusesOnly (target candidate : Value) :
    RefusesOnly IsBadValue (isComparable target candidate) :=
  .ite (.ok _) (.bind candidate.kind_refusesOnly fun _ => .bind target.kind_refusesOnly fun _ =>
    .ok _)

theorem improves_refusesOnly (target : Value) (wanted : Ordering) (best : Option (Nat × Value))
    (candidate : Value) : RefusesOnly IsBadValue (improves target wanted best candidate) := by
  refine .bind (isComparable_refusesOnly target candidate) fun _ => .ite (.ok _) ?_
  refine .bind (candidate.compare_refusesOnly target) fun _ => .ite (.ok _) ?_
  cases best with
  | none => exact .ok _
  | some best => exact .bind (candidate.compare_refusesOnly best.2) fun _ => .ok _

theorem nearestFrom_refusesOnly (target : Value) (wanted : Ordering) (values : List Value)
    (best : Option (Nat × Value)) (start : Nat) :
    RefusesOnly IsBadValue (nearestFrom target wanted best start values) := by
  induction values generalizing best start with
  | nil => exact .ok _
  | cons v rest ih => exact .bind (improves_refusesOnly target wanted best v) fun _ => ih _ _

theorem linearPosition_refusesOnly (backward : Bool) :
    RefusesOnly IsBadValue (linearPosition values target mode backward) := by
  have nearest (wanted : Ordering) :
      RefusesOnly IsBadValue (nearestPosition values target wanted backward) :=
    inDirection_refusesOnly (fun part => nearestFrom_refusesOnly target wanted part none 0) _ _
  refine .bind (inDirection_refusesOnly (fun part => ?_) _ _) fun hit => ?_
  · exact firstFrom_refusesOnly (isHit_refusesOnly _ target) part 0
  · cases hit with
    | some position => exact .ok _
    | none =>
      cases mode with
      | nextSmaller => exact nearest .lt
      | nextLarger => exact nearest .gt
      | exact => exact .ok _
      | wildcard => exact .ok _

theorem isBefore_refusesOnly (target : Value) (descending : Bool) (candidate : Value) :
    RefusesOnly IsBadValue (isBefore target descending candidate) := by
  unfold isBefore
  split
  · exact .ok _
  · refine .bind (candidate.compare_refusesOnly target) fun compared => ?_
    cases compared with
    | error kind => exact .ok _
    | order o => exact .ok _

theorem binaryPosition_refusesOnly (descending : Bool) :
    RefusesOnly IsBadValue (binaryPosition values target mode descending) := by
  rw [binaryPosition_eq]
  refine .bind (fun cause h => ?_) fun boundary => .bind ?_ fun _ => .ite (.ok _) (.ok _)
  · -- a halving that fails does so with one of its tests
    obtain ⟨place, -, hplace, -⟩ := lowerBound_eq_error h
    exact isBefore_refusesOnly _ _ _ cause hplace
  · unfold isHitAt
    split
    · exact isHit_refusesOnly false target _
    · exact .ok _

theorem findPosition_refusesOnly : RefusesOnly IsBadValue (findPosition values target mode search) := by
  have binary (descending : Bool) : RefusesOnly IsBadValue
      (if mode = .wildcard then refuse .wildcardBinarySearch
        else binaryPosition values target mode descending) :=
    .ite (.refuse rfl) (binaryPosition_refusesOnly descending)
  cases search with
  | firstToLast => exact linearPosition_refusesOnly false
  | lastToFirst => exact linearPosition_refusesOnly true
  | binaryAscending => exact binary false
  | binaryDescending => exact binary true

theorem positionAmong_refusesOnly :
    RefusesOnly IsBadValue (positionAmong values target mode search) :=
  .ite (.ok _) findPosition_refusesOnly

end Lookup

end SheetFormulas
