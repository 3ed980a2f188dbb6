import SheetFormulas.Number.Basic

/-!
The order of numbers. Whole numbers and doubles are compared by their exact values, so the order is
total on all numbers but those doubles that are no number.
-/

namespace SheetFormulas.Number

/-- The exact value: zero and the number of units of `2⁻¹⁰⁷⁴`, or minus one or one for the
infinities. -/
def exactValue? : Number → Option (Int × Int)
  | int n => some (0, n * (Binary64.unitsPerOne : Int))
  | float x =>
    if x.isNaN then none
    else if x.isInf then some (if Binary64.isNegative x then -1 else 1, 0)
    else some (0, Binary64.signedUnits x)

/-- The order of two exact values. -/
def compareExact (a b : Int × Int) : Ordering :=
  (compare a.1 b.1).then (compare a.2 b.2)

/-- The order of two numbers, if both are numbers. -/
def compare? (a b : Number) : Option Ordering :=
  match a.exactValue?, b.exactValue? with
  | some x, some y => some (compareExact x y)
  | _, _ => none

/-- Whether two numbers have the same value. -/
def eq (a b : Number) : Bool := a.compare? b == some .eq

def lt (a b : Number) : Bool := a.compare? b == some .lt

/-- Whether the first number is less or has the same value. -/
def le (a b : Number) : Bool := a.lt b || a.eq b

def isZero (a : Number) : Bool := a.eq (int 0)

/-- The first of two numbers unless the second is less. -/
def min (a b : Number) : Number := if b.lt a then b else a

/-- The first of two numbers unless the second is greater. -/
def max (a b : Number) : Number := if a.lt b then b else a

theorem compareExact_self (a : Int × Int) : compareExact a a = .eq := by
  simp [compareExact]

theorem compareExact_swap (a b : Int × Int) :
    (compareExact a b).swap = compareExact b a := by
  unfold compareExact
  rw [Ordering.swap_then, ← Std.OrientedCmp.eq_swap, ← Std.OrientedCmp.eq_swap]

end SheetFormulas.Number
