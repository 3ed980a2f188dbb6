import SheetFormulas.Text.Lowercase
import SheetFormulas.Value.Shown

/-!
The order of values: numbers before texts before truth values, texts without regard to case. An
empty value takes the type of the other side. Error values, arrays and doubles that are no number
are not compared.
-/

namespace SheetFormulas

/-- The result of a comparison: an order, or the error value that stands in its place. -/
inductive Compared where
  | order (o : Ordering)
  | error (kind : ErrorKind)
  deriving DecidableEq

namespace Compared

/-- Whether the comparison gave this order. -/
def is (o : Ordering) (c : Compared) : Bool := c == order o

end Compared

namespace Value

/-- An empty value as one of the other side's type; any other value itself. -/
def filledLike (other : Value) : Value → Value
  | empty =>
    match other with
    | text _ => text ""
    | bool _ => bool false
    | _ => number (.int 0)
  | v => v

/-- The place of a type in the order of types. -/
def rank : Value → Nat
  | text _ => 2
  | bool _ => 3
  | _ => 1

/-- The order of two numbers. Both have to fit in a double. -/
def compareNumbers (a b : Number) : Outcome Compared := do
  if (← a.toFloat).isNaN then return .error .badValue
  if (← b.toFloat).isNaN then return .error .badValue
  return .order ((a.compare? b).getD .eq)

/-- The order of two texts, by code points in lower case. -/
def compareTexts (a b : String) : Ordering :=
  compare (Text.lower a.toList) (Text.lower b.toList)

/-- The order of two values that are neither empty nor errors nor arrays. -/
def compareFilled (left right : Value) : Outcome Compared :=
  match left, right with
  | number a, number b => compareNumbers a b
  | text a, text b => .ok (.order (compareTexts a b))
  | bool a, bool b => .ok (.order (compare a b))
  | _, _ => .ok (.order (compare left.rank right.rank))

def compare (left right : Value) : Outcome Compared :=
  match left, right with
  | error kind, _ => .ok (.error kind)
  | _, error kind => .ok (.error kind)
  | _, _ => do
    let leftKind ← left.kind
    let rightKind ← right.kind
    if leftKind = .array ∨ rightKind = .array then return .error .badValue
    compareFilled (filledLike right left) (filledLike left right)

/-- Whether two values compare as equal. -/
def equal (left right : Value) : Outcome Bool := do return (← left.compare right).is .eq

def notEqual (left right : Value) : Outcome Bool := do return !(← left.equal right)

def less (left right : Value) : Outcome Bool := do return (← left.compare right).is .lt

def greater (left right : Value) : Outcome Bool := right.less left

def lessOrEqual (left right : Value) : Outcome Bool := do
  let c ← left.compare right
  return c.is .lt || c.is .eq

def greaterOrEqual (left right : Value) : Outcome Bool := right.lessOrEqual left

end Value

end SheetFormulas
