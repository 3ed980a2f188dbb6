import SheetFormulas.Value.Coercion
import SheetFormulas.Value.Leaves

/-!
Aggregates. A direct argument is converted, so truth values and numeric texts count; in an array
only numbers count (and truth values, for the logical aggregates). Empty values never count, and an
error value anywhere is carried on.
-/

namespace SheetFormulas.Aggregate

/-- The number that a member of an array contributes. -/
def memberNumber : Value → Outcome (Option Number)
  | .error kind => refuse (.carried kind)
  | v => do
    let _ ← v.kind
    match v with
    | .number n => return some n
    | _ => return none

def memberNumbers (members : List Value) : Outcome (List Number) := do
  return (← members.mapM memberNumber).filterMap id

def argumentNumbers : Value → Outcome (List Number)
  | .array items => memberNumbers (flatten items)
  | .empty => .ok []
  | v => do return [← v.toNumber]

/-- The numbers that the arguments contribute, from left to right. -/
def numbers (arguments : List Value) : Outcome (List Number) := do
  return (← arguments.mapM argumentNumbers).flatten

/-- The truth value that a member of an array contributes. -/
def memberBool : Value → Outcome (Option Bool)
  | .error kind => refuse (.carried kind)
  | v => do
    let kind ← v.kind
    if kind = .number ∨ kind = .boolean then return some (← v.toBool) else return none

def argumentBools : Value → Outcome (List Bool)
  | .array items => do return (← (flatten items).mapM memberBool).filterMap id
  | .empty => .ok []
  | v => do return [← v.toBool]

def bools (arguments : List Value) : Outcome (List Bool) := do
  return (← arguments.mapM argumentBools).flatten

/-- The sum of numbers, from left to right, starting at the whole number zero. -/
def total (numbers : List Number) : Outcome Number := numbers.foldlM Number.add (.int 0)

def sum (arguments : List Value) : Outcome Number := do total (← numbers arguments)

def average (arguments : List Value) : Outcome Float := do
  let numbers ← numbers arguments
  if numbers.isEmpty then refuse .averageOfNothing
  else (← total numbers).div (.int numbers.length)

/-- The first of the greatest numbers, zero if there are none. -/
def greatest : List Number → Number
  | [] => .int 0
  | first :: rest => rest.foldl Number.max first

/-- The first of the least numbers, zero if there are none. -/
def least : List Number → Number
  | [] => .int 0
  | first :: rest => rest.foldl Number.min first

def max (arguments : List Value) : Outcome Number := do return greatest (← numbers arguments)

def min (arguments : List Value) : Outcome Number := do return least (← numbers arguments)

def isNumberMember (v : Value) : Outcome Bool := do return (← v.kind) == .number

/-- How many values an argument adds to a count of numbers. -/
def argumentCount : Value → Outcome Nat
  | .array items => do
    return (← (flatten items).mapM isNumberMember).count true
  | .empty => .ok 0
  | .error _ => .ok 0
  | v =>
    match v.toNumber with
    | .ok _ => .ok 1
    | .error (.refusal cause) => if cause.isCoercion then .ok 0 else refuse cause
    | .error (.failure cause) => fail cause

/-- The count of numbers; a direct argument counts if it converts to one. -/
def count (arguments : List Value) : Outcome Nat := do
  return (← arguments.mapM argumentCount).foldl (· + ·) 0

/-- The count of the values that are not empty, error values and empty texts included. -/
def countFilled (arguments : List Value) : Nat :=
  (flatten arguments).countP (!·.isEmpty)

/-- The truth values of the arguments of a logical function, which have to be some. -/
def logicals (function : String) (arguments : List Value) : Outcome (List Bool) := do
  let values ← bools arguments
  if values.isEmpty then refuseCoercion (.noLogicalValues function) else return values

def all (arguments : List Value) : Outcome Bool := do
  return (← logicals "AND" arguments).all id

def any (arguments : List Value) : Outcome Bool := do
  return (← logicals "OR" arguments).any id

def not (v : Value) : Outcome Bool := do return !(← v.toBool)

/-- The number that a text stands for under the given separators, of which the first characters
count. A number is given back as it is, and a text of blanks only is zero. -/
def numberValue (text decimal group : Value) : Outcome Number := do
  match text with
  | .number n => return n
  | _ =>
    let source ← text.toText
    let decimal := (← decimal.toText).toList.take 1
    let group := (← group.toText).toList.take 1
    if decimal.isEmpty ∨ decimal = group then refuseCoercion .equalSeparators
    else if (Text.trim source.toList).isEmpty then return .int 0
    else numberOfText ⟨decimal, group, false⟩ source

end SheetFormulas.Aggregate
