import SheetFormulas.Value.Basic

/-!
Nested arrays laid out flat. `leaves` says which values a nested value consists of, from left to
right; `flatten` finds them with a list of pending lists, so that the depth of nesting does not
matter. The main statement is that both agree.
-/

namespace SheetFormulas

namespace Value

mutual

/-- The values that are not arrays, from left to right. -/
def leaves : Value → List Value
  | array items => leavesOf items
  | v => [v]

def leavesOf : List Value → List Value
  | [] => []
  | v :: rest => leaves v ++ leavesOf rest

end

mutual

/-- The number of values and arrays in a value, itself included. -/
def size : Value → Nat
  | array items => sizes items + 1
  | _ => 1

def sizes : List Value → Nat
  | [] => 0
  | v :: rest => size v + sizes rest

end

theorem size_pos (v : Value) : 0 < size v := by cases v <;> simp [size]

end Value

open Value

/-- The size of pending lists: their values, and one for each list. -/
def pendingSize : List (List Value) → Nat
  | [] => 0
  | list :: rest => 2 * sizes list + 1 + pendingSize rest

/-- Appends the leaves of the pending lists, innermost list first, to the leaves found so far. -/
def flattenPending (found : Array Value) : List (List Value) → Array Value
  | [] => found
  | [] :: rest => flattenPending found rest
  | (.array items :: more) :: rest => flattenPending found (items :: more :: rest)
  | (v :: more) :: rest => flattenPending (found.push v) (more :: rest)
termination_by pending => pendingSize pending
decreasing_by
  · simp only [pendingSize]; omega
  · simp only [pendingSize, sizes, size]; omega
  · have := size_pos v
    simp only [pendingSize, sizes]; omega

/-- The leaves of several values, in order. -/
def flatten (values : List Value) : List Value := (flattenPending #[] [values]).toList

/-- The leaves of all pending lists, innermost list first. -/
def pendingLeaves (pending : List (List Value)) : List Value := pending.flatMap leavesOf

theorem toList_flattenPending (found : Array Value) (pending : List (List Value)) :
    (flattenPending found pending).toList = found.toList ++ pendingLeaves pending := by
  fun_induction flattenPending found pending with
  | case1 => simp [pendingLeaves]
  | case2 found rest ih => rw [ih]; simp [pendingLeaves, leavesOf]
  | case3 found items more rest ih =>
    rw [ih]; simp [pendingLeaves, leavesOf, leaves, List.append_assoc]
  | case4 found v more rest h ih =>
    rw [ih]
    cases v <;> simp_all [pendingLeaves, leavesOf, leaves]

/-- Laying values out flat gives their leaves. -/
theorem flatten_eq_leavesOf (values : List Value) : flatten values = leavesOf values := by
  simp [flatten, toList_flattenPending, pendingLeaves]

theorem flatten_singleton (v : Value) : flatten [v] = v.leaves := by
  rw [flatten_eq_leavesOf, leavesOf, leavesOf, List.append_nil]

/-- The leftmost error value, inside arrays too. -/
def firstError (values : List Value) : Option ErrorKind :=
  (flatten values).findSome? error?

end SheetFormulas
