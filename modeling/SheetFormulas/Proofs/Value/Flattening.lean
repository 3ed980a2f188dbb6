import SheetFormulas.Value.Leaves

/-!
How nested arrays are laid out flat, turn by turn. The pending lists are a stack of partly read
lists; every turn closes the innermost one, opens an array in it, or finds a leaf. Each turn takes
one off the turns that are left, so the stack empties, and no turn changes what is found in the end.
-/

namespace SheetFormulas

open Value

namespace Value

mutual

/-- The turns that a value takes: one for a leaf, and for an array its items', one to open it and
one to close it. -/
def turns : Value → Nat
  | array items => turnsOf items + 2
  | _ => 1

def turnsOf : List Value → Nat
  | [] => 0
  | v :: rest => turns v + turnsOf rest

end

theorem turns_of_ne_array {v : Value} (h : v.kind? ≠ some .array) : v.turns = 1 := by
  cases v <;> first | rfl | exact absurd rfl h

theorem leaves_of_ne_array {v : Value} (h : v.kind? ≠ some .array) : v.leaves = [v] := by
  cases v <;> first | rfl | exact absurd rfl h

theorem leavesOf_eq_flatMap (values : List Value) : leavesOf values = values.flatMap leaves := by
  induction values with
  | nil => rfl
  | cons v rest ih => rw [leavesOf, ih, List.flatMap_cons]

mutual

theorem kind?_of_mem_leaves : ∀ (v : Value), ∀ leaf ∈ v.leaves, leaf.kind? ≠ some .array
  | array items => kind?_of_mem_leavesOf items
  | empty | number _ | text _ | bool _ | error _ | deferred _ _ => by simp [leaves, kind?]

theorem kind?_of_mem_leavesOf :
    ∀ (values : List Value), ∀ leaf ∈ leavesOf values, leaf.kind? ≠ some .array
  | [], _, h => absurd h List.not_mem_nil
  | v :: rest, leaf, h =>
    (List.mem_append.mp h).elim (kind?_of_mem_leaves v leaf) (kind?_of_mem_leavesOf rest leaf)

end

/-- Values that are no arrays are their own leaves. -/
theorem leavesOf_eq_self {values : List Value} (h : ∀ v ∈ values, v.kind? ≠ some .array) :
    leavesOf values = values := by
  induction values with
  | nil => rfl
  | cons v rest ih =>
    obtain ⟨hv, hrest⟩ := List.forall_mem_cons.mp h
    rw [leavesOf, leaves_of_ne_array hv, ih hrest, List.singleton_append]

end Value

/-- How far values are laid out: the leaves found so far, and what is left to read of the lists that
are open, innermost list first. -/
structure Flattening where
  found : Array Value
  pending : List (List Value)

namespace Flattening

/-- Nothing is found, and all values are pending. -/
def start (values : List Value) : Flattening := ⟨#[], [values]⟩

/-- The next turn, if a list is open. -/
def next? : Flattening → Option Flattening
  | ⟨_, []⟩ => none
  | ⟨found, [] :: rest⟩ => some ⟨found, rest⟩
  | ⟨found, (.array items :: more) :: rest⟩ => some ⟨found, items :: more :: rest⟩
  | ⟨found, (v :: more) :: rest⟩ => some ⟨found.push v, more :: rest⟩

/-- The state after some turns, or after the last one. -/
def after (s : Flattening) : Nat → Flattening
  | 0 => s
  | n + 1 =>
    match s.next? with
    | some t => t.after n
    | none => s

/-- The turns that open lists take: those of their values, and one to close each list. -/
def pendingTurns : List (List Value) → Nat
  | [] => 0
  | list :: rest => turnsOf list + 1 + pendingTurns rest

/-- The turns that are left. -/
def turnsLeft (s : Flattening) : Nat := pendingTurns s.pending

/-- What is found in the end. -/
def outcome (s : Flattening) : List Value := s.found.toList ++ pendingLeaves s.pending

variable {s t : Flattening}

theorem next?_leaf {found : Array Value} {v : Value} {more : List Value} {rest : List (List Value)}
    (h : v.kind? ≠ some .array) :
    next? ⟨found, (v :: more) :: rest⟩ = some ⟨found.push v, more :: rest⟩ := by
  cases v <;> first | rfl | exact absurd rfl h

/-- What a turn does. -/
theorem next?_cases (h : s.next? = some t) :
    (∃ found rest, s = ⟨found, [] :: rest⟩ ∧ t = ⟨found, rest⟩) ∨
    (∃ found items more rest, s = ⟨found, (.array items :: more) :: rest⟩ ∧
      t = ⟨found, items :: more :: rest⟩) ∨
    (∃ found v more rest, v.kind? ≠ some .array ∧ s = ⟨found, (v :: more) :: rest⟩ ∧
      t = ⟨found.push v, more :: rest⟩) := by
  rcases s with ⟨found, _ | ⟨_ | ⟨v, more⟩, rest⟩⟩
  · cases h
  · cases h
    exact .inl ⟨found, rest, rfl, rfl⟩
  · by_cases hv : v.kind? = some .array
    · cases v <;> cases hv
      cases h
      exact .inr (.inl ⟨found, _, more, rest, rfl, rfl⟩)
    · rw [next?_leaf hv] at h
      cases h
      exact .inr (.inr ⟨found, v, more, rest, hv, rfl, rfl⟩)

theorem next?_eq_none_iff : s.next? = none ↔ s.pending = [] := by
  rcases s with ⟨found, _ | ⟨_ | ⟨v, more⟩, rest⟩⟩
  · simp [next?]
  · simp [next?]
  · cases v <;> simp [next?]

/-- Every turn is one less to go. -/
theorem turnsLeft_next? (h : s.next? = some t) : s.turnsLeft = t.turnsLeft + 1 := by
  obtain ⟨found, rest, rfl, rfl⟩ | ⟨found, items, more, rest, rfl, rfl⟩ |
    ⟨found, v, more, rest, hv, rfl, rfl⟩ := next?_cases h
  · simp only [turnsLeft, pendingTurns, turnsOf]
    omega
  -- the array was counted with the turn that opens it, and is now with the one that closes it
  · simp only [turnsLeft, pendingTurns, turnsOf, turns]
    omega
  · simp only [turnsLeft, pendingTurns, turnsOf, turns_of_ne_array hv]
    omega

/-- No turn changes what is found in the end, nor its order. -/
theorem outcome_next? (h : s.next? = some t) : s.outcome = t.outcome := by
  obtain ⟨found, rest, rfl, rfl⟩ | ⟨found, items, more, rest, rfl, rfl⟩ |
    ⟨found, v, more, rest, hv, rfl, rfl⟩ := next?_cases h
  · simp [outcome, pendingLeaves, leavesOf]
  · simp [outcome, pendingLeaves, leavesOf, leaves]
  · simp [outcome, pendingLeaves, leavesOf, leaves_of_ne_array hv]

theorem turnsLeft_eq_zero_iff : s.turnsLeft = 0 ↔ s.pending = [] := by
  rcases s with ⟨found, _ | ⟨list, rest⟩⟩ <;> simp [turnsLeft, pendingTurns]

theorem turnsLeft_after (s : Flattening) (n : Nat) : (s.after n).turnsLeft = s.turnsLeft - n := by
  induction n generalizing s with
  | zero => rfl
  | succ n ih =>
    rw [after]
    cases h : s.next? with
    | none =>
      have hz := turnsLeft_eq_zero_iff.mpr (next?_eq_none_iff.mp h)
      dsimp only
      omega
    | some t =>
      dsimp only
      rw [ih t, turnsLeft_next? h, Nat.add_sub_add_right]

theorem outcome_after (s : Flattening) (n : Nat) : (s.after n).outcome = s.outcome := by
  induction n generalizing s with
  | zero => rfl
  | succ n ih =>
    rw [after]
    cases h : s.next? with
    | none => rfl
    | some t => exact (ih t).trans (outcome_next? h).symm

/-- The stack is empty from the last turn on, and not before. -/
theorem pending_after_eq_nil_iff (s : Flattening) (n : Nat) :
    (s.after n).pending = [] ↔ s.turnsLeft ≤ n := by
  rw [← turnsLeft_eq_zero_iff, turnsLeft_after, Nat.sub_eq_zero_iff_le]

theorem found_of_pending_eq_nil (h : s.pending = []) : s.found.toList = s.outcome := by
  rw [outcome, h, pendingLeaves, List.flatMap_nil, List.append_nil]

/-- A turn is one step of the recursion over pending lists. -/
theorem flattenPending_next? (h : s.next? = some t) :
    flattenPending s.found s.pending = flattenPending t.found t.pending := by
  obtain ⟨found, rest, rfl, rfl⟩ | ⟨found, items, more, rest, rfl, rfl⟩ |
    ⟨found, v, more, rest, hv, rfl, rfl⟩ := next?_cases h
  · rw [flattenPending]
  · rw [flattenPending]
  · rw [flattenPending]
    rintro items rfl
    exact hv rfl

theorem turnsLeft_start (values : List Value) : (start values).turnsLeft = turnsOf values + 1 := by
  rw [turnsLeft, start, pendingTurns, pendingTurns, Nat.add_zero]

theorem outcome_start (values : List Value) : (start values).outcome = leavesOf values := by
  rw [outcome, start, pendingLeaves, List.flatMap_singleton]
  rfl

/-- An array with an empty one in it, beside a leaf: three turns for what is between them. -/
example : (start [.array [.bool true, .array []], .empty]).after 7 = ⟨#[.bool true, .empty], []⟩ :=
  rfl

end Flattening

theorem flatten_append (values more : List Value) :
    flatten (values ++ more) = flatten values ++ flatten more := by
  simp only [flatten_eq_leavesOf, leavesOf_eq_flatMap, List.flatMap_append]

theorem flatten_empty_array (values more : List Value) :
    flatten (values ++ .array [] :: more) = flatten (values ++ more) := by
  rw [flatten_append, flatten_append, flatten_eq_leavesOf (_ :: more), flatten_eq_leavesOf more]
  rfl

theorem kind?_of_mem_flatten {values : List Value} :
    ∀ leaf ∈ flatten values, leaf.kind? ≠ some .array := by
  rw [flatten_eq_leavesOf]
  exact kind?_of_mem_leavesOf values

theorem flatten_flatten (values : List Value) : flatten (flatten values) = flatten values := by
  rw [flatten_eq_leavesOf (flatten values)]
  exact leavesOf_eq_self kind?_of_mem_flatten

theorem error?_eq_some_iff {v : Value} {kind : ErrorKind} :
    v.error? = some kind ↔ v = .error kind := by
  cases v <;> simp [error?]

theorem firstError_eq_some_iff {values : List Value} {kind : ErrorKind} :
    firstError values = some kind ↔ ∃ before rest,
      leavesOf values = before ++ .error kind :: rest ∧ ∀ v ∈ before, v.error? = none := by
  rw [firstError, flatten_eq_leavesOf, List.findSome?_eq_some_iff]
  simp only [error?_eq_some_iff]
  constructor
  · rintro ⟨before, v, rest, hleaves, rfl, hbefore⟩
    exact ⟨before, rest, hleaves, hbefore⟩
  · rintro ⟨before, rest, hleaves, hbefore⟩
    exact ⟨before, _, rest, hleaves, rfl, hbefore⟩

theorem firstError_eq_none_iff {values : List Value} :
    firstError values = none ↔ ∀ v ∈ leavesOf values, v.error? = none := by
  rw [firstError, flatten_eq_leavesOf, List.findSome?_eq_none_iff]

/-- Laying values out flat empties the stack of open lists with the turn that closes the last of
them, and then the leaves are found, from left to right and without arrays. So values one after
the other are laid out one after the other, what is flat stays as it is, and the first error value
is the leftmost one. -/
theorem flattening_ends_with_leaves (values : List Value) :
    (∀ s t : Flattening, s.next? = some t →
      flattenPending s.found s.pending = flattenPending t.found t.pending) ∧
    (∀ n, ((Flattening.start values).after n).pending = [] ↔ turnsOf values < n) ∧
    (∀ n, turnsOf values < n →
      ((Flattening.start values).after n).found.toList = leavesOf values) ∧
    flatten values = leavesOf values ∧
    (∀ leaf ∈ flatten values, leaf.kind? ≠ some .array) ∧
    (∀ more, flatten (values ++ more) = flatten values ++ flatten more) ∧
    (∀ more, flatten (values ++ .array [] :: more) = flatten (values ++ more)) ∧
    flatten (flatten values) = flatten values ∧
    (∀ kind, firstError values = some kind ↔ ∃ before rest,
      leavesOf values = before ++ .error kind :: rest ∧ ∀ v ∈ before, v.error? = none) ∧
    (firstError values = none ↔ ∀ v ∈ leavesOf values, v.error? = none) := by
  have hempty (n : Nat) : ((Flattening.start values).after n).pending = [] ↔
      turnsOf values < n := by
    rw [Flattening.pending_after_eq_nil_iff, Flattening.turnsLeft_start, Nat.succ_le_iff]
  refine ⟨fun _ _ => Flattening.flattenPending_next?, hempty, fun n hn => ?_,
    flatten_eq_leavesOf values, kind?_of_mem_flatten, flatten_append values,
    flatten_empty_array values, flatten_flatten values, fun _ => firstError_eq_some_iff,
    firstError_eq_none_iff⟩
  rw [Flattening.found_of_pending_eq_nil ((hempty n).mpr hn), Flattening.outcome_after,
    Flattening.outcome_start]

end SheetFormulas
