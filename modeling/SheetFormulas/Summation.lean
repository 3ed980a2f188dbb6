/-!
Sums of the items of an array. Seven items or fewer are added from left to right; more are added in
eight lanes, to each of which goes every eighth item, and the lanes are then added in pairs. Long
arrays are cut in two. The order matters for doubles, whose sums are rounded.
-/

namespace SheetFormulas.Summation

variable {α : Type}

/-- The sum from left to right. -/
def inTurn (add : α → α → α) (zero : α) : List α → α
  | [] => zero
  | first :: rest => rest.foldl add first

/-- The sums of neighbours. -/
def inPairs (add : α → α → α) : List α → List α
  | [] => []
  | [a] => [a]
  | a :: b :: rest => add a b :: inPairs add rest

/-- Adds a number of rounds of eight items to eight lanes, the lanes in pairs, and then what is left
over. -/
def inLanes (add : α → α → α) (zero : α) (lanes : List α) : Nat → List α → α
  | 0, rest => inTurn add zero (inPairs add (inPairs add (inPairs add lanes)) ++ rest)
  | rounds + 1, rest =>
    inLanes add zero (List.zipWith add lanes (rest.take 8)) rounds (rest.drop 8)

/-- The sum of an array that is not cut. -/
def ofBlock (add : α → α → α) (zero : α) (items : List α) : α :=
  if items.length < 8 then inTurn add zero items
  else inLanes add zero (items.take 8) (items.length / 8 - 1) (items.drop 8)

/-- The most items that are not cut in two. -/
def blockSize : Nat := 128

/-- How many items are in the first part of a longer array: whole rounds, and half of the items or
some less. -/
def cut (count : Nat) : Nat := count / 2 / 8 * 8

/-- The sum of an array. -/
def sum (add : α → α → α) (zero : α) (items : List α) : α :=
  if items.length ≤ blockSize then ofBlock add zero items
  else
    add (sum add zero (items.take (cut items.length)))
      (sum add zero (items.drop (cut items.length)))
termination_by items.length
decreasing_by
  all_goals simp only [blockSize, cut, List.length_take, List.length_drop] at *; omega

end SheetFormulas.Summation
