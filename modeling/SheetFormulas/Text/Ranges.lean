/-!
Sets and maps of characters, given as tables of code point ranges.
-/

namespace SheetFormulas.Text

/-- Whether a code point lies in one of the ranges; both ends belong to a range. -/
def inRanges (ranges : List (Nat × Nat)) (code : Nat) : Bool :=
  ranges.any fun (first, last) => first ≤ code && code ≤ last

/-- Every `step`-th code point from `first` to `last` is moved up by `up` and down by `down`. -/
structure Shift where
  first : Nat
  last : Nat
  step : Nat
  up : Nat
  down : Nat

/-- Whether a code point is moved by this entry. -/
def Shift.moves (s : Shift) (code : Nat) : Bool :=
  s.first ≤ code && code ≤ s.last && (code - s.first) % s.step == 0

/-- The character to which the first entry that fits moves a character; itself if none fits. -/
def shiftBy (table : List Shift) (c : Char) : Char :=
  match table.find? (·.moves c.toNat) with
  | some s => Char.ofNat (c.toNat + s.up - s.down)
  | none => c

end SheetFormulas.Text
