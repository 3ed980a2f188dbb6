import Mathlib.Data.List.OfFn
import SheetFormulas.Lookup.Grid
import SheetFormulas.Proofs.Lookup.Match

/-!
Rectangles and lines of single values, and what the access functions find in them: the cell at a
row and a column, and the item at a place.
-/

namespace SheetFormulas.Lookup

open Value

theorem kind?_ofScalar_ne_array (s : Scalar) : (Value.ofScalar s).kind? ≠ some .array := by
  cases s <;> simp [Value.ofScalar, kind?]

/-- A flat array of single values. -/
def flat (values : List Scalar) : Value := .array (values.map .ofScalar)

/-- The rows of a rectangle of single values. -/
def rowsOf {height width : Nat} (cell : Fin height → Fin width → Scalar) : List Value :=
  List.ofFn fun i => flat (List.ofFn (cell i))

/-- A table of single values that all have a row and a column. -/
def rectangle {height width : Nat} (cell : Fin height → Fin width → Scalar) : Value :=
  .array (rowsOf cell)

theorem index_array {items : List Value} {row column : Value} {r : Int} {c : Option Int}
    (hr : row.toInt = .ok r) (hpos : 0 ≤ r)
    (hc : (if column.isEmpty then .ok none else some <$> column.toInt) = .ok c)
    (hcpos : c.any (· < 0) = false) :
    index (.array items) row column =
      if (Value.array items).isTable then tableAt items r c else itemAt items r c := by
  have hplace : ¬ (r < 0 ∨ c.any (· < 0) = true) := by
    rintro (h | h)
    · omega
    · exact Bool.false_ne_true (hcpos.symm.trans h)
  unfold index
  rw [hr, Outcome.ok_bind]
  -- the places are read before the array is looked at
  split at hc
  · next hempty =>
    obtain rfl := Except.ok.inj hc
    simp only [hempty, if_true, Outcome.pure_eq, Outcome.ok_bind]
    rw [if_neg hplace]
  · next hgiven =>
    simp only [hgiven, Bool.false_eq_true, if_false, hc, Outcome.ok_bind]
    rw [if_neg hplace]

section

variable (values : List Scalar)

theorem lineOf_flat : lineOf (flat values) = .ok (values.map .ofScalar) := by
  refine lineOf_array fun v hv => ?_
  obtain ⟨s, -, rfl⟩ := List.mem_map.mp hv
  exact kind?_ofScalar_ne_array s

theorem cells_flat : (flat values).cells = .ok (values.map .ofScalar) := rfl

theorem width_flat : (flat values).width = .ok values.length := by
  rw [width, cells_flat, Outcome.ok_bind, Outcome.pure_eq, List.length_map]

theorem cell_flat {position : Nat} (h : position < values.length) :
    (flat values).cell position = .ok (.ofScalar values[position]) := by
  rw [cell, cells_flat, Outcome.ok_bind, List.getElem?_map, List.getElem?_eq_getElem h]
  rfl

theorem isTable_flat : (flat values).isTable = false := by
  cases values with
  | nil => rfl
  | cons s rest => cases s <;> rfl

theorem itemAt_flat {position : Nat} (h : position < values.length) :
    itemAt (values.map .ofScalar) ((position : Int) + 1) none =
      .ok (.ofScalar values[position]) := by
  have hplace : ((position : Int) + 1).toNat - 1 = position := by omega
  unfold itemAt
  simp only [Outcome.pure_eq, Outcome.ok_bind]
  rw [if_neg (by omega), hplace, List.getElem?_map, List.getElem?_eq_getElem h]
  rfl

theorem index_flat {position : Nat} (h : position < values.length)
    (hsize : values.length < 2 ^ 1022) :
    index (flat values) (.ofNat (position + 1)) .empty = .ok (.ofScalar values[position]) := by
  have hrow : (Value.ofNat (position + 1)).toInt = .ok ((position : Int) + 1) :=
    toInt_ofInt _ (by omega)
  rw [flat, index_array hrow (by omega) (c := none) rfl rfl, ← flat, isTable_flat,
    if_neg Bool.false_ne_true, itemAt_flat values h]

end

section

variable {height width : Nat} (cell : Fin (height + 1) → Fin width → Scalar)

theorem length_rowsOf : (rowsOf cell).length = height + 1 := List.length_ofFn

theorem getElem?_rowsOf (i : Fin (height + 1)) :
    (rowsOf cell)[i.val]? = some (flat (List.ofFn (cell i))) := by
  rw [rowsOf, List.getElem?_ofFn, dif_pos i.isLt]

theorem rowsOf_eq_cons :
    rowsOf cell = flat (List.ofFn (cell 0)) :: rowsOf fun i j => cell i.succ j := by
  rw [rowsOf, List.ofFn_succ]
  rfl

theorem rows_rectangle : (rectangle cell).rows = rowsOf cell := by
  rw [rectangle, rowsOf_eq_cons]
  rfl

theorem isTable_rectangle : (rectangle cell).isTable = true := by
  rw [rectangle, rowsOf_eq_cons]
  rfl

theorem cell_row (row : Fin width → Scalar) (j : Fin width) :
    (flat (List.ofFn row)).cell j = .ok (.ofScalar (row j)) := by
  rw [cell_flat _ (by rw [List.length_ofFn]; exact j.isLt), List.getElem_ofFn]

theorem cells_row (row : Fin width → Scalar) :
    (flat (List.ofFn row)).cells = .ok (List.ofFn fun j => .ofScalar (row j)) := by
  rw [cells_flat, List.map_ofFn]
  rfl

/-- The cells of a column, one from each row. -/
theorem column_rowsOf (j : Fin width) :
    (rowsOf cell).mapM (·.cell j) = .ok (List.ofFn fun i => .ofScalar (cell i j)) :=
  Outcome.mapM_ofFn fun i => cell_row (cell i) j

theorem width_row (row : Fin width → Scalar) :
    (flat (List.ofFn row)).width = .ok width := by
  rw [width_flat, List.length_ofFn]

theorem tableAt_rectangle (i : Fin (height + 1)) (j : Fin width) :
    tableAt (rowsOf cell) ((i : Int) + 1) (some ((j : Int) + 1)) =
      .ok (.ofScalar (cell i j)) := by
  have hfirst : ((rowsOf cell).headD (.array [])).width = .ok width := by
    rw [rowsOf_eq_cons]
    exact width_row (cell 0)
  have hrow : ((i : Int) + 1).toNat - 1 = i := by omega
  have hcolumn : ((j : Int) + 1).toNat - 1 = j := by omega
  have hinside : ¬ (((rowsOf cell).length : Int) < (i : Int) + 1 ∨
      (some ((j : Int) + 1)).any (fun column => (width : Int) < column) = true) := by
    rw [length_rowsOf]
    simp only [Option.any_some, decide_eq_true_eq]
    omega
  have hat : rowAt (rowsOf cell) ((i : Int) + 1) = .ok (flat (List.ofFn (cell i))) := by
    rw [rowAt, hrow, getElem?_rowsOf]
  unfold tableAt
  rw [hfirst, Outcome.ok_bind]
  dsimp only
  rw [if_neg hinside]
  unfold cellsAt
  dsimp only
  rw [if_neg (by omega), if_neg (by omega), if_neg (by omega), hat, Outcome.ok_bind, hcolumn,
    cell_row]

theorem index_rectangle (i : Fin (height + 1)) (j : Fin width)
    (hheight : height < 2 ^ 1022) (hwidth : width ≤ 2 ^ 1022) :
    index (rectangle cell) (.ofNat (i + 1)) (.ofNat (j + 1)) = .ok (.ofScalar (cell i j)) := by
  have hrow : (Value.ofNat (i + 1)).toInt = .ok ((i : Int) + 1) := toInt_ofInt _ (by omega)
  have hcolumn : (Value.ofNat (j + 1)).toInt = .ok ((j : Int) + 1) := toInt_ofInt _ (by omega)
  have hread : (if (Value.ofNat (j + 1)).isEmpty then .ok none
      else some <$> (Value.ofNat (j + 1)).toInt) = .ok (some ((j : Int) + 1)) := by
    rw [hcolumn]
    rfl
  have hpos : (some ((j : Int) + 1)).any (· < 0) = false := by
    rw [Option.any_some, decide_eq_false_iff_not]
    omega
  rw [rectangle, index_array hrow (by omega) hread hpos, ← rectangle, isTable_rectangle, if_pos rfl,
    tableAt_rectangle]

end

end SheetFormulas.Lookup
