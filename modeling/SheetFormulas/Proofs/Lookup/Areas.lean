import SheetFormulas.Proofs.Lookup.SelectedResult
import SheetFormulas.Proofs.Value.WholeNumber

/-!
Areas of a sheet. A reference is an area at the corner of a sheet, and the offset function cuts
another area out of it, which has to lie inside; the index function gives an area of one cell.
-/

namespace SheetFormulas.Lookup

open Value Run

variable {sheet : Nat → Nat → Scalar}

/-- An area of a sheet in its simplest form, from the cell at its top left corner: the only cell, the
line of the cells of the only row or column, or a table. -/
def area (sheet : Nat → Nat → Scalar) (top left height width : Nat) : Value :=
  if height = 1 ∧ width = 1 then .ofScalar (sheet top left)
  else if height = 1 then flat (List.ofFn fun j : Fin width => sheet top (left + j))
  else if width = 1 then flat (List.ofFn fun i : Fin height => sheet (top + i) left)
  else rectangle fun (i : Fin height) (j : Fin width) => sheet (top + i) (left + j)

/-- Whether an area, given by its first row and column and its size, lies inside an area of a height
and a width at the corner of a sheet, and has a cell. -/
def LiesInside (height width : Nat) (r c h w : Int) : Prop :=
  0 ≤ r ∧ 0 ≤ c ∧ 1 ≤ h ∧ 1 ≤ w ∧ r + h ≤ height ∧ c + w ≤ width

instance (height width : Nat) (r c h w : Int) : Decidable (LiesInside height width r c h w) :=
  inferInstanceAs (Decidable (_ ∧ _))

/-- The rows of an area at the corner of a sheet. -/
def cornerRows (sheet : Nat → Nat → Scalar) (height width : Nat) : List Value :=
  rowsOf fun (i : Fin height) (j : Fin width) => sheet i j

/-- A sheet without its first rows and columns. -/
def shifted (sheet : Nat → Nat → Scalar) (top left : Nat) : Nat → Nat → Scalar :=
  fun i j => sheet (top + i) (left + j)

/-- A reference to the area at the corner of a sheet: a table of it, or the line of its only row. -/
inductive RefersTo (sheet : Nat → Nat → Scalar) (width : Nat) : Nat → Value → Prop where
  | table (height : Nat) :
      RefersTo sheet width height (rectangle fun (i : Fin height) (j : Fin width) => sheet i j)
  | line : RefersTo sheet width 1 (flat (List.ofFn fun j : Fin width => sheet 0 j))

section

variable {height width : Nat}

theorem drop_take_ofFn {α : Type} (f : Nat → α) {n start count : Nat} (h : start + count ≤ n) :
    ((List.ofFn fun i : Fin n => f i).drop start).take count =
      List.ofFn fun i : Fin count => f (start + i) := by
  refine List.ext_getElem (by simp; omega) fun i h1 h2 => ?_
  simp

theorem rows_flat {values : List Scalar} (h : values ≠ []) : (flat values).rows = [flat values] := by
  cases values with
  | nil => exact absurd rfl h
  | cons v rest => cases v <;> rfl

theorem rows_ofScalar (v : Scalar) : (Value.ofScalar v).rows = [flat [v]] := by
  cases v <;> rfl

theorem ofFn_ne_nil {α : Type} {n : Nat} (f : Fin n → α) (h : 0 < n) : List.ofFn f ≠ [] := by
  rw [Ne, List.ofFn_eq_nil_iff]
  omega

theorem RefersTo.rows_eq {reference : Value} (h : RefersTo sheet width height reference)
    (hh : 1 ≤ height) (hw : 1 ≤ width) : reference.rows = cornerRows sheet height width := by
  cases h with
  | table height =>
    obtain ⟨height, rfl⟩ := Nat.exists_eq_add_of_le' hh
    exact rows_rectangle _
  | line =>
    rw [rows_flat (ofFn_ne_nil _ hw), cornerRows, rowsOf, List.ofFn_succ, List.ofFn_zero]
    rfl

theorem cutRow_flat (f : Nat → Scalar) {start count : Nat} (h : start + count ≤ width) :
    cutRow start count (flat (List.ofFn fun j : Fin width => f j)) =
      .ok (List.ofFn fun j : Fin count => .ofScalar (f (start + j))) := by
  have hcells := cells_row fun j : Fin width => f j
  rw [cutRow, hcells, Outcome.ok_bind, Outcome.pure_eq]
  exact congrArg Except.ok (drop_take_ofFn (fun j => Value.ofScalar (f j)) h)

theorem simplest_of_length_ne_one {cells : List Value} (h : cells.length ≠ 1) :
    simplest cells = .array cells := by
  match cells with
  | [] => rfl
  | [_] => exact absurd rfl h
  | _ :: _ :: _ => rfl

theorem simplest_ofFn (f : Nat → Scalar) {n : Nat} :
    simplest (List.ofFn fun i : Fin n => .ofScalar (f i)) =
      if n = 1 then .ofScalar (f 0) else flat (List.ofFn fun i : Fin n => f i) := by
  split
  · next h =>
    subst h
    rfl
  · next h =>
    rw [simplest_of_length_ne_one (by rwa [List.length_ofFn]), flat, List.map_ofFn]
    rfl

/-- A table that neither has one row only nor rows of one cell is left as it is. -/
theorem collapse_wide {table : List (List Value)} (hrows : table.length ≠ 1)
    (hwide : ∀ row ∈ table, row.length ≠ 1) : collapse table = .array (table.map .array) := by
  match table with
  | [] => rfl
  | [_] => exact absurd rfl hrows
  | first :: second :: rest =>
    have hfirst := hwide first List.mem_cons_self
    have hs : singles? (first :: second :: rest) = none := by
      match first with
      | [] => rfl
      | [_] => exact absurd rfl hfirst
      | _ :: _ :: _ => rfl
    simp only [collapse, hs]

/-- The cells of an area collapse to its simplest form. -/
theorem collapse_area {top left : Nat} (hh : 1 ≤ height) (hw : 1 ≤ width) :
    collapse (List.ofFn fun i : Fin height => List.ofFn fun j : Fin width =>
      .ofScalar (sheet (top + i) (left + j))) = area sheet top left height width := by
  by_cases hrow : height = 1
  · subst hrow
    rw [List.ofFn_succ, List.ofFn_zero, collapse_row, area]
    refine (simplest_ofFn fun j => sheet top (left + j)).trans ?_
    by_cases hcell : width = 1 <;> simp [hcell]
  · by_cases hcolumn : width = 1
    · subst hcolumn
      have hsingles : (List.ofFn fun i : Fin height => List.ofFn fun j : Fin 1 =>
          Value.ofScalar (sheet (top + i) (left + j))) =
          (List.ofFn fun i : Fin height => Value.ofScalar (sheet (top + i) left)).map ([·]) := by
        rw [List.map_ofFn]
        rfl
      rw [hsingles, collapse_column, simplest_ofFn fun i => sheet (top + i) left, area]
      simp [hrow]
    · rw [collapse_wide (by rwa [List.length_ofFn]), area, if_neg (by omega), if_neg hrow,
        if_neg hcolumn, rectangle, rowsOf, List.map_ofFn]
      · refine congrArg Value.array (congrArg List.ofFn (funext fun i => ?_))
        rw [flat, List.map_ofFn]
        rfl
      · intro row hmem
        obtain ⟨i, rfl⟩ := List.mem_ofFn.mp hmem
        rwa [List.length_ofFn]

theorem cut_cornerRows {top left h w : Nat} (hh : top + h ≤ height) (hw : left + w ≤ width) :
    (((cornerRows sheet height width).drop top).take h).mapM (cutRow left w) =
      .ok (List.ofFn fun i : Fin h => List.ofFn fun j : Fin w =>
        .ofScalar (sheet (top + i) (left + j))) := by
  have hrows := drop_take_ofFn (fun i => flat (List.ofFn fun j : Fin width => sheet i j)) hh
  rw [cornerRows, rowsOf, hrows]
  exact Outcome.mapM_ofFn fun i => cutRow_flat (sheet (top + i)) hw

/-- The offset function cuts an area out of a reference, if the area lies inside. -/
theorem offset_eq {reference : Value} (hh : 1 ≤ height)
    (hreference : reference.rows = cornerRows sheet height width) (rows columns h w : Value) :
    offset reference rows columns h w = (do
      let r ← rows.toFloor
      let c ← columns.toFloor
      let m ← extent h height r
      let n ← extent w width c
      if LiesInside height width r c m n then
        .ok (area sheet r.toNat c.toNat m.toNat n.toNat)
      else refuse .leavesReference) := by
  obtain ⟨height, rfl⟩ := Nat.exists_eq_add_of_le' hh
  have hcons : reference.rows = flat (List.ofFn fun j : Fin width => sheet 0 j) ::
      rowsOf fun (i : Fin height) (j : Fin width) => sheet i.succ j :=
    hreference.trans (rowsOf_eq_cons _)
  have hwidth : (flat (List.ofFn fun j : Fin width => sheet 0 j)).width = .ok width := width_row _
  have hlength : (rowsOf fun (i : Fin height) (j : Fin width) => sheet i.succ j).length = height :=
    List.length_ofFn
  unfold offset
  rw [hcons]
  dsimp only
  rw [hwidth, Outcome.ok_bind, hlength, ← hcons, hreference]
  -- from here on both sides read the arguments in the same order
  refine Outcome.bind_congr fun r _ => Outcome.bind_congr fun c _ => ?_
  refine Outcome.bind_congr fun m _ => Outcome.bind_congr fun n _ => ?_
  by_cases hinside : LiesInside (height + 1) width r c m n
  · rw [if_pos hinside]
    obtain ⟨h1, h2, h3, h4, h5, h6⟩ := hinside
    rw [if_neg (by omega), cut_cornerRows (by omega) (by omega), Outcome.ok_bind, Outcome.pure_eq,
      collapse_area (by omega) (by omega)]
  · rw [if_neg hinside, if_pos]
    unfold LiesInside at hinside
    omega

end

end SheetFormulas.Lookup
