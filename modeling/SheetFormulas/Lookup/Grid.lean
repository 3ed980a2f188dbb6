import SheetFormulas.Lookup.Table
import SheetFormulas.Value.Coercion

/-!
Cells and rectangles of an array by their place.
-/

namespace SheetFormulas.Lookup

/-- The item of a flat array at a place counted from one; zero means the whole array. -/
def itemAt (items : List Value) (row : Int) (column : Option Int) : Outcome Value := do
  let index ←
    match column with
    | none => pure row
    | some column => if 1 < row then refuse (.rowOutsideRow row) else pure column
  if index = 0 then return .array items
  else
    match items[index.toNat - 1]? with
    | some v => return v
    | none => refuse (.indexOutOfRange index)

/-- The row of a table at a place counted from one. -/
def rowAt (rows : List Value) (row : Int) : Outcome Value :=
  match rows[row.toNat - 1]? with
  | some v => .ok v
  | none => fail .pastRowEnd

/-- The cells of a table at a row and a column, where zero means all of them. -/
def cellsAt (rows : List Value) (row : Int) (column : Option Int) : Outcome Value := do
  let wholeTable := Value.array rows
  match column with
  | none => if row = 0 then return wholeTable else return .array (← (← rowAt rows row).cells)
  | some column =>
    if row = 0 ∧ column = 0 then return wholeTable
    else if row = 0 then
      return collapse ((← rows.mapM (·.cell (column.toNat - 1))).map ([·]))
    else if column = 0 then return .array (← (← rowAt rows row).cells)
    else (← rowAt rows row).cell (column.toNat - 1)

/-- The cells of a table at a place. A lone index counts along the only row or column. -/
def tableAt (rows : List Value) (row : Int) (column : Option Int) : Outcome Value := do
  let height := rows.length
  let width ← (rows.headD (.array [])).width
  let (row, column) :=
    match column with
    | some column => (row, some column)
    | none =>
      if width = 1 then (row, some 1)
      else if height = 1 then (1, some row)
      else (row, none)
  if height < row ∨ column.any (fun column => (width : Int) < column) then
    refuse .positionOutOfRange
  else cellsAt rows row column

/-- The value at a row and a column of an array. -/
def index (array row column : Value) : Outcome Value := do
  let r ← row.toInt
  let c ← if column.isEmpty then pure none else (some <$> column.toInt)
  if r < 0 ∨ c.any (· < 0) then refuse .negativePosition
  else
    match array with
    | .array items => if array.isTable then tableAt items r c else itemAt items r c
    | v => tableAt v.rows r c

/-- Some cells of a row. -/
def cutRow (start count : Nat) (row : Value) : Outcome (List Value) := do
  return ((← row.cells).drop start).take count

/-- The size of a rectangle: as given, or up to the edge. -/
def extent (given : Value) (size : Nat) (start : Int) : Outcome Int :=
  if given.isEmpty then .ok (size - start) else given.toFloor

/-- The rectangle that is shifted from the first cell of an array, which has to hold all of it. -/
def offset (reference rows columns height width : Value) : Outcome Value := do
  match reference.rows with
  | [] => refuse .emptyReference
  | first :: rest =>
    let fullHeight := rest.length + 1
    let fullWidth ← first.width
    let r ← rows.toFloor
    let c ← columns.toFloor
    let h ← extent height fullHeight r
    let w ← extent width fullWidth c
    if r < 0 ∨ c < 0 ∨ h ≤ 0 ∨ w ≤ 0 ∨ fullHeight < r + h ∨ fullWidth < c + w then
      refuse .leavesReference
    else
      let cut := ((first :: rest).drop r.toNat).take h.toNat
      return collapse (← cut.mapM (cutRow c.toNat w.toNat))

end SheetFormulas.Lookup
