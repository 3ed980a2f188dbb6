import SheetFormulas.Value.Shown

/-!
Values seen as tables and lines. A table is an array whose first item is an array; its rows may
differ in length, and a row that is a text is read as its characters.
-/

namespace SheetFormulas

namespace Value

def isTable : Value → Bool
  | array (array _ :: _) => true
  | _ => false

/-- The rows of a value: a single value is a table of one cell, and an array that is no table is one
row. -/
def rows : Value → List Value
  | array [] => []
  | array (array first :: rest) => array first :: rest
  | array items => [array items]
  | v => [array [v]]

/-- The cells of a row. -/
def cells : Value → Outcome (List Value)
  | array items => .ok items
  | text s => .ok (s.toList.map fun c => text (String.singleton c))
  | _ => fail .notARow

/-- The cell of a row at a position counted from zero. -/
def cell (row : Value) (position : Nat) : Outcome Value := do
  match (← row.cells)[position]? with
  | some v => return v
  | none => fail .pastRowEnd

def lastCell (row : Value) : Outcome Value := do
  match (← row.cells).getLast? with
  | some v => return v
  | none => fail .pastRowEnd

def width (row : Value) : Outcome Nat := do return (← row.cells).length

end Value

namespace Lookup

/-- The only item of each list, if each has one. -/
def singles? : List (List Value) → Option (List Value)
  | [] => some []
  | [v] :: rest => (singles? rest).map (v :: ·)
  | _ => none

/-- A rectangle of cells in its simplest form: a single value, a row, a column or a table. -/
def collapse (table : List (List Value)) : Value :=
  match table with
  | [[v]] => v
  | [row] => .array row
  | _ =>
    match singles? table with
    | some column => .array column
    | none => .array (table.map .array)

/-- Whether all rows have one cell. Rows after the first that has not are not looked at. -/
def allSingle : List Value → Outcome Bool
  | [] => .ok true
  | row :: rest => do
    if (← row.width) = 1 then allSingle rest else return false

/-- A value as a line: a single value, an array that is no table, or a table of one row or one
column. -/
def lineOf (v : Value) : Outcome (List Value) :=
  match v with
  | .array (.array first :: rest) =>
    if rest.isEmpty then .ok first
    else do
      if ← allSingle (.array first :: rest) then (Value.array first :: rest).mapM (·.cell 0)
      else refuse .notOneLine
  | .array items => .ok items
  | v => .ok [v]

/-- A value that is looked up, which is not an array. -/
def single (v : Value) : Outcome Value :=
  match v with
  | .array _ => refuseCoercion .arrayLookupValue
  | v => .ok v

/-- Refuses because a value was not found. -/
def refuseNotFound {α : Type} (target : Value) : Outcome α := do
  refuse (.notFound (← target.shown))

end Lookup

end SheetFormulas
