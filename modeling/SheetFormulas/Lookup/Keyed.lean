import SheetFormulas.Lookup.Position
import SheetFormulas.Lookup.Table

/-!
Lookups: a value is found in a line of keys, and the answer is its position or the value at the same
place of another line.
-/

namespace SheetFormulas.Lookup

/-- The position of a target among keys: in sorted keys the last one not above it, otherwise the
first equal one, where a text may be a pattern. -/
def keyPosition (keys : List Value) (target : Value) (approximate : Bool) : Outcome (Option Nat) :=
  if approximate then scanSorted keys target false
  else exactPosition keys target (Wildcard.hasWildcards target) false

/-- Looks a value up among the first cells of the rows and answers with another cell of its row,
counted from one. -/
def inRows (lookup index isSorted : Value) (rows : List Value) : Outcome Value := do
  let target ← single lookup
  let index ← index.toInt
  if index < 1 then refuse .indexBelowOne
  else
    match rows with
    | [] => refuse (.indexOutsideTable index)
    | first :: _ =>
      if (← first.width) < index then refuse (.indexOutsideTable index)
      else
        let approximate ← if isSorted.isEmpty then pure true else isSorted.toBool
        let keys ← rows.mapM (·.cell 0)
        match ← keyPosition keys target approximate with
        | none => refuseNotFound target
        | some position =>
          match rows[position]? with
          | some row => row.cell (index.toNat - 1)
          | none => fail .pastRowEnd

/-- Looks a value up in the first column of a table. -/
def vertical (lookup table index isSorted : Value) : Outcome Value :=
  inRows lookup index isSorted table.rows

/-- The columns of a table, as long as its shortest row is wide. -/
def columns : List (List Value) → List (List Value)
  | [] => []
  | [row] => row.map ([·])
  | row :: rest => List.zipWith List.cons row (columns rest)

/-- Looks a value up in the first row of a table. -/
def horizontal (lookup table index isSorted : Value) : Outcome Value := do
  inRows lookup index isSorted ((columns (← table.rows.mapM Value.cells)).map .array)

/-- A position counted from one. -/
def positionFound (target : Value) : Option Nat → Outcome Nat
  | some position => .ok (position + 1)
  | none => refuseNotFound target

/-- The position of a value in a line: in ascending data for a positive match type, in descending
data for a negative one, and of an equal value for zero. -/
def matchPosition (lookup line type : Value) : Outcome Nat := do
  let target ← single lookup
  let line ← lineOf line
  let type ← type.toNumber
  positionFound target <| ←
    if type.isZero then exactPosition line target (Wildcard.hasWildcards target) false
    else scanSorted line target (type.lt (.int 0))

/-- The position of a target among keys, of which an empty line has none. -/
def positionAmong (keys : List Value) (target : Value) (mode : MatchMode) (search : SearchMode) :
    Outcome (Option Nat) :=
  if keys.isEmpty then .ok none else findPosition keys target mode search

/-- The position of a value in a line by match mode and search mode. -/
def matchPositionBy (lookup line mode search : Value) : Outcome Nat := do
  let target ← single lookup
  let (mode, search) ← modesOf mode search
  let keys ← lineOf line
  positionFound target (← positionAmong keys target mode search)

/-- One result for each position of a line of keys: the items of a line, the rows of a table that is
as high as the line is long, or the columns of one that is as wide. -/
def resultsFor (keyCount : Nat) (isColumn : Bool) (results : Value) : Outcome (List Value) :=
  match results with
  | .array (.array first :: rest) =>
    let rows := Value.array first :: rest
    if rows.length = keyCount ∧ (isColumn ∨ first.length ≠ keyCount) then
      rows.mapM fun row => do return collapse [← row.cells]
    else if first.length = keyCount then
      (List.range keyCount).mapM fun i => do
        return collapse ((← rows.mapM (·.cell i)).map ([·]))
    else refuse .sizesDiffer
  | _ => do
    let items ← lineOf results
    if items.length = keyCount then return items else refuse .sizesDiffer

/-- Whether a value is a table of several rows. -/
def isTall : Value → Bool
  | .array (.array _ :: _ :: _) => true
  | _ => false

/-- Looks a value up in a line and answers with the result at its position, with `otherwise` if it
is not found, or with "not available" if that is empty. -/
def lookupBy (lookup line results otherwise mode search : Value) : Outcome Value := do
  match lookup, mode, search with
  | .error kind, _, _ | _, .error kind, _ | _, _, .error kind => return .error kind
  | _, _, _ =>
    let target ← single lookup
    let (mode, search) ← modesOf mode search
    let keys ← lineOf line
    let results ← resultsFor keys.length (isTall line) results
    match ← positionAmong keys target mode search with
    | none => return if otherwise.isEmpty then .error .notAvailable else otherwise
    | some position =>
      match results[position]? with
      | some result => return result
      | none => fail .pastRowEnd

/-- The keys and the results of a lookup in one array: first and last row of a wide array, first and
last column otherwise. -/
def edges (rows : List Value) : Outcome (List Value × List Value) := do
  match rows with
  | [] => refuse .emptyLookup
  | first :: rest =>
    if rows.length < (← first.width) then
      return (← first.cells, ← ((first :: rest).getLast (by simp)).cells)
    else return (← rows.mapM (·.cell 0), ← rows.mapM (·.lastCell))

/-- Looks a value up in sorted data, with the results in another line or at the other edge of the
array. -/
def sortedLookup (lookup line results : Value) : Outcome Value := do
  let target ← single lookup
  let (keys, results) ←
    if results.isEmpty then edges line.rows
    else do
      let keys ← lineOf line
      pure (keys, ← lineOf results)
  match (← scanSorted keys target false).bind (results[·]?) with
  | some result => return result
  | none => refuseNotFound target

end SheetFormulas.Lookup
