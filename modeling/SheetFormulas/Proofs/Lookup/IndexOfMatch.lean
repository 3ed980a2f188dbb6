import SheetFormulas.Evaluation
import SheetFormulas.Proofs.Catalog.Call
import SheetFormulas.Proofs.Lookup.Tables

/-!
Table lookups by the index function and the match function: a lookup in a table is the cell that the
index function finds at the position that the match function answers with.
-/

namespace SheetFormulas.Lookup

open Value Run

section

variable {keys : List Value} {target : Value} {position : Nat}

/-- A scan finds the best place it has before, or a place that it reaches. -/
theorem scanFrom_eq_some {descending : Bool} {best : Option Nat} {start : Nat}
    (h : scanFrom target descending best start keys = .ok (some position)) :
    best = some position ∨ position < start + keys.length := by
  induction keys generalizing best start with
  | nil => exact .inl (Except.ok.inj h)
  | cons v rest ih =>
    -- the best place stays, or becomes the place of `v`
    have onward {next : Option Nat} (hn : next = best ∨ next = some start)
        (h : scanFrom target descending next (start + 1) rest = .ok (some position)) :
        best = some position ∨ position < start + (v :: rest).length := by
      rw [List.length_cons]
      rcases ih h with hb | hlt
      · rcases hn with rfl | rfl
        · exact .inl hb
        · cases hb
          exact .inr (by omega)
      · exact .inr (by omega)
    unfold scanFrom at h
    obtain ⟨comparable, -, h⟩ := Outcome.bind_eq_ok_iff.mp h
    cases comparable with
    | false => exact onward (.inl rfl) h
    | true =>
      rw [if_pos rfl] at h
      obtain ⟨compared, -, h⟩ := Outcome.bind_eq_ok_iff.mp h
      cases compared with
      | error kind => cases h
      | order o =>
        by_cases ho : o = .eq ∨ o = (if descending then .gt else .lt)
        · simp only [if_pos ho] at h
          exact onward (.inr rfl) h
        · simp only [if_neg ho] at h
          exact .inl (Except.ok.inj h)

theorem keyPosition_lt {approximate : Bool}
    (h : keyPosition keys target approximate = .ok (some position)) : position < keys.length := by
  cases approximate with
  | false =>
    rw [keyPosition, if_neg Bool.false_ne_true] at h
    obtain ⟨v, hv, -⟩ := exactPosition_eq_some h
    exact (List.getElem?_eq_some_iff.mp hv).1
  | true =>
    rcases scanFrom_eq_some h with hb | hlt
    · cases hb
    · omega

end

theorem single_ofScalar (s : Scalar) : single (.ofScalar s) = .ok (.ofScalar s) := by
  cases s <;> rfl

/-- The match function looks among keys as the table lookups do: in sorted keys for a match type of
one, and for an equal key for zero. -/
theorem matchPosition_flat (v : Scalar) (keys : List Scalar) (sorted : Bool) :
    matchPosition (.ofScalar v) (flat keys) (.ofInt (if sorted then 1 else 0)) =
      keyPosition (keys.map .ofScalar) (.ofScalar v) sorted >>= positionFound (.ofScalar v) := by
  have htype (n : Int) : (Value.ofInt n).toNumber = .ok (.int n) := toNumber_number rfl
  unfold matchPosition
  rw [single_ofScalar, Outcome.ok_bind, lineOf_flat, Outcome.ok_bind, htype, Outcome.ok_bind]
  cases sorted with
  | false =>
    have hzero : (Number.int 0).isZero = true := by
      rw [Number.isZero, Number.eq, Number.compare?_int]
      decide
    simp only [Bool.false_eq_true, if_false, hzero, if_true]
    rfl
  | true =>
    have hone : (Number.int 1).isZero = false := by
      rw [Number.isZero, Number.eq, Number.compare?_int]
      decide
    have hpositive : (Number.int 1).lt (.int 0) = false := by
      rw [Number.lt, Number.compare?_int]
      decide
    simp only [if_true, hone, hpositive, Bool.false_eq_true, if_false]
    rfl

theorem inRows_of_inside {lookup index first : Value} {rest keys : List Value} {i width : Nat}
    (hi : index.toInt = .ok (i + 1)) (hwidth : first.width = .ok width) (hlt : i < width)
    (hkeys : (first :: rest).mapM (·.cell 0) = .ok keys) (sorted : Bool) :
    inRows lookup index (.bool sorted) (first :: rest) =
      single lookup >>= fun target => keyPosition keys target sorted >>= fun found =>
        match found with
        | none => refuseNotFound target
        | some position =>
          match (first :: rest)[position]? with
          | some row => row.cell i
          | none => fail .pastRowEnd := by
  have hplace : ((i : Int) + 1).toNat - 1 = i := by omega
  unfold inRows
  congr 1
  funext target
  rw [hi, Outcome.ok_bind, if_neg (by omega)]
  dsimp only
  rw [hwidth, Outcome.ok_bind, if_neg (by omega), hkeys, hplace]
  rfl

/-- What is done with the position of a key is done with the answer of the match function. -/
theorem keyPosition_bind {keys : List Value} {target : Value} {sorted : Bool}
    {atPlace : Option Nat → Outcome Value} {atAnswer : Nat → Outcome Value}
    (hnone : atPlace none = refuseNotFound target)
    (hsome : ∀ place < keys.length, atPlace (some place) = atAnswer (place + 1)) :
    keyPosition keys target sorted >>= atPlace =
      (keyPosition keys target sorted >>= positionFound target) >>= atAnswer := by
  rw [bind_assoc]
  refine Outcome.bind_congr fun found hfound => ?_
  cases found with
  | none =>
    rw [hnone]
    exact (refuseNotFound_bind target atAnswer).symm
  | some place => exact hsome place (keyPosition_lt hfound)

section

variable {height width : Nat} (cell : Fin (height + 1) → Fin (width + 1) → Scalar)

/-- The first cells of the rows of a rectangle. -/
def firstCells : List Scalar := List.ofFn fun i => cell i 0

/-- A lookup by the first column takes the wanted cell from the row whose key is found. -/
theorem vertical_at_key (v : Scalar) (sorted : Bool) (j : Fin (width + 1)) (hj : j.val < 2 ^ 1022) :
    vertical (.ofScalar v) (rectangle cell) (.ofNat (j + 1)) (.bool sorted) =
      keyPosition ((firstCells cell).map .ofScalar) (.ofScalar v) sorted >>= fun found =>
        match found with
        | none => refuseNotFound (.ofScalar v)
        | some place =>
          match (rowsOf cell)[place]? with
          | some row => row.cell j
          | none => fail .pastRowEnd := by
  have hindex : (Value.ofNat (j + 1)).toInt = .ok ((j : Int) + 1) := toInt_ofInt _ (by omega)
  have hfirst : (flat (List.ofFn (cell 0))).width = .ok (width + 1) := width_row (cell 0)
  have hkeys : (rowsOf cell).mapM (·.cell 0) = .ok ((firstCells cell).map .ofScalar) := by
    rw [firstCells, List.map_ofFn]
    exact column_rowsOf cell 0
  rw [rowsOf_eq_cons] at hkeys
  rw [vertical, rows_rectangle, rowsOf_eq_cons, inRows_of_inside hindex hfirst j.isLt hkeys,
    single_ofScalar, Outcome.ok_bind]

theorem vertical_rectangle (v : Scalar) (sorted : Bool) (j : Fin (width + 1))
    (hheight : height < 2 ^ 1022) (hwidth : width < 2 ^ 1022) :
    vertical (.ofScalar v) (rectangle cell) (.ofNat (j + 1)) (.bool sorted) =
      matchPosition (.ofScalar v) (flat (firstCells cell)) (.ofInt (if sorted then 1 else 0)) >>=
        fun position => index (rectangle cell) (.ofNat position) (.ofNat (j + 1)) := by
  rw [vertical_at_key cell v sorted j (by omega), matchPosition_flat]
  refine keyPosition_bind rfl fun place hplace => ?_
  have hlt : place < height + 1 := by
    rwa [List.length_map, firstCells, List.length_ofFn] at hplace
  have hrow : (rowsOf cell)[place]? = some (flat (List.ofFn (cell ⟨place, hlt⟩))) :=
    getElem?_rowsOf cell ⟨place, hlt⟩
  dsimp only
  rw [hrow, index_rectangle cell ⟨place, hlt⟩ j hheight hwidth]
  exact cell_row (cell ⟨place, hlt⟩) j

end

theorem zipWith_ofFn {α β γ : Type} (f : α → β → γ) {n : Nat} (a : Fin n → α) (b : Fin n → β) :
    List.zipWith f (List.ofFn a) (List.ofFn b) = List.ofFn fun i => f (a i) (b i) := by
  induction n with
  | zero => simp only [List.ofFn_zero, List.zipWith_nil_left]
  | succ n ih => simp only [List.ofFn_succ, List.zipWith_cons_cons, ih]

/-- The columns of a rectangle are the rows of the rectangle on its side. -/
theorem columns_ofFn {height width : Nat} (cell : Fin (height + 1) → Fin width → Value) :
    columns (List.ofFn fun i => List.ofFn (cell i)) = List.ofFn fun j => List.ofFn (cell · j) := by
  induction height with
  | zero =>
    rw [List.ofFn_succ, List.ofFn_zero, columns, List.map_ofFn]
    rfl
  | succ height ih =>
    -- the first row goes in front of the columns of the others
    have hrest := ih fun i => cell i.succ
    have hne : List.ofFn (fun i : Fin (height + 1) => List.ofFn (cell i.succ)) ≠ [] := by
      rw [List.ofFn_succ]
      exact List.cons_ne_nil _ _
    rw [List.ofFn_succ, columns.eq_3 _ _ hne, hrest, zipWith_ofFn]
    refine congrArg List.ofFn (funext fun j => ?_)
    exact (List.ofFn_succ (f := (cell · j))).symm

theorem horizontal_rectangle {height width : Nat}
    (cell : Fin (height + 1) → Fin (width + 1) → Scalar) (lookup place isSorted : Value) :
    horizontal lookup (rectangle cell) place isSorted =
      vertical lookup (rectangle fun j i => cell i j) place isSorted := by
  have hcells : (rowsOf cell).mapM Value.cells =
      .ok (List.ofFn fun i => List.ofFn fun j => .ofScalar (cell i j)) :=
    Outcome.mapM_ofFn fun i => cells_row (cell i)
  have hcolumns : (columns (List.ofFn fun i => List.ofFn fun j => .ofScalar (cell i j))).map .array =
      rowsOf fun j i => cell i j := by
    rw [columns_ofFn, List.map_ofFn]
    refine congrArg List.ofFn (funext fun j => ?_)
    rw [flat, List.map_ofFn]
    rfl
  rw [horizontal, vertical, rows_rectangle, rows_rectangle, hcells, Outcome.ok_bind, hcolumns]

theorem sortedLookup_flat {keys results : List Scalar} (hlen : keys.length = results.length)
    (hsize : keys.length < 2 ^ 1022) (v : Scalar) :
    sortedLookup (.ofScalar v) (flat keys) (flat results) =
      matchPosition (.ofScalar v) (flat keys) (.ofInt 1) >>= fun position =>
        index (flat results) (.ofNat position) .empty := by
  have hmatch := matchPosition_flat v keys true
  rw [if_pos rfl] at hmatch
  have hgiven : (flat results).isEmpty = false := rfl
  unfold sortedLookup
  rw [single_ofScalar, Outcome.ok_bind, hmatch, hgiven, if_neg Bool.false_ne_true, lineOf_flat,
    lineOf_flat]
  refine @keyPosition_bind _ _ true _ _ rfl fun place hplace => ?_
  have hlt : place < results.length := by
    rwa [List.length_map, hlen] at hplace
  have hresult : (results.map Value.ofScalar)[place]? = some (.ofScalar results[place]) := by
    rw [List.getElem?_map, List.getElem?_eq_getElem hlt]
    rfl
  rw [index_flat results hlt (by omega)]
  show (match (results.map Value.ofScalar)[place]? with
    | some result => pure result
    | none => refuseNotFound (Value.ofScalar v)) = _
  rw [hresult]
  rfl

/-- The index function at the position that the match function answers with. -/
def indexOfMatch (context : Context) (lookup keys type table : Value) (column : Option Value) :
    Run Value := do
  let position ← Catalog.standard.call context "MATCH" [lookup, keys, type] []
  Catalog.standard.call context "INDEX" (table :: position :: column.toList) []

section

variable (context : Context) {lookup keys type table : Value} {column : Option Value}

theorem match_yields (hothers : ∀ a ∈ [keys, type], a.error? = none) :
    (Catalog.standard.call context "MATCH" [lookup, keys, type] []).Yields
      (Entry.guarded [lookup] (ofNat <$> matchPosition lookup keys type)) [] := by
  rw [← Entry.guarded_cons hothers]
  exact Catalog.standard_call_yields_guarded rfl rfl rfl

theorem index_yields (table position : Value) (column : Option Value) :
    (Catalog.standard.call context "INDEX" (table :: position :: column.toList) []).Yields
      (Entry.guarded (table :: position :: column.toList)
        (index table position (column.getD .empty))) [] := by
  rw [← Answer.toValue_map (index table position (column.getD .empty))]
  cases column <;> exact Catalog.standard_call_yields_guarded rfl rfl rfl

theorem index_yields_error (htable : table.error? = none) (kind : ErrorKind) :
    (Catalog.standard.call context "INDEX" (table :: .error kind :: column.toList) []).Yields
      (.ok (.error kind)) [] := by
  have hfirst : Entry.firstErrorOf (table :: .error kind :: column.toList) [] = some kind := by
    rw [Entry.firstErrorOf_cons, htable]
    rfl
  have hy := index_yields context table (.error kind) column
  rwa [Entry.guarded_of_error hfirst] at hy

theorem index_yields_answer (htable : table.error? = none)
    (hcolumn : ∀ c ∈ column.toList, c.error? = none) (place : Nat) :
    (Catalog.standard.call context "INDEX" (table :: .ofNat place :: column.toList) []).Yields
      (Value.answer (index table (.ofNat place) (column.getD .empty))) [] := by
  have hnone : Entry.firstErrorOf (table :: .ofNat place :: column.toList) [] = none := by
    rw [Entry.firstErrorOf_cons, htable, Entry.firstErrorOf_cons,
      Entry.firstErrorOf_eq_none_iff.mpr hcolumn]
    rfl
  have hy := index_yields context table (.ofNat place) column
  rwa [Entry.guarded_of_no_error hnone] at hy

/-- An error value that is looked up, or a refusal of the match function, passes through the index
function. -/
theorem indexOfMatch_yields (hothers : ∀ a ∈ [keys, type], a.error? = none)
    (htable : table.error? = none) (hcolumn : ∀ c ∈ column.toList, c.error? = none) :
    (indexOfMatch context lookup keys type table column).Yields
      (Entry.guarded [lookup] (matchPosition lookup keys type >>= fun place =>
        index table (.ofNat place) (column.getD .empty))) [] := by
  have hmatch := @match_yields context lookup _ _ hothers
  unfold indexOfMatch
  cases he : Entry.firstErrorOf [lookup] [] with
  | some kind =>
    -- the match function carries the error value on, and the index function meets it as a position
    rw [Entry.guarded_of_error he] at hmatch ⊢
    exact hmatch.bind (index_yields_error context htable kind)
  | none =>
    rw [Entry.guarded_of_no_error he] at hmatch ⊢
    cases hm : matchPosition lookup keys type with
    | ok place =>
      have ha : Value.answer (ofNat <$> matchPosition lookup keys type) = .ok (.ofNat place) := by
        rw [hm]
        rfl
      rw [ha] at hmatch
      rw [Outcome.ok_bind]
      exact hmatch.bind (index_yields_answer context htable hcolumn place)
    | error fault =>
      rw [hm] at hmatch
      rw [Outcome.error_bind]
      cases fault with
      | refusal cause => exact hmatch.bind (index_yields_error context htable cause.kind)
      | failure cause => exact hmatch.bind_error

end

section

variable (context : Context) (v : Scalar)

theorem vlookup_sameOutcome {height width : Nat} (cell : Fin (height + 1) → Fin (width + 1) → Scalar)
    (sorted : Bool) (j : Fin (width + 1)) (hheight : height < 2 ^ 1022) (hwidth : width < 2 ^ 1022) :
    (Catalog.standard.call context "VLOOKUP"
      [.ofScalar v, rectangle cell, .ofNat (j + 1), .bool sorted] []).SameOutcome
      (indexOfMatch context (.ofScalar v) (flat (firstCells cell))
        (.ofInt (if sorted then 1 else 0)) (rectangle cell) (some (.ofNat (j + 1)))) := by
  have hlookup : (Catalog.standard.call context "VLOOKUP"
      [.ofScalar v, rectangle cell, .ofNat (j + 1), .bool sorted] []).Yields
      (Entry.guarded [.ofScalar v]
        (vertical (.ofScalar v) (rectangle cell) (.ofNat (j + 1)) (.bool sorted))) [] := by
    have hothers : ∀ a ∈ [rectangle cell, .ofNat (j + 1), .bool sorted], a.error? = none := by
      simp [rectangle, ofNat, ofInt, error?]
    rw [← Entry.guarded_cons hothers, ← Answer.toValue_map (vertical _ _ _ _)]
    exact Catalog.standard_call_yields_guarded rfl rfl rfl
  have hindex := @indexOfMatch_yields context (.ofScalar v) (flat (firstCells cell))
    (.ofInt (if sorted then 1 else 0)) (rectangle cell) (some (.ofNat (j + 1)))
    (by simp [flat, ofInt, error?]) rfl (by simp [ofNat, ofInt, error?])
  rw [vertical_rectangle cell v sorted j hheight hwidth] at hlookup
  exact hlookup.sameOutcome hindex

theorem hlookup_sameOutcome {height width : Nat} (cell : Fin (height + 1) → Fin (width + 1) → Scalar)
    (place isSorted : Value) :
    (Catalog.standard.call context "HLOOKUP"
      [.ofScalar v, rectangle cell, place, isSorted] []).SameOutcome
      (Catalog.standard.call context "VLOOKUP"
        [.ofScalar v, rectangle fun j i => cell i j, place, isSorted] []) := by
  have hhorizontal : (Catalog.standard.call context "HLOOKUP"
      [.ofScalar v, rectangle cell, place, isSorted] []).Yields
      (Entry.guarded [.ofScalar v, rectangle cell, place, isSorted]
        (horizontal (.ofScalar v) (rectangle cell) place isSorted)) [] := by
    rw [← Answer.toValue_map (horizontal _ _ _ _)]
    exact Catalog.standard_call_yields_guarded rfl rfl rfl
  have hvertical : (Catalog.standard.call context "VLOOKUP"
      [.ofScalar v, rectangle fun j i => cell i j, place, isSorted] []).Yields
      (Entry.guarded [.ofScalar v, rectangle fun j i => cell i j, place, isSorted]
        (vertical (.ofScalar v) (rectangle fun j i => cell i j) place isSorted)) [] := by
    rw [← Answer.toValue_map (vertical _ _ _ _)]
    exact Catalog.standard_call_yields_guarded rfl rfl rfl
  rw [horizontal_rectangle] at hhorizontal
  exact hhorizontal.sameOutcome hvertical

theorem lookup_sameOutcome {keys results : List Scalar} (hlen : keys.length = results.length)
    (hsize : keys.length < 2 ^ 1022) :
    (Catalog.standard.call context "LOOKUP" [.ofScalar v, flat keys, flat results] []).SameOutcome
      (indexOfMatch context (.ofScalar v) (flat keys) (.ofInt 1) (flat results) none) := by
  have hlookup : (Catalog.standard.call context "LOOKUP"
      [.ofScalar v, flat keys, flat results] []).Yields
      (Entry.guarded [.ofScalar v] (sortedLookup (.ofScalar v) (flat keys) (flat results))) [] := by
    have hothers : ∀ a ∈ [flat keys, flat results], a.error? = none := by
      simp [flat, error?]
    rw [← Entry.guarded_cons hothers, ← Answer.toValue_map (sortedLookup _ _ _)]
    exact Catalog.standard_call_yields_guarded rfl rfl rfl
  have hindex := @indexOfMatch_yields context (.ofScalar v) (flat keys) (.ofInt 1) (flat results)
    none (by simp [flat, ofInt, error?]) rfl (by simp)
  rw [sortedLookup_flat hlen hsize] at hlookup
  exact hlookup.sameOutcome hindex

/-- Every lookup in a table by its first column is an access to the table at the matching position,
every lookup by its first row is one by the first column of the table on its side, and every lookup
in sorted keys is an access to the results at the matching position. An access converts its position
through a double, so the lines must not be longer than doubles reach, as is so of any line in
memory. -/
theorem table_lookups_are_index_of_match :
    (∀ {height width : Nat} (cell : Fin (height + 1) → Fin (width + 1) → Scalar) (sorted : Bool),
      (height < 2 ^ 1022 → width < 2 ^ 1022 → ∀ j : Fin (width + 1),
        (Catalog.standard.call context "VLOOKUP"
          [.ofScalar v, rectangle cell, .ofNat (j + 1), .bool sorted] []).SameOutcome
          (indexOfMatch context (.ofScalar v) (flat (firstCells cell))
            (.ofInt (if sorted then 1 else 0)) (rectangle cell) (some (.ofNat (j + 1))))) ∧
      ∀ i : Fin (height + 1),
        (Catalog.standard.call context "HLOOKUP"
          [.ofScalar v, rectangle cell, .ofNat (i + 1), .bool sorted] []).SameOutcome
          (Catalog.standard.call context "VLOOKUP"
            [.ofScalar v, rectangle fun j i => cell i j, .ofNat (i + 1), .bool sorted] [])) ∧
    ∀ {keys results : List Scalar}, keys.length = results.length → keys.length < 2 ^ 1022 →
      (Catalog.standard.call context "LOOKUP"
        [.ofScalar v, flat keys, flat results] []).SameOutcome
        (indexOfMatch context (.ofScalar v) (flat keys) (.ofInt 1) (flat results) none) := by
  refine ⟨fun cell sorted => ⟨fun hheight hwidth j => ?_, fun i => ?_⟩, fun hlen hsize => ?_⟩
  · exact vlookup_sameOutcome context v cell sorted j hheight hwidth
  · exact hlookup_sameOutcome context v cell (.ofNat (i + 1)) (.bool sorted)
  · exact lookup_sameOutcome context v hlen hsize

end

/-- A switch that is looked up among two, by its first column, by its first row and in a line. -/
theorem table_lookups_find_switch :
    let context := Environment.contextAt ⟨Catalog.standard, [], ⟨⟨2024, 1, 15⟩, .midnight⟩⟩ 1
    let cell : Fin 2 → Fin 2 → Scalar := fun i j =>
      if j = 0 then .bool (i = 1) else .text (if i = 1 then "on" else "off")
    let keys : List Scalar := [.bool false, .bool true]
    let results : List Scalar := [.text "off", .text "on"]
    let column := indexOfMatch context (.bool true) (flat (firstCells cell)) (.ofInt 0)
      (rectangle cell) (some (.ofNat 2))
    let item := indexOfMatch context (.bool true) (flat keys) (.ofInt 1) (flat results) none
    (1 < 2 ^ 1022 ∧ column.Yields (.ok (.text "on")) [] ∧
      (Catalog.standard.call context "VLOOKUP"
        [.bool true, rectangle cell, .ofNat 2, .bool false] []).SameOutcome column ∧
      (Catalog.standard.call context "HLOOKUP"
        [.bool true, rectangle fun j i => cell i j, .ofNat 2, .bool false] []).SameOutcome
        (Catalog.standard.call context "VLOOKUP"
          [.bool true, rectangle cell, .ofNat 2, .bool false] [])) ∧
    (keys.length = results.length ∧ keys.length < 2 ^ 1022 ∧ item.Yields (.ok (.text "on")) [] ∧
      (Catalog.standard.call context "LOOKUP"
        [.bool true, flat keys, flat results] []).SameOutcome item) := by
  intro context cell keys results column item
  have hone : 1 < 2 ^ 1022 := Number.lt_two_pow (by decide) (by decide)
  have hsize : keys.length < 2 ^ 1022 := Number.lt_two_pow (by decide) (by decide)
  obtain ⟨tables, lines⟩ := table_lookups_are_index_of_match context (.bool true)
  have hcolumn : column.Yields (.ok (.text "on")) [] := by
    have hy := @indexOfMatch_yields context (.bool true) (flat (firstCells cell)) (.ofInt 0)
      (rectangle cell) (some (.ofNat 2)) (by simp [flat, ofInt, error?]) rfl
      (by simp [ofNat, ofInt, error?])
    have hm : matchPosition (.bool true) (flat (firstCells cell)) (.ofInt 0) = .ok 2 :=
      (matchPosition_flat (.bool true) (firstCells cell) false).trans rfl
    have hi : index (rectangle cell) (.ofNat 2) (.ofNat 2) = .ok (.text "on") :=
      index_rectangle cell 1 1 hone hone
    rwa [hm, Outcome.ok_bind, Option.getD_some, hi] at hy
  have hitem : item.Yields (.ok (.text "on")) [] := by
    have hy := @indexOfMatch_yields context (.bool true) (flat keys) (.ofInt 1) (flat results) none
      (by simp [flat, ofInt, error?]) rfl (by simp)
    have hm : matchPosition (.bool true) (flat keys) (.ofInt 1) = .ok 2 :=
      (matchPosition_flat (.bool true) keys true).trans rfl
    have hi : index (flat results) (.ofNat 2) .empty = .ok (.text "on") :=
      index_flat results (by decide) hsize
    rwa [hm, Outcome.ok_bind, Option.getD_none, hi] at hy
  exact ⟨⟨hone, hcolumn, (tables cell false).1 hone hone 1, (tables (fun j i => cell i j) false).2 1⟩,
    rfl, hsize, hitem, lines rfl hsize⟩

end SheetFormulas.Lookup
