import SheetFormulas.Evaluation
import SheetFormulas.Proofs.Catalog.Call
import SheetFormulas.Proofs.Lookup.RealCell
import SheetFormulas.Proofs.Lookup.Refusals
import SheetFormulas.Proofs.Lookup.Tables

/-!
What a lookup with a line of keys and an array of results answers: the result at the position that
the match function finds for the same keys and modes.
-/

namespace SheetFormulas.Lookup

open Value Run Outcome

/-- How a line of keys is written as an argument. -/
inductive Layout where
  | line
  | row
  | column
  deriving DecidableEq

/-- The keys as an argument: an array, a table of one row, or a table of one column. -/
def Layout.written (keys : List Scalar) : Layout → Value
  | line => flat keys
  | row => .array [flat keys]
  | column => .array (keys.map fun key => flat [key])

/-- An array of results: a line of them, or a table. -/
inductive Results where
  | line (items : List Scalar)
  | table {height width : Nat} (cell : Fin (height + 1) → Fin width → Scalar)

/-- Cells in their simplest form: the only one itself, or all of them in an array. -/
def simplest : List Value → Value
  | [v] => v
  | cells => .array cells

namespace Results

def written : Results → Value
  | line items => flat items
  | table cell => rectangle cell

/-- Whether there is a result for each of the keys. -/
def Fits (count : Nat) : Results → Prop
  | line items => items.length = count
  | @table height width _ => height + 1 = count ∨ width = count

/-- Whether the rows of a table are its results rather than its columns: where there is one for each
key, and the keys stand in a column themselves or the columns are not as many. -/
def ByRows (layout : Layout) (count height width : Nat) : Prop :=
  height = count ∧ (layout = .column ∨ width ≠ count)

/-- The result at a place. -/
inductive Selected (layout : Layout) (count place : Nat) : Results → Value → Prop
  | item {items : List Scalar} (h : place < items.length) :
      Selected layout count place (line items) (.ofScalar items[place])
  | row {height width : Nat} {cell : Fin (height + 1) → Fin width → Scalar} (i : Fin (height + 1))
      (hplace : i = place) (hrows : ByRows layout count (height + 1) width) :
      Selected layout count place (table cell) (simplest (List.ofFn fun j => .ofScalar (cell i j)))
  | column {height width : Nat} {cell : Fin (height + 1) → Fin width → Scalar} (j : Fin width)
      (hplace : j = place) (hrows : ¬ ByRows layout count (height + 1) width)
      (hcolumns : width = count) :
      Selected layout count place (table cell) (simplest (List.ofFn fun i => .ofScalar (cell i j)))

end Results

/-- What a lookup answers where the match function answers with `found`. -/
inductive Selects (layout : Layout) (count : Nat) (results : Results) (otherwise : Value) :
    Value → Value → Prop
  | selected {place : Nat} {answer : Value} (hplace : place < count) (hfits : results.Fits count)
      (h : results.Selected layout count place answer) :
      Selects layout count results otherwise (.ofNat (place + 1)) answer
  | notFound (hfits : results.Fits count) :
      Selects layout count results otherwise (.error .notAvailable)
        (if otherwise.isEmpty then .error .notAvailable else otherwise)
  | failed {kind : ErrorKind} (h : kind ≠ .notAvailable) :
      Selects layout count results otherwise (.error kind) (.error kind)
  | misfit {found : Value} (hfits : ¬ results.Fits count)
      (h : (∃ place < count, found = .ofNat (place + 1)) ∨ found = .error .notAvailable) :
      Selects layout count results otherwise found (.error .badValue)

section

variable {layout : Layout} {keys : List Scalar}

theorem firstCells_column (keys : List Scalar) :
    (keys.map fun key => flat [key]).mapM (·.cell 0) = .ok (keys.map .ofScalar) := by
  induction keys with
  | nil => rfl
  | cons key rest ih =>
    rw [List.map_cons, List.mapM_cons, cell_flat [key] Nat.zero_lt_one, ih]
    rfl

theorem allSingle_column (keys : List Scalar) :
    allSingle (keys.map fun key => flat [key]) = .ok true := by
  induction keys with
  | nil => rfl
  | cons key rest ih =>
    rw [List.map_cons, allSingle, width_flat, ok_bind]
    exact ih

theorem lineOf_written (h : layout = .column → 1 < keys.length) :
    lineOf (layout.written keys) = .ok (keys.map .ofScalar) := by
  cases layout with
  | line => exact lineOf_flat keys
  | row => rfl
  | column =>
    have hcells := firstCells_column keys
    have hsingle := allSingle_column keys
    match keys, h rfl with
    | key :: next :: rest, _ =>
      show (allSingle ((key :: next :: rest).map fun key => flat [key]) >>= fun single =>
        if single then ((key :: next :: rest).map fun key => flat [key]).mapM (Value.cell · 0)
        else refuse .notOneLine) = _
      rw [hsingle, ok_bind, if_pos rfl, hcells]

theorem isTall_written (h : layout = .column → 1 < keys.length) :
    isTall (layout.written keys) = decide (layout = .column) := by
  cases layout with
  | line =>
    match keys with
    | [] => rfl
    | s :: rest => cases s <;> rfl
  | row => rfl
  | column =>
    match keys, h rfl with
    | _ :: _ :: _, _ => rfl

end

theorem collapse_row (cells : List Value) : collapse [cells] = simplest cells := by
  match cells with
  | [] => rfl
  | [_] => rfl
  | _ :: _ :: _ => rfl

theorem singles?_map (cells : List Value) : singles? (cells.map ([·])) = some cells := by
  induction cells with
  | nil => rfl
  | cons v rest ih => rw [List.map_cons, singles?, ih]; rfl

theorem collapse_column (cells : List Value) : collapse (cells.map ([·])) = simplest cells := by
  match cells with
  | [] => rfl
  | [_] => rfl
  | v :: w :: rest =>
    have hs := singles?_map (v :: w :: rest)
    simp only [List.map_cons] at hs ⊢
    simp only [collapse, hs, simplest]

theorem resultsFor_line (count : Nat) (isColumn : Bool) (items : List Scalar) :
    resultsFor count isColumn (flat items) =
      if items.length = count then .ok (items.map .ofScalar) else refuse .sizesDiffer := by
  have hopen : resultsFor count isColumn (flat items) =
      lineOf (flat items) >>= fun results =>
        if results.length = count then .ok results else refuse .sizesDiffer := by
    cases items with
    | nil => rfl
    | cons s rest => cases s <;> rfl
  rw [hopen, lineOf_flat, ok_bind, List.length_map]

theorem resultsFor_table {height width : Nat} (count : Nat) (isColumn : Bool)
    (cell : Fin (height + 1) → Fin width → Scalar) :
    resultsFor count isColumn (rectangle cell) =
      if height + 1 = count ∧ (isColumn = true ∨ width ≠ count) then
        .ok (List.ofFn fun i => simplest (List.ofFn fun j => .ofScalar (cell i j)))
      else if width = count then
        .ok (List.ofFn fun j => simplest (List.ofFn fun i => .ofScalar (cell i j)))
      else refuse .sizesDiffer := by
  have hopen : resultsFor count isColumn (rectangle cell) =
      if (rowsOf cell).length = count ∧
          (isColumn = true ∨ ((List.ofFn (cell 0)).map Value.ofScalar).length ≠ count) then
        (rowsOf cell).mapM fun row => row.cells >>= fun cells => .ok (collapse [cells])
      else if ((List.ofFn (cell 0)).map Value.ofScalar).length = count then
        (List.range count).mapM fun j => (rowsOf cell).mapM (·.cell j) >>= fun cells =>
          .ok (collapse (cells.map ([·])))
      else refuse .sizesDiffer := by
    rw [rectangle, rowsOf_eq_cons]
    rfl
  have hrows : (rowsOf cell).mapM (fun row => row.cells >>= fun cells => .ok (collapse [cells])) =
      .ok (List.ofFn fun i => simplest (List.ofFn fun j => .ofScalar (cell i j))) :=
    Outcome.mapM_ofFn fun i => by rw [cells_row, ok_bind, collapse_row]
  have hcolumns : (List.range width).mapM (fun j => (rowsOf cell).mapM (·.cell j) >>= fun cells =>
      .ok (collapse (cells.map ([·])))) =
      .ok (List.ofFn fun j => simplest (List.ofFn fun i => .ofScalar (cell i j))) := by
    have hrange : List.range width = List.ofFn fun j : Fin width => (j : Nat) := by
      rw [← List.map_coe_finRange_eq_range, ← List.ofFn_id, List.map_ofFn]
      rfl
    rw [hrange]
    refine Outcome.mapM_ofFn fun j => ?_
    rw [column_rowsOf, ok_bind, collapse_column]
  rw [hopen, length_rowsOf, List.length_map, List.length_ofFn, hrows]
  split_ifs with hr hc
  · rfl
  · subst hc
    exact hcolumns
  · rfl

theorem resultsFor_of_fits {layout : Layout} {count : Nat} {results : Results}
    (h : results.Fits count) :
    ∃ items, resultsFor count (decide (layout = .column)) results.written = .ok items ∧
      ∀ place < count, ∃ answer, items[place]? = some answer ∧
        results.Selected layout count place answer := by
  cases results with
  | line items =>
    refine ⟨items.map .ofScalar, ?_, fun place hplace => ?_⟩
    · exact (resultsFor_line ..).trans (if_pos h)
    · have hlt : place < items.length := by rwa [h]
      refine ⟨.ofScalar items[place], ?_, .item hlt⟩
      rw [List.getElem?_map, List.getElem?_eq_getElem hlt]
      rfl
  | @table height width cell =>
    rw [Results.written, resultsFor_table]
    simp only [decide_eq_true_eq]
    split_ifs with hr hc
    · refine ⟨_, rfl, fun place hplace => ?_⟩
      have hlt : place < height + 1 := by rwa [hr.1]
      refine ⟨_, ?_, .row ⟨place, hlt⟩ rfl hr⟩
      rw [List.getElem?_ofFn, dif_pos hlt]
    · refine ⟨_, rfl, fun place hplace => ?_⟩
      have hlt : place < width := by rwa [hc]
      refine ⟨_, ?_, .column ⟨place, hlt⟩ rfl hr hc⟩
      rw [List.getElem?_ofFn, dif_pos hlt]
    · exact absurd ⟨h.resolve_right hc, .inr hc⟩ hr

theorem resultsFor_of_not_fits {count : Nat} {results : Results} (isColumn : Bool)
    (h : ¬ results.Fits count) :
    resultsFor count isColumn results.written = refuse .sizesDiffer := by
  cases results with
  | line items => exact (resultsFor_line ..).trans (if_neg h)
  | @table height width cell =>
    obtain ⟨hheight, hwidth⟩ := not_or.mp h
    rw [Results.written, resultsFor_table, if_neg fun hr => hheight hr.1, if_neg hwidth]

section

variable {layout : Layout} {keys : List Scalar} {v mode search : Value}

theorem matchPositionBy_written (hcolumn : layout = .column → 1 < keys.length) :
    matchPositionBy v (layout.written keys) mode search =
      single v >>= fun target => modesOf mode search >>= fun modes =>
        positionAmong (keys.map .ofScalar) target modes.1 modes.2 >>= positionFound target := by
  unfold matchPositionBy
  rw [lineOf_written hcolumn]
  rfl

theorem lookupBy_written (hcolumn : layout = .column → 1 < keys.length) (hv : v.error? = none)
    (hmode : mode.error? = none) (hsearch : search.error? = none) (results otherwise : Value) :
    lookupBy v (layout.written keys) results otherwise mode search =
      single v >>= fun target => modesOf mode search >>= fun modes =>
        resultsFor keys.length (decide (layout = .column)) results >>= fun items =>
          positionAmong (keys.map .ofScalar) target modes.1 modes.2 >>= fun found =>
            match found with
            | none => .ok (if otherwise.isEmpty then .error .notAvailable else otherwise)
            | some place =>
              match items[place]? with
              | some result => .ok result
              | none => fail .pastRowEnd := by
  unfold lookupBy
  split
  · cases hv
  · cases hmode
  · cases hsearch
  · rw [lineOf_written hcolumn, isTall_written hcolumn]
    simp only [ok_bind, List.length_map]
    rfl

end

theorem single_refusesOnly (v : Value) : RefusesOnly IsBadValue (single v) := by
  cases v with
  | array items => exact refusesOnly_coercion _
  | _ => exact .ok _

theorem positionAmong_lt {values : List Value} {target : Value} {mode : MatchMode}
    {search : SearchMode} {place : Nat}
    (h : positionAmong values target mode search = .ok (some place)) : place < values.length := by
  unfold positionAmong at h
  split at h
  · cases h
  · rcases findPosition_present_or_isReadUnseen h with ⟨w, hw, -⟩ | hunseen
    · exact (List.getElem?_eq_some_iff.mp hw).1
    · obtain ⟨w, hw, -⟩ := present_or_slipsIn_of_isReadUnseen hunseen
      exact (List.getElem?_eq_some_iff.mp hw).1

/-- A value that was not found is answered with "not available", if a message about it can be
written at all. -/
theorem eq_notAvailable_of_refuseNotFound {v target found : Value} (ht : single v = .ok target)
    (h : Value.answer (refuseNotFound target) = .ok found) : found = .error .notAvailable := by
  have hshown : RefusesOnly (fun _ => False) target.shown := by
    cases v with
    | array items => cases ht
    | number n => cases ht; exact n.shown_refusesOnly _
    | bool b => cases ht; cases b <;> exact .ok _
    | _ => cases ht; exact .ok _
  unfold refuseNotFound at h
  cases hs : target.shown with
  | ok text =>
    rw [hs] at h
    exact (Except.ok.inj h).symm
  | error fault =>
    rw [hs] at h
    cases fault with
    | refusal cause => exact (hshown cause hs).elim
    | failure cause => cases h

/-- What the match function answers tells what the search found. -/
theorem answered_position {v target found : Value} {x : Outcome (Option Nat)}
    (ht : single v = .ok target)
    (h : Value.answer (ofNat <$> (x >>= positionFound target)) = .ok found) :
    (∃ place, x = .ok (some place) ∧ found = .ofNat (place + 1)) ∨
      (x = .ok none ∧ found = .error .notAvailable) ∨
      ∃ cause, x = refuse cause ∧ found = .error cause.kind := by
  rcases x with (cause | cause) | _ | place
  · exact .inr (.inr ⟨cause, rfl, (Except.ok.inj h).symm⟩)
  · cases h
  · have hmissing : ofNat <$> positionFound target none = refuseNotFound target :=
      (map_eq_pure_bind ofNat _).trans (refuseNotFound_bind target _)
    rw [ok_bind, hmissing] at h
    exact .inr (.inl ⟨rfl, eq_notAvailable_of_refuseNotFound ht h⟩)
  · exact .inl ⟨place, rfl, (Except.ok.inj h).symm⟩

section

variable {layout : Layout} {keys : List Scalar} {results : Results} {otherwise found : Value}

/-- What both functions refuse alike. -/
theorem selects_of_refused {α : Type} {count : Nat} {x : Outcome α} {fault : Fault}
    (hx : RefusesOnly IsNotMissing x) (he : x = .error fault)
    (h : Value.answer (.error fault) = .ok found) :
    ∃ answer, Selects layout count results otherwise found answer ∧
      Value.answer (.error fault) = .ok answer := by
  cases fault with
  | failure cause => cases h
  | refusal cause =>
    cases h
    exact ⟨_, .failed (hx cause he), rfl⟩

section

variable {count : Nat} {v target : Value} {x : Outcome (Option Nat)}

theorem selects_of_fits {items : List Value} (hfits : results.Fits count)
    (hat : ∀ place < count, ∃ answer, items[place]? = some answer ∧
      results.Selected layout count place answer)
    (hx : RefusesOnly IsBadValue x) (hlt : ∀ place, x = .ok (some place) → place < count)
    (ht : single v = .ok target)
    (h : Value.answer (ofNat <$> (x >>= positionFound target)) = .ok found) :
    ∃ answer, Selects layout count results otherwise found answer ∧
      Value.answer (x >>= fun position =>
        match position with
        | none => .ok (if otherwise.isEmpty then .error .notAvailable else otherwise)
        | some place =>
          match items[place]? with
          | some result => .ok result
          | none => fail .pastRowEnd) = .ok answer := by
  rcases answered_position ht h with ⟨place, rfl, rfl⟩ | ⟨rfl, rfl⟩ | ⟨cause, rfl, rfl⟩
  · obtain ⟨answer, hitem, hselected⟩ := hat place (hlt place rfl)
    refine ⟨answer, .selected (hlt place rfl) hfits hselected, ?_⟩
    rw [ok_bind]
    dsimp only
    rw [hitem]
    rfl
  · exact ⟨_, .notFound hfits, rfl⟩
  · exact ⟨_, .failed (isNotMissing_of_isBadValue (hx cause rfl)), rfl⟩

/-- Where the results do not fit, what the search finds does not matter. -/
theorem selects_of_not_fits (hfits : ¬ results.Fits count) (hx : RefusesOnly IsBadValue x)
    (hlt : ∀ place, x = .ok (some place) → place < count) (ht : single v = .ok target)
    (h : Value.answer (ofNat <$> (x >>= positionFound target)) = .ok found) :
    Selects layout count results otherwise found (.error .badValue) := by
  rcases answered_position ht h with ⟨place, rfl, rfl⟩ | ⟨-, rfl⟩ | ⟨cause, rfl, rfl⟩
  · exact .misfit hfits (.inl ⟨place, hlt place rfl, rfl⟩)
  · exact .misfit hfits (.inr rfl)
  · -- whatever a search refuses is a bad value, as are results that do not fit
    rw [hx cause rfl]
    exact .failed (by decide)

end

theorem lookupBy_selects {v mode search : Value} (hcolumn : layout = .column → 1 < keys.length)
    (hv : v.error? = none) (hmode : mode.error? = none) (hsearch : search.error? = none)
    (h : Value.answer (ofNat <$> matchPositionBy v (layout.written keys) mode search) = .ok found) :
    ∃ answer, Selects layout keys.length results otherwise found answer ∧
      Value.answer (lookupBy v (layout.written keys) results.written otherwise mode search) =
        .ok answer := by
  rw [matchPositionBy_written hcolumn] at h
  rw [lookupBy_written hcolumn hv hmode hsearch]
  cases ht : single v with
  | error fault =>
    -- both functions read the value and the modes before anything else
    rw [ht] at h
    exact selects_of_refused ((single_refusesOnly v).mono isNotMissing_of_isBadValue) ht h
  | ok target =>
    rw [ht, ok_bind] at h
    rw [ok_bind]
    cases hm : modesOf mode search with
    | error fault =>
      rw [hm] at h
      exact selects_of_refused (modesOf_refusesOnly hmode hsearch) hm h
    | ok modes =>
      rw [hm, ok_bind] at h
      rw [ok_bind]
      have hlt (place : Nat)
          (hp : positionAmong (keys.map .ofScalar) target modes.1 modes.2 = .ok (some place)) :
          place < keys.length := by
        have hinside := positionAmong_lt hp
        rwa [List.length_map] at hinside
      -- the sizes are compared before the search begins
      by_cases hfits : results.Fits keys.length
      · obtain ⟨items, hitems, hat⟩ := @resultsFor_of_fits layout _ _ hfits
        rw [hitems, ok_bind]
        exact selects_of_fits hfits hat positionAmong_refusesOnly hlt ht h
      · rw [resultsFor_of_not_fits _ hfits]
        exact ⟨_, selects_of_not_fits hfits positionAmong_refusesOnly hlt ht h, rfl⟩

/-- A lookup answers with what it is to select at the answer of the match function for the same keys
and modes, wherever that answers with a value. -/
theorem lookup_selects_matched (context : Context) {v mode search : Value}
    (hv : v.error? = none) (hmode : mode.error? = none) (hsearch : search.error? = none)
    (hcolumn : layout = .column → 1 < keys.length) (results : Results) (otherwise : Value)
    (hfound : (Catalog.standard.call context "XMATCH"
      [v, layout.written keys, mode, search] []).Yields (.ok found) []) :
    ∃ answer, Selects layout keys.length results otherwise found answer ∧
      (Catalog.standard.call context "XLOOKUP"
        [v, layout.written keys, results.written, otherwise, mode, search] []).Yields
        (.ok answer) [] := by
  have hmatch : (Catalog.standard.call context "XMATCH"
      [v, layout.written keys, mode, search] []).Yields
      (Entry.guarded [v, layout.written keys, mode, search]
        (ofNat <$> matchPositionBy v (layout.written keys) mode search)) [] :=
    Catalog.standard_call_yields_guarded rfl rfl rfl
  have hfirst : Entry.firstErrorOf [v, layout.written keys, mode, search] [] = none := by
    have hkeys : (layout.written keys).error? = none := by cases layout <;> rfl
    rw [Entry.firstErrorOf_cons, Entry.firstErrorOf_cons, Entry.firstErrorOf_cons,
      Entry.firstErrorOf_cons, hv, hkeys, hmode, hsearch]
    rfl
  rw [Entry.guarded_of_no_error hfirst] at hmatch
  obtain ⟨answer, hselects, ha⟩ := @lookupBy_selects layout keys results otherwise found v mode
    search hcolumn hv hmode hsearch (hmatch.unique hfound).1
  refine ⟨answer, hselects, ?_⟩
  rw [← ha, ← Answer.toValue_map (lookupBy _ _ _ _ _ _)]
  exact Catalog.standard_call_yields_of_seeing rfl rfl (Yields.ofOutcome _)

end

/-- For keys in a column, a square table gives the row of the key. -/
theorem lookup_selects_row_of_square :
    let context := Environment.contextAt ⟨Catalog.standard, [], ⟨⟨2024, 1, 15⟩, .midnight⟩⟩ 1
    let keys : List Scalar := [.bool false, .bool true]
    let cell : Fin 2 → Fin 2 → Scalar := fun i j =>
      .text (if i = 0 then "upper" else if j = 0 then "left" else "right")
    (Value.bool true).error? = none ∧ (Value.ofInt 0).error? = none ∧
      (Value.ofInt 1).error? = none ∧ 1 < keys.length ∧
      (Catalog.standard.call context "XMATCH"
        [.bool true, Layout.column.written keys, .ofInt 0, .ofInt 1] []).Yields
        (.ok (.ofNat 2)) [] ∧
      (Catalog.standard.call context "XLOOKUP"
        [.bool true, Layout.column.written keys, (Results.table cell).written, .empty, .ofInt 0,
          .ofInt 1] []).Yields (.ok (.array [.text "left", .text "right"])) [] := by
  intro context keys cell
  have hcolumn : Layout.column = .column → 1 < keys.length := fun _ => by decide
  have hmatch : matchPositionBy (.bool true) (Layout.column.written keys) (.ofInt 0) (.ofInt 1) =
      .ok 2 := by
    rw [matchPositionBy_written hcolumn, modesOf_ofInt rfl rfl]
    rfl
  have hfound : (Catalog.standard.call context "XMATCH"
      [.bool true, Layout.column.written keys, .ofInt 0, .ofInt 1] []).Yields
      (.ok (.ofNat 2)) [] := by
    have hy : (Catalog.standard.call context "XMATCH"
        [.bool true, Layout.column.written keys, .ofInt 0, .ofInt 1] []).Yields
        (Entry.guarded [.bool true, Layout.column.written keys, .ofInt 0, .ofInt 1]
          (ofNat <$> matchPositionBy (.bool true) (Layout.column.written keys) (.ofInt 0)
            (.ofInt 1))) [] :=
      Catalog.standard_call_yields_guarded rfl rfl rfl
    rwa [hmatch] at hy
  obtain ⟨answer, hselects, hy⟩ := lookup_selects_matched context rfl rfl rfl hcolumn
    (Results.table cell) .empty hfound
  have hanswer : answer = .array [.text "left", .text "right"] := by
    generalize hf : Value.ofNat 2 = found at hselects
    cases hselects with
    | @selected place answer hplace hfits h =>
      have hone : place = 1 := by
        simp only [ofNat, ofInt, number.injEq, Number.int.injEq] at hf
        omega
      cases h with
      | row i hi hrows =>
        obtain rfl : i = 1 := Fin.ext (hi.trans hone)
        rfl
      | column j hj hrows => exact absurd ⟨rfl, .inl rfl⟩ hrows
    | notFound => cases hf
    | failed => cases hf
    | misfit hfits h => exact absurd (.inl rfl) hfits
  rw [hanswer] at hy
  exact ⟨rfl, rfl, rfl, by decide, hfound, hy⟩

end SheetFormulas.Lookup
