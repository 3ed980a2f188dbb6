import SheetFormulas.Proofs.Lookup.Areas

/-!
Cells addressed by the offset function and the index function. Both give the same cells, an offset
of an offset is one offset by the sums, and a place outside the reference is a bad reference for
both. Places and sizes are converted through doubles, so the call fails with an overflow where one
of them is a whole number that no double comes near.
-/

namespace SheetFormulas.Lookup

open Value Run

/-- A size that may be left out, as an argument. -/
def sizeArgument (size : Option Int) : Value := size.elim .empty .ofInt

/-- The arguments for a height and a width that may be left out. -/
def sizeArguments : Option Int → Option Int → List Value
  | none, none => []
  | some h, none => [.ofInt h]
  | h, some w => [sizeArgument h, .ofInt w]

/-- Whether all of some whole numbers have doubles. -/
def haveDoubles (numbers : List Int) : Bool := numbers.all fun n => (Number.int n).hasDouble

/-- What the offset function is to give: the area that starts `r` rows below and `c` columns right of
the corner, or a bad reference if it does not lie inside; without a size the area reaches to the
edge. A number without a double makes the call fail. -/
def addressed (sheet : Nat → Nat → Scalar) (height width : Nat) (r c : Int) (h w : Option Int) :
    Outcome Value :=
  if haveDoubles ([r, c] ++ h.toList ++ w.toList) then
    if LiesInside height width r c (h.getD (height - r)) (w.getD (width - c)) then
      .ok (area sheet r.toNat c.toNat (h.getD (height - r)).toNat (w.getD (width - c)).toNat)
    else .ok (.error .badReference)
  else fail .overflow

section

variable {sheet : Nat → Nat → Scalar} {height width : Nat} {reference : Value}

theorem toFloor_ofInt_bind {α : Type} (n : Int) (f : Int → Outcome α) :
    (ofInt n).toFloor >>= f = if (Number.int n).hasDouble then f n else fail .overflow := by
  rw [toFloor_ofInt_eq]
  split <;> rfl

theorem extent_bind {α : Type} (size : Option Int) (full : Nat) (start : Int)
    (f : Int → Outcome α) :
    extent (sizeArgument size) full start >>= f =
      if size.all fun n => (Number.int n).hasDouble then f (size.getD (full - start))
      else fail .overflow := by
  cases size with
  | none => rfl
  | some n => exact toFloor_ofInt_bind n f

theorem haveDoubles_eq (r c : Int) (h w : Option Int) :
    haveDoubles ([r, c] ++ h.toList ++ w.toList) =
      ((Number.int r).hasDouble && (Number.int c).hasDouble &&
        h.all (fun n => (Number.int n).hasDouble) && w.all fun n => (Number.int n).hasDouble) := by
  cases h <;> cases w <;> simp [haveDoubles, Bool.and_assoc]

theorem answer_offset (hh : 1 ≤ height)
    (hreference : reference.rows = cornerRows sheet height width) (r c : Int) (h w : Option Int) :
    Value.answer (offset reference (.ofInt r) (.ofInt c) (sizeArgument h) (sizeArgument w)) =
      addressed sheet height width r c h w := by
  rw [offset_eq hh hreference, addressed, haveDoubles_eq]
  simp only [toFloor_ofInt_bind, extent_bind]
  -- the first number without a double decides
  cases (Number.int r).hasDouble <;> cases (Number.int c).hasDouble <;>
    cases h.all (fun n => (Number.int n).hasDouble) <;>
    cases w.all (fun n => (Number.int n).hasDouble) <;> try rfl
  simp only [Bool.and_self, if_true]
  split <;> rfl

/-- A call of the offset function, with or without sizes. -/
theorem offset_yields (context : Context) (hnone : reference.error? = none) (r c : Int)
    (h w : Option Int) :
    (Catalog.standard.call context "OFFSET"
      (reference :: .ofInt r :: .ofInt c :: sizeArguments h w) []).Yields
      (Value.answer (offset reference (.ofInt r) (.ofInt c) (sizeArgument h) (sizeArgument w)))
      [] := by
  have hfirst : Entry.firstErrorOf (reference :: .ofInt r :: .ofInt c :: sizeArguments h w) [] =
      none := by
    rw [Entry.firstErrorOf_cons, hnone, Option.none_or, Entry.firstErrorOf_eq_none_iff]
    cases h <;> cases w <;> simp [sizeArguments, sizeArgument, ofInt, error?]
  rw [← Entry.guarded_of_no_error hfirst, ← Answer.toValue_map (offset _ _ _ _ _)]
  cases h <;> cases w <;> exact Catalog.standard_call_yields_guarded rfl rfl rfl

/-- The offset function gives what it is to give for every reference with the rows of an area. -/
theorem offset_yields_addressed (context : Context) (hnone : reference.error? = none)
    (hh : 1 ≤ height) (hreference : reference.rows = cornerRows sheet height width) (r c : Int)
    (h w : Option Int) :
    (Catalog.standard.call context "OFFSET"
      (reference :: .ofInt r :: .ofInt c :: sizeArguments h w) []).Yields
      (addressed sheet height width r c h w) [] := by
  rw [← answer_offset hh hreference]
  exact offset_yields context hnone r c h w

theorem RefersTo.error?_eq (h : RefersTo sheet width height reference) : reference.error? = none := by
  cases h <;> rfl

/-! The index function. -/

theorem tableAt_outside {cell : Fin (height + 1) → Fin width → Scalar} {r c : Int}
    (h : ¬ (r ≤ height + 1 ∧ c ≤ width)) :
    tableAt (rowsOf cell) r (some c) = refuse .positionOutOfRange := by
  have hfirst : ((rowsOf cell).headD (.array [])).width = .ok width := by
    rw [rowsOf_eq_cons]
    exact width_row (cell 0)
  have houtside : ((rowsOf cell).length : Int) < r ∨
      (some c).any (fun column => (width : Int) < column) = true := by
    rw [length_rowsOf]
    simp only [Option.any_some, decide_eq_true_eq]
    omega
  unfold tableAt
  rw [hfirst, Outcome.ok_bind]
  dsimp only
  rw [if_pos houtside]

theorem itemAt_eq (items : List Value) (r : Int) (j : Nat) :
    itemAt items r (some (j + 1)) =
      if 1 < r then refuse (.rowOutsideRow r)
      else
        match items[j]? with
        | some v => .ok v
        | none => refuse (.indexOutOfRange (j + 1)) := by
  have hplace : ((j : Int) + 1).toNat - 1 = j := by omega
  unfold itemAt
  dsimp only
  split
  · rfl
  · rw [Outcome.pure_eq, Outcome.ok_bind, if_neg (by omega), hplace]
    rfl

/-- The index function gives the cell at a row and a column, counted from one, or a bad reference. -/
theorem answer_index (h : RefersTo sheet width height reference) (hh : 1 ≤ height) (i j : Nat)
    (hi : (Number.int (i + 1)).hasDouble = true) (hj : (Number.int (j + 1)).hasDouble = true) :
    Value.answer (index reference (.ofInt (i + 1)) (.ofInt (j + 1))) =
      .ok (if i < height ∧ j < width then .ofScalar (sheet i j) else .error .badReference) := by
  have hrow := toInt_ofInt_of_hasDouble hi
  have hcolumn : (if (ofInt ((j : Int) + 1)).isEmpty then .ok none
      else some <$> (ofInt ((j : Int) + 1)).toInt) = .ok (some ((j : Int) + 1)) := by
    rw [toInt_ofInt_of_hasDouble hj]
    rfl
  have hpos : (some ((j : Int) + 1)).any (· < 0) = false := by
    rw [Option.any_some, decide_eq_false_iff_not]
    omega
  cases h with
  | table height =>
    obtain ⟨height, rfl⟩ := Nat.exists_eq_add_of_le' hh
    rw [rectangle, index_array hrow (by omega) hcolumn hpos, ← rectangle, isTable_rectangle,
      if_pos rfl]
    by_cases hinside : i < height + 1 ∧ j < width
    · rw [if_pos hinside,
        tableAt_rectangle _ (⟨i, hinside.1⟩ : Fin (height + 1)) (⟨j, hinside.2⟩ : Fin width)]
      rfl
    · rw [if_neg hinside, tableAt_outside (by omega)]
      rfl
  | line =>
    rw [flat, index_array hrow (by omega) hcolumn hpos, ← flat, isTable_flat,
      if_neg Bool.false_ne_true, itemAt_eq, List.map_ofFn]
    by_cases hrow : i < 1
    · rw [if_neg (by omega), List.getElem?_ofFn]
      obtain rfl : i = 0 := by omega
      by_cases hcell : j < width
      · rw [dif_pos hcell, if_pos ⟨hrow, hcell⟩]
        rfl
      · rw [dif_neg hcell, if_neg fun hinside => hcell hinside.2]
        rfl
    · rw [if_pos (by omega), if_neg fun hinside => hrow hinside.1]
      rfl

theorem index_yields_answered (context : Context) (hnone : reference.error? = none) (r c : Int) :
    (Catalog.standard.call context "INDEX" [reference, .ofInt r, .ofInt c] []).Yields
      (Value.answer (index reference (.ofInt r) (.ofInt c))) [] := by
  have hfirst : Entry.firstErrorOf [reference, .ofInt r, .ofInt c] [] = none := by
    rw [Entry.firstErrorOf_cons, hnone, Option.none_or, Entry.firstErrorOf_eq_none_iff]
    simp [ofInt, error?]
  rw [← Entry.guarded_of_no_error hfirst, ← Answer.toValue_map (index _ _ _)]
  exact Catalog.standard_call_yields_guarded rfl rfl rfl

/-- The index function fails where one of its places has no double. -/
theorem index_eq_overflow (r c : Int) (h : haveDoubles [r, c] = false) :
    index reference (.ofInt r) (.ofInt c) = fail .overflow := by
  have hgiven : (Value.ofInt c).isEmpty = false := rfl
  unfold index
  rw [toInt_ofInt_eq, toInt_ofInt_eq, hgiven]
  cases hr : (Number.int r).hasDouble with
  | false => rfl
  | true =>
    have hc : (Number.int c).hasDouble = false := by
      simpa [haveDoubles, hr] using h
    rw [hc]
    rfl

/-- The index function gives an area of one cell. -/
theorem answer_index_eq_addressed (h : RefersTo sheet width height reference) (hh : 1 ≤ height)
    {r c : Int} (hr : 1 ≤ r) (hc : 1 ≤ c) (hdoubles : haveDoubles [r, c] = true) :
    Value.answer (index reference (.ofInt r) (.ofInt c)) =
      addressed sheet height width (r - 1) (c - 1) (some 1) (some 1) := by
  obtain ⟨hrd, hcd⟩ : (Number.int r).hasDouble = true ∧ (Number.int c).hasDouble = true := by
    simpa [haveDoubles] using hdoubles
  have hbefore : haveDoubles ([r - 1, c - 1] ++ [1] ++ [1]) = true := by
    have hone : (Number.int 1).hasDouble = true := Number.hasDouble_int_of_le (by omega) hrd
    have hrow : (Number.int (r - 1)).hasDouble = true := Number.hasDouble_int_of_le (by omega) hrd
    have hcolumn : (Number.int (c - 1)).hasDouble = true :=
      Number.hasDouble_int_of_le (by omega) hcd
    simp [haveDoubles, hone, hrow, hcolumn]
  obtain ⟨i, rfl⟩ : ∃ i : Nat, r = i + 1 := ⟨(r - 1).toNat, by omega⟩
  obtain ⟨j, rfl⟩ : ∃ j : Nat, c = j + 1 := ⟨(c - 1).toNat, by omega⟩
  rw [answer_index h hh i j hrd hcd, addressed, Option.toList_some, if_pos hbefore]
  simp only [Int.add_sub_cancel, Int.toNat_natCast, Option.getD_some]
  by_cases hinside : i < height ∧ j < width
  · have hlies : LiesInside height width i j 1 1 := by
      unfold LiesInside
      omega
    rw [if_pos hinside, if_pos hlies, area, if_pos ⟨rfl, rfl⟩]
  · have hlies : ¬ LiesInside height width i j 1 1 := by
      unfold LiesInside
      omega
    rw [if_neg hinside, if_neg hlies]

/-! Offsets of offsets. -/

theorem area_shifted (top left r c h w : Nat) :
    area (shifted sheet top left) r c h w = area sheet (top + r) (left + c) h w := by
  simp only [area, shifted, Nat.add_assoc]

/-- An area is a reference itself, unless it is a column of several cells, which reads as a row. -/
theorem rows_area {top left : Nat} (hh : 1 ≤ height) (hw : 1 ≤ width)
    (hcolumn : ¬ (2 ≤ height ∧ width = 1)) :
    (area sheet top left height width).rows = cornerRows (shifted sheet top left) height width := by
  unfold area
  split
  · next h =>
    obtain ⟨rfl, rfl⟩ := h
    rw [rows_ofScalar, cornerRows, rowsOf, List.ofFn_succ, List.ofFn_zero]
    rfl
  · split
    · next h =>
      subst h
      rw [rows_flat (ofFn_ne_nil _ hw), cornerRows, rowsOf, List.ofFn_succ, List.ofFn_zero]
      rfl
    · rw [if_neg (by omega)]
      obtain ⟨height, rfl⟩ := Nat.exists_eq_add_of_le' hh
      exact rows_rectangle _

/-- What is addressed within an area up to the edge is what the sums address. -/
theorem addressed_shifted {r c r' c' : Int} (hinside : LiesInside height width r c (height - r) (width - c))
    (hr : 0 ≤ r') (hc : 0 ≤ c') (hdoubles : haveDoubles [r + r', c + c'] = true) :
    addressed (shifted sheet r.toNat c.toNat) (height - r).toNat (width - c).toNat r' c' none none =
      addressed sheet height width (r + r') (c + c') none none := by
  obtain ⟨h1, h2, h3, h4, -, -⟩ := hinside
  have hwithin : haveDoubles [r', c'] = true := by
    obtain ⟨hrd, hcd⟩ : (Number.int (r + r')).hasDouble = true ∧
        (Number.int (c + c')).hasDouble = true := by
      simpa [haveDoubles] using hdoubles
    have hrow : (Number.int r').hasDouble = true := Number.hasDouble_int_of_le (by omega) hrd
    have hcolumn : (Number.int c').hasDouble = true := Number.hasDouble_int_of_le (by omega) hcd
    simp [haveDoubles, hrow, hcolumn]
  unfold addressed
  simp only [Option.toList_none, List.append_nil, hdoubles, hwithin, if_true, Option.getD_none,
    area_shifted]
  have hlies : LiesInside (height - r).toNat (width - c).toNat r' c'
      ((height - r).toNat - r') ((width - c).toNat - c') ↔
      LiesInside height width (r + r') (c + c') (height - (r + r')) (width - (c + c')) := by
    unfold LiesInside
    omega
  have htop : (r + r').toNat = r.toNat + r'.toNat := by omega
  have hleft : (c + c').toNat = c.toNat + c'.toNat := by omega
  have hheight : ((height - r).toNat - r' : Int).toNat = (height - (r + r')).toNat := by omega
  have hwidth : ((width - c).toNat - c' : Int).toNat = (width - (c + c')).toNat := by omega
  rw [htop, hleft, hheight, hwidth]
  simp only [hlies]

/-- What an offset without sizes gives, if it is not an error: everything from its place on. -/
theorem eq_area_of_addressed {r c : Int} {inner : Value}
    (h : addressed sheet height width r c none none = .ok inner) (hnone : inner.error? = none) :
    LiesInside height width r c (height - r) (width - c) ∧
      inner = area sheet r.toNat c.toNat (height - r).toNat (width - c).toNat := by
  unfold addressed at h
  simp only [Option.getD_none] at h
  split at h
  · split at h
    · next hinside =>
      cases h
      exact ⟨hinside, rfl⟩
    · cases h
      cases hnone
  · cases h

/-- An offset of an offset is the offset by the sums. -/
theorem offset_offset (context : Context) (hh : 1 ≤ height)
    (hreference : reference.rows = cornerRows sheet height width) {r c : Int} {inner : Value}
    (hinner : addressed sheet height width r c none none = .ok inner)
    (hnone : inner.error? = none) (hnoneReference : reference.error? = none)
    (hcolumn : ¬ (2 ≤ height - r ∧ width - c = 1)) {r' c' : Int} (hr : 0 ≤ r') (hc : 0 ≤ c')
    (hdoubles : haveDoubles [r + r', c + c'] = true) :
    (Catalog.standard.call context "OFFSET" [inner, .ofInt r', .ofInt c'] []).SameOutcome
      (Catalog.standard.call context "OFFSET"
        [reference, .ofInt (r + r'), .ofInt (c + c')] []) := by
  obtain ⟨hinside, rfl⟩ := eq_area_of_addressed hinner hnone
  have ⟨_, _, hrows, hcolumns, _, _⟩ := hinside
  have hcells : (area sheet r.toNat c.toNat (height - r).toNat (width - c).toNat).rows =
      cornerRows (shifted sheet r.toNat c.toNat) (height - r).toNat (width - c).toNat :=
    rows_area (by omega) (by omega) (by omega)
  have hnested := offset_yields_addressed context hnone (by omega) hcells r' c' none none
  have hdirect := offset_yields_addressed context hnoneReference hh hreference (r + r') (c + c')
    none none
  rw [addressed_shifted hinside hr hc hdoubles] at hnested
  exact hnested.sameOutcome hdirect

/-- For a reference with at least one cell: the offset function gives the cells of the area that its
arguments say if that area lies inside, and a bad reference otherwise; the index function gives the
offset of one cell; and an offset of an offset, unless the first is a column of several cells, is the
offset by the sums. A call in which a number has no double fails with an overflow. -/
theorem offset_addresses_cells_unless_overflow (context : Context) (hh : 1 ≤ height) (hw : 1 ≤ width)
    (h : RefersTo sheet width height reference) :
    (∀ (r c : Int) (h w : Option Int),
      (Catalog.standard.call context "OFFSET"
        (reference :: .ofInt r :: .ofInt c :: sizeArguments h w) []).Yields
        (addressed sheet height width r c h w) []) ∧
    (∀ r c : Int, 1 ≤ r → 1 ≤ c →
      (haveDoubles [r, c] = true →
        (Catalog.standard.call context "INDEX" [reference, .ofInt r, .ofInt c] []).SameOutcome
          (Catalog.standard.call context "OFFSET"
            [reference, .ofInt (r - 1), .ofInt (c - 1), .ofInt 1, .ofInt 1] [])) ∧
      (haveDoubles [r, c] = false →
        (Catalog.standard.call context "INDEX" [reference, .ofInt r, .ofInt c] []).Yields
          (fail .overflow) [])) ∧
    ∀ (r c : Int) (inner : Value),
      (Catalog.standard.call context "OFFSET" [reference, .ofInt r, .ofInt c] []).Yields
        (.ok inner) [] →
      inner.error? = none → ¬ (2 ≤ height - r ∧ width - c = 1) →
      ∀ r' c' : Int, 0 ≤ r' → 0 ≤ c' → haveDoubles [r + r', c + c'] = true →
        (Catalog.standard.call context "OFFSET" [inner, .ofInt r', .ofInt c'] []).SameOutcome
          (Catalog.standard.call context "OFFSET"
            [reference, .ofInt (r + r'), .ofInt (c + c')] []) := by
  have hnone := h.error?_eq
  have hreference := h.rows_eq hh hw
  have hoffset := offset_yields_addressed context hnone hh hreference
  refine ⟨hoffset, fun r c hr hc => ?_, fun r c inner hinner => ?_⟩
  · have hindex := index_yields_answered context hnone r c
    constructor
    · intro hdoubles
      rw [answer_index_eq_addressed h hh hr hc hdoubles] at hindex
      exact hindex.sameOutcome (hoffset (r - 1) (c - 1) (some 1) (some 1))
    · intro hdoubles
      rwa [index_eq_overflow r c hdoubles] at hindex
  · intro hcell hcolumn r' c' hr hc hdoubles
    have hgiven := ((hoffset r c none none).unique hinner).1
    exact offset_offset context hh hreference hgiven hcell hnone hcolumn hr hc hdoubles

end

/-- Cells of a table with three rows and two columns: two rows of it and their last cell, a place
outside, and a row number beyond the doubles. -/
theorem offset_addresses_cells_of_three_rows :
    let context := Environment.contextAt ⟨Catalog.standard, [], ⟨⟨2024, 1, 15⟩, .midnight⟩⟩ 1
    let sheet : Nat → Nat → Scalar := fun i j => .number (.int (10 * i + j))
    let table := rectangle fun (i : Fin 3) (j : Fin 2) => sheet i j
    let lower := rectangle fun (i : Fin 2) (j : Fin 2) => sheet (1 + i) (0 + j)
    let offset (reference : Value) (places : List Value) :=
      Catalog.standard.call context "OFFSET" (reference :: places) []
    let index (places : List Value) := Catalog.standard.call context "INDEX" (table :: places) []
    (1 ≤ 3 ∧ 1 ≤ 2 ∧ RefersTo sheet 2 3 table) ∧
    ((offset table [.ofInt 1, .ofInt 0]).Yields (.ok lower) [] ∧
      (offset table [.ofInt 2, .ofInt 1, .empty, .ofInt 2]).Yields (.ok (.error .badReference)) [] ∧
      (offset table [.ofInt (tenTo 309), .ofInt 0, .ofInt 1, .ofInt 1]).Yields
        (fail .overflow) []) ∧
    (haveDoubles [3, 2] = true ∧
      (index [.ofInt 3, .ofInt 2]).SameOutcome
        (offset table [.ofInt 2, .ofInt 1, .ofInt 1, .ofInt 1]) ∧
      haveDoubles [tenTo 309, 2] = false ∧
      (index [.ofInt (tenTo 309), .ofInt 2]).Yields (fail .overflow) []) ∧
    (lower.error? = none ∧ haveDoubles [1 + 1, 0 + 1] = true ∧
      (offset lower [.ofInt 1, .ofInt 1]).SameOutcome
        (offset table [.ofInt (1 + 1), .ofInt (0 + 1)])) := by
  intro context sheet table lower offset index
  have hsmall : ∀ n : Int, n.natAbs ≤ 3 → (Number.int n).hasDouble = true := fun n hn =>
    Number.hasDouble_int_of_lt (by omega)
  have hlarge : (Number.int (tenTo 309)).hasDouble = false := by decide +kernel
  have hcorner : haveDoubles [3, 2] = true := by simp [haveDoubles, hsmall]
  have hbeyond : haveDoubles [tenTo 309, 2] = false := by simp [haveDoubles, hlarge]
  have hsums : haveDoubles [1 + 1, 0 + 1] = true := by simp [haveDoubles, hsmall]
  have htable : RefersTo sheet 2 3 table := .table 3
  obtain ⟨hoffset, hindex, hnested⟩ :=
    offset_addresses_cells_unless_overflow context (by decide) (by decide) htable
  have hlower : (offset table [.ofInt 1, .ofInt 0]).Yields (.ok lower) [] := by
    have hgiven := hoffset 1 0 none none
    have harea : addressed sheet 3 2 1 0 none none = .ok lower := by
      simp only [addressed, haveDoubles]
      simp [hsmall, LiesInside, area, lower]
    rwa [harea] at hgiven
  have hpos : (1 : Int) ≤ tenTo 309 := by
    have := tenTo_pos 309
    omega
  refine ⟨⟨by decide, by decide, htable⟩, ⟨hlower, ?_, ?_⟩,
    ⟨hcorner, (hindex 3 2 (by decide) (by decide)).1 hcorner, hbeyond,
      (hindex (tenTo 309) 2 hpos (by decide)).2 hbeyond⟩,
    rfl, hsums, hnested 1 0 lower hlower rfl (by decide) 1 1 (by decide) (by decide) hsums⟩
  · have hgiven := hoffset 2 1 none (some 2)
    have hbad : addressed sheet 3 2 2 1 none (some 2) = .ok (.error .badReference) := by
      simp only [addressed, haveDoubles]
      simp [hsmall, LiesInside]
    rwa [hbad] at hgiven
  · have hgiven := hoffset (tenTo 309) 0 (some 1) (some 1)
    have hfail : addressed sheet 3 2 (tenTo 309) 0 (some 1) (some 1) = fail .overflow := by
      rw [addressed, if_neg]
      simp [haveDoubles, hlarge]
    rwa [hfail] at hgiven

end SheetFormulas.Lookup
