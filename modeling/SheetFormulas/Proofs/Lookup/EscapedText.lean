import SheetFormulas.Proofs.Lookup.IndexOfMatch
import SheetFormulas.Proofs.Lookup.Places
import SheetFormulas.Proofs.Wildcard.Escape

/-!
Lookups of escaped texts. The match function and the table lookups that ask for an equal key find
the first key with the letters of the text that was escaped, whichever special characters it holds;
only if tildes are the only ones, they find the first key with the letters of the escaped text.
-/

namespace SheetFormulas

theorem Value.equal_text (a b : String) :
    (Value.text a).equal (.text b) =
      .ok (decide (Text.lower a.toList = Text.lower b.toList)) := by
  have horder : (Value.text a).order (.text b) =
      Ord.compare (Text.lower a.toList) (Text.lower b.toList) := by
    simp [Value.order, Value.rank, Value.exactPart, Value.letters, Number.compareExact]
  rw [Value.equal_eq rfl rfl, horder]
  refine congrArg Except.ok ?_
  rw [Bool.eq_iff_iff, beq_iff_eq, decide_eq_true_iff, Std.LawfulEqCmp.compare_eq_iff_eq]

namespace Lookup

open Value Run Wildcard

/-- Whether a run answers with the result that belongs to the first key equal to a text without
regard to case, and with "not available" where no key is. -/
structure AnswersFirst (sought : String) (keys : List String) (results : List Value)
    (run : Run Value) : Prop where
  found : ∀ i, IsFirst (fun v => v.equal (.text sought) = .ok true) (keys.map .text) i →
    ∃ v, results[i]? = some v ∧ run.Yields (.ok v) []
  missing : (∀ k ∈ keys, (Value.text k).equal (.text sought) = .ok false) →
    run.Yields (.ok (.error .notAvailable)) []

/-- The places of a line, counted from one. -/
def places (count : Nat) : List Value := (List.range count).map fun i => .ofNat (i + 1)

section

variable {s : String} {keys : List String}

theorem isHit_escaped {k : String} (hs : Text.IsBasicLatin s.toList)
    (hk : Text.IsBasicLatin k.toList)
    (hend : hasWildcards (.text s) = true → ¬ EqualBeforeLineEnd s k) :
    isHit (hasWildcards (.text (escaped s))) (.text (escaped s)) (.text k) =
      .ok (decide (Text.lower k.toList = Text.lower (literal s).toList)) := by
  rw [hasWildcards_escaped]
  cases hw : hasWildcards (.text s) with
  | true =>
    rw [literal_of_hasWildcards hw, ← matchesText_escaped hs hk (hend hw)]
    rfl
  | false =>
    rw [literal_of_not_hasWildcards hw, ← Value.equal_text]
    rfl

theorem keyPosition_escaped (hs : Text.IsBasicLatin s.toList)
    (hkeys : ∀ k ∈ keys, Text.IsBasicLatin k.toList)
    (hend : hasWildcards (.text s) = true → ∀ k ∈ keys, ¬ EqualBeforeLineEnd s k) :
    keyPosition (keys.map .text) (.text (escaped s)) false =
      .ok ((keys.map Value.text).findIdx? fun v => decide (v.letters = Text.lower (literal s).toList)) := by
  have hhit : ∀ v ∈ keys.map Value.text,
      isHit (hasWildcards (.text (escaped s))) (.text (escaped s)) v =
        .ok (decide (v.letters = Text.lower (literal s).toList)) := by
    intro v hv
    obtain ⟨k, hk, rfl⟩ := List.mem_map.mp hv
    exact isHit_escaped hs (hkeys k hk) fun hw => hend hw k hk
  have hfirst := firstFrom_eq_findIdx? 0 hhit
  have hself : ((0 : Nat) + ·) = id := funext Nat.zero_add
  rw [hself, Option.map_id] at hfirst
  exact hfirst

variable {results : List Value} {run : Run Value} {atPlace : Option Nat → Outcome Value}

/-- A lookup that goes on from the position of the key to the result at the same place answers with
the result of the first equal key. -/
theorem answersFirst_of_yields (hs : Text.IsBasicLatin s.toList)
    (hkeys : ∀ k ∈ keys, Text.IsBasicLatin k.toList)
    (hend : hasWildcards (.text s) = true → ∀ k ∈ keys, ¬ EqualBeforeLineEnd s k)
    (hrun : run.Yields
      (Value.answer (keyPosition (keys.map .text) (.text (escaped s)) false >>= atPlace)) [])
    (hnone : atPlace none = refuseNotFound (.text (escaped s)))
    (hsome : ∀ i < keys.length, ∃ v, results[i]? = some v ∧ atPlace (some i) = .ok v) :
    AnswersFirst (literal s) keys results run := by
  rw [keyPosition_escaped hs hkeys hend, Outcome.ok_bind] at hrun
  have hequal : ∀ v ∈ keys.map Value.text, v.equal (.text (literal s)) = .ok true ↔
      decide (v.letters = Text.lower (literal s).toList) = true := by
    intro v hv
    obtain ⟨k, -, rfl⟩ := List.mem_map.mp hv
    rw [Value.equal_text, letters, Except.ok.injEq]
  constructor
  · intro i hi
    have hfound := isFirst_iff_findIdx?.mp ((isFirst_congr hequal).mp hi)
    have hlt : i < keys.length := by
      simpa using (List.findIdx?_eq_some_iff_getElem.mp hfound).1
    obtain ⟨v, hv, hat⟩ := hsome i hlt
    rw [hfound, hat] at hrun
    exact ⟨v, hv, hrun⟩
  · intro hno
    have hmissing : (keys.map Value.text).findIdx?
        (fun v => decide (v.letters = Text.lower (literal s).toList)) = none := by
      rw [List.findIdx?_eq_none_iff]
      intro v hv
      obtain ⟨k, hk, rfl⟩ := List.mem_map.mp hv
      have hk := hno k hk
      rwa [Value.equal_text, Except.ok.injEq] at hk
    rw [hmissing, hnone] at hrun
    exact hrun

variable (context : Context)

theorem match_answersFirst (hs : Text.IsBasicLatin s.toList)
    (hkeys : ∀ k ∈ keys, Text.IsBasicLatin k.toList)
    (hend : hasWildcards (.text s) = true → ∀ k ∈ keys, ¬ EqualBeforeLineEnd s k) :
    AnswersFirst (literal s) keys (places keys.length)
      (Catalog.standard.call context "MATCH"
        [.text (escaped s), flat (keys.map .text), .ofInt 0] []) := by
  have hmatch : matchPosition (.text (escaped s)) (flat (keys.map .text)) (.ofInt 0) =
      keyPosition (keys.map .text) (.text (escaped s)) false >>=
        positionFound (.text (escaped s)) := by
    have hflat : (keys.map Scalar.text).map Value.ofScalar = keys.map .text := List.map_map
    rw [← hflat]
    exact matchPosition_flat (.text (escaped s)) (keys.map .text) false
  have hcall : (Catalog.standard.call context "MATCH"
      [.text (escaped s), flat (keys.map .text), .ofInt 0] []).Yields
      (Value.answer (keyPosition (keys.map .text) (.text (escaped s)) false >>= fun found =>
        ofNat <$> positionFound (.text (escaped s)) found)) [] := by
    have hy := @match_yields context (.text (escaped s)) (flat (keys.map .text)) (.ofInt 0)
      (by simp [flat, ofInt, error?])
    rwa [Entry.guarded_of_no_error rfl, hmatch, map_bind] at hy
  refine answersFirst_of_yields hs hkeys hend hcall rfl fun i hi => ⟨.ofNat (i + 1), ?_, rfl⟩
  rw [places, List.getElem?_map, List.getElem?_range hi]
  rfl

variable {height width : Nat} (cell : Fin (height + 1) → Fin (width + 1) → Scalar)

/-- The cells of a column. -/
def columnOf (j : Fin (width + 1)) : List Value := List.ofFn fun i => .ofScalar (cell i j)

theorem vertical_answersFirst (hs : Text.IsBasicLatin s.toList)
    (hkeys : ∀ k ∈ keys, Text.IsBasicLatin k.toList)
    (hend : hasWildcards (.text s) = true → ∀ k ∈ keys, ¬ EqualBeforeLineEnd s k)
    (hcells : firstCells cell = keys.map .text) {j : Fin (width + 1)} (hj : j.val < 2 ^ 1022)
    (hrun : run.Yields (Value.answer
      (vertical (.text (escaped s)) (rectangle cell) (.ofNat (j + 1)) (.bool false))) []) :
    AnswersFirst (literal s) keys (columnOf cell j) run := by
  have hkey := vertical_at_key cell (.text (escaped s)) false j hj
  rw [hcells, List.map_map] at hkey
  have hvertical : vertical (.text (escaped s)) (rectangle cell) (.ofNat (j + 1)) (.bool false) = _ :=
    hkey
  have hlength : keys.length = height + 1 := by
    rw [← List.length_map (f := Scalar.text), ← hcells, firstCells, List.length_ofFn]
  rw [hvertical] at hrun
  refine answersFirst_of_yields hs hkeys hend hrun rfl fun i hi => ?_
  rw [hlength] at hi
  refine ⟨.ofScalar (cell ⟨i, hi⟩ j), ?_, ?_⟩
  · rw [columnOf, List.getElem?_ofFn, dif_pos hi]
  · have hrow : (rowsOf cell)[i]? = some (flat (List.ofFn (cell ⟨i, hi⟩))) :=
      getElem?_rowsOf cell ⟨i, hi⟩
    dsimp only
    rw [hrow]
    exact cell_row (cell ⟨i, hi⟩) j

end

section

variable (context : Context) (s : String) {height width : Nat} (table : Fin height → Fin width → Scalar)
  (index : Nat)

theorem firstErrorOf_lookup :
    Entry.firstErrorOf [.text (escaped s), rectangle table, .ofNat index, .bool false] [] = none := by
  simp [Entry.firstErrorOf_eq_none_iff, rectangle, ofNat, ofInt, error?]

theorem vlookup_yields :
    (Catalog.standard.call context "VLOOKUP"
      [.text (escaped s), rectangle table, .ofNat index, .bool false] []).Yields
      (Value.answer (vertical (.text (escaped s)) (rectangle table) (.ofNat index) (.bool false)))
      [] := by
  rw [← Entry.guarded_of_no_error (firstErrorOf_lookup s table index),
    ← Answer.toValue_map (vertical _ _ _ _)]
  exact Catalog.standard_call_yields_guarded rfl rfl rfl

theorem hlookup_yields :
    (Catalog.standard.call context "HLOOKUP"
      [.text (escaped s), rectangle table, .ofNat index, .bool false] []).Yields
      (Value.answer (horizontal (.text (escaped s)) (rectangle table) (.ofNat index) (.bool false)))
      [] := by
  rw [← Entry.guarded_of_no_error (firstErrorOf_lookup s table index),
    ← Answer.toValue_map (horizontal _ _ _ _)]
  exact Catalog.standard_call_yields_guarded rfl rfl rfl

end

/-- The functions that look an escaped text up for an equal key answer with what belongs to the first
key that is equal, without regard to case, to the text that was escaped; if tildes are the only
special characters of that text, then to the escaped text as it is written. In the table lookups the
keys are the first cells of the rows, or of the columns of the table on its side. -/
theorem escaped_lookups_find_first_equal (context : Context) {s : String} {keys : List String}
    (hs : Text.IsBasicLatin s.toList) (hkeys : ∀ k ∈ keys, Text.IsBasicLatin k.toList)
    (hend : hasWildcards (.text s) = true → ∀ k ∈ keys, ¬ EqualBeforeLineEnd s k) :
    AnswersFirst (literal s) keys (places keys.length)
      (Catalog.standard.call context "MATCH"
        [.text (escaped s), flat (keys.map .text), .ofInt 0] []) ∧
    ∀ {height width : Nat} (cell : Fin (height + 1) → Fin (width + 1) → Scalar),
      firstCells cell = keys.map .text → ∀ j : Fin (width + 1), j.val < 2 ^ 1022 →
        AnswersFirst (literal s) keys (columnOf cell j)
          (Catalog.standard.call context "VLOOKUP"
            [.text (escaped s), rectangle cell, .ofNat (j + 1), .bool false] []) ∧
        AnswersFirst (literal s) keys (columnOf cell j)
          (Catalog.standard.call context "HLOOKUP"
            [.text (escaped s), rectangle fun j i => cell i j, .ofNat (j + 1), .bool false] []) := by
  refine ⟨match_answersFirst context hs hkeys hend, fun cell hcells j hj => ⟨?_, ?_⟩⟩
  · have hy := vlookup_yields context s cell (j + 1)
    exact vertical_answersFirst cell hs hkeys hend hcells hj hy
  · have hy := hlookup_yields context s (fun j i => cell i j) (j + 1)
    rw [horizontal_rectangle] at hy
    exact vertical_answersFirst cell hs hkeys hend hcells hj hy

/-- A text with a tilde and a wildcard, escaped and looked up among two keys, in a line and in the
first column of a table. -/
theorem escaped_lookups_find_starred_key :
    let context := Environment.contextAt ⟨Catalog.standard, [], ⟨⟨2024, 1, 15⟩, .midnight⟩⟩ 1
    let keys : List String := ["a~", "A~*"]
    let cell : Fin 2 → Fin 2 → Scalar := fun i j =>
      if j = 0 then .text (if i = 0 then "a~" else "A~*") else .bool (i = 1)
    (Text.IsBasicLatin "a~*".toList ∧ (∀ k ∈ keys, Text.IsBasicLatin k.toList) ∧
      (∀ k ∈ keys, ¬ EqualBeforeLineEnd "a~*" k) ∧ firstCells cell = keys.map .text ∧
      (1 : Fin 2).val < 2 ^ 1022) ∧
    escaped "a~*" = "a~~~*" ∧
    (Catalog.standard.call context "MATCH"
      [.text (escaped "a~*"), flat (keys.map .text), .ofInt 0] []).Yields (.ok (.ofNat 2)) [] ∧
    (Catalog.standard.call context "VLOOKUP"
      [.text (escaped "a~*"), rectangle cell, .ofNat 2, .bool false] []).Yields
      (.ok (.bool true)) [] := by
  intro context keys cell
  have hs : Text.IsBasicLatin "a~*".toList := by decide
  have hkeys : ∀ k ∈ keys, Text.IsBasicLatin k.toList := by decide
  have hlast : ∀ k ∈ keys, k.toList.getLast? ≠ some '\n' := by decide
  have hend : ∀ k ∈ keys, ¬ EqualBeforeLineEnd "a~*" k := by
    rintro k hk ⟨front, hfront, -⟩
    exact hlast k hk (by rw [hfront, List.getLast?_concat])
  have hcells : firstCells cell = keys.map .text := by
    simp [firstCells, cell, keys, List.ofFn_succ]
  have hone : (1 : Fin 2).val < 2 ^ 1022 := Number.lt_two_pow (by decide) (by decide)
  have hfirst : IsFirst (fun v => v.equal (.text (literal "a~*")) = .ok true) (keys.map .text) 1 := by
    have hliteral : literal "a~*" = "a~*" := literal_of_hasWildcards (by decide)
    rw [hliteral]
    refine ⟨⟨.text "A~*", rfl, ?_⟩, fun j v hv hequal => ?_⟩
    · rw [Value.equal_text]
      decide
    · cases j with
      | zero =>
        cases hv
        rw [Value.equal_text] at hequal
        exact absurd hequal (by decide)
      | succ j => exact Nat.succ_pos j
  obtain ⟨hmatch, htables⟩ :=
    escaped_lookups_find_first_equal context hs hkeys fun _ => hend
  refine ⟨⟨hs, hkeys, hend, hcells, hone⟩, by decide, ?_, ?_⟩
  · obtain ⟨v, hv, hy⟩ := hmatch.found 1 hfirst
    cases hv
    exact hy
  · obtain ⟨v, hv, hy⟩ := (htables cell hcells 1 hone).1.found 1 hfirst
    cases hv
    exact hy

/-- A text whose only special character is a tilde is not found by escaping it, although it stands
among the keys. -/
theorem escaped_tilde_not_found :
    let context := Environment.contextAt ⟨Catalog.standard, [], ⟨⟨2024, 1, 15⟩, .midnight⟩⟩ 1
    let keys : List String := ["a~b"]
    let run := Catalog.standard.call context "MATCH"
      [.text (escaped "a~b"), flat (keys.map .text), .ofInt 0] []
    Text.IsBasicLatin "a~b".toList ∧ escaped "a~b" = "a~~b" ∧
      (Value.text "a~b").equal (.text "a~b") = .ok true ∧
      run.Yields (.ok (.error .notAvailable)) [] ∧
      ¬ AnswersFirst "a~b" keys (places keys.length) run := by
  intro context keys run
  have hs : Text.IsBasicLatin "a~b".toList := by decide
  have hequal : (Value.text "a~b").equal (.text "a~b") = .ok true := by
    rw [Value.equal_text]
    decide
  have hmissing : run.Yields (.ok (.error .notAvailable)) [] := by
    have hmatch := @match_answersFirst "a~b" keys context hs (by decide)
      fun hw => absurd hw (by decide)
    refine hmatch.missing fun k hk => ?_
    rw [List.mem_singleton.mp hk, Value.equal_text]
    decide
  refine ⟨hs, by decide, hequal, hmissing, fun h => ?_⟩
  have hfirst : IsFirst (fun v => v.equal (.text "a~b") = .ok true) (keys.map .text) 0 :=
    ⟨⟨_, rfl, hequal⟩, fun j _ _ _ => Nat.zero_le j⟩
  obtain ⟨v, hv, hy⟩ := h.found 0 hfirst
  cases hv
  cases (hmissing.unique hy).1

end Lookup

end SheetFormulas
