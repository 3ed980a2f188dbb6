import SheetFormulas.Proofs.Reference.Canonical
import SheetFormulas.Proofs.Run.Answers

/-!
References with overlong numbers. A text that is no reference is a bad one for the indirect function;
but a number of more than 4300 digits is not read, and in the place of a row or column number it makes
the call fail.
-/

namespace SheetFormulas

open Text Run Outcome

namespace Cell

variable {style : Style} {text other first second : List Char} {cell : Cell}

/-- Whether a text has the form of a cell with a number that is too long to be read. Column letters
are looked at before the row number. -/
inductive Overlong : Style → List Char → Prop
  | lettered {text letters digits : List Char} {column : Nat}
      (h : HasParts .lettered text letters digits)
      (hcolumn : columnNumber? (upper letters) = some column)
      (hlong : Number.digitLimit < digits.length) : Overlong .lettered text
  | row {text row column : List Char} (h : HasParts .numbered text row column)
      (hlong : Number.digitLimit < row.length) : Overlong .numbered text
  | column {text row column : List Char} (h : HasParts .numbered text row column)
      (hlong : Number.digitLimit < column.length) : Overlong .numbered text

theorem HasParts.length_le (h : HasParts style text first second) :
    first.length ≤ text.length ∧ second.length ≤ text.length := by
  obtain ⟨before, core, after, -, -, rfl, hcore⟩ := h
  cases hcore <;> (simp only [List.length_append, List.length_cons]; omega)

theorem Overlong.of_trim_eq (htrim : trim text = trim other) (h : Overlong style text) :
    Overlong style other := by
  cases h with
  | lettered h hcolumn hlong => exact .lettered (h.of_trim_eq htrim) hcolumn hlong
  | row h hlong => exact .row (h.of_trim_eq htrim) hlong
  | column h hlong => exact .column (h.of_trim_eq htrim) hlong

theorem Overlong.lt_length (h : Overlong style text) : Number.digitLimit < text.length := by
  cases h with
  | lettered h _ hlong => exact Nat.lt_of_lt_of_le hlong h.length_le.2
  | row h hlong => exact Nat.lt_of_lt_of_le hlong h.length_le.1
  | column h hlong => exact Nat.lt_of_lt_of_le hlong h.length_le.2

theorem readNumber_of_le {digits : List Char} (h : digits.length ≤ Number.digitLimit) :
    readNumber digits = .ok (digitsValue digits) := if_pos h

theorem readNumber_of_lt {digits : List Char} (h : Number.digitLimit < digits.length) :
    readNumber digits = fail .invalid := if_neg (Nat.not_le_of_lt h)

theorem readAnywhere_of_overlong (h : Overlong style text) :
    readAnywhere style text = fail .invalid := by
  cases h with
  | lettered h hcolumn hlong =>
    rw [readAnywhere_lettered h, hcolumn]
    dsimp only
    rw [readNumber_of_lt hlong]
    rfl
  | row h hlong =>
    rw [readAnywhere_numbered h, readNumber_of_lt hlong]
    rfl
  | @column _ row _ h hlong =>
    rw [readAnywhere_numbered h, readNumber_of_lt hlong]
    rcases Nat.lt_or_ge Number.digitLimit row.length with hrow | hrow
    · rw [readNumber_of_lt hrow]
      rfl
    · rw [readNumber_of_le hrow]
      rfl

theorem read_of_overlong (h : Overlong style text) : read style text = fail .invalid := by
  rw [read, readAnywhere_of_overlong h]
  rfl

theorem readAnywhere_answers (h : ¬ Overlong style text) :
    (readAnywhere style text).Answers fun _ => True := by
  by_cases hparts : ∃ first second, HasParts style text first second
  · obtain ⟨first, second, hparts⟩ := hparts
    cases style with
    | lettered =>
      rw [readAnywhere_lettered hparts]
      cases hcolumn : columnNumber? (upper first) with
      | none => exact answers_refuse _
      | some column =>
        have hdigits := Nat.le_of_not_lt fun hlong => h (.lettered hparts hcolumn hlong)
        dsimp only
        rw [readNumber_of_le hdigits]
        exact answers_ok trivial
    | numbered =>
      have hrow := Nat.le_of_not_lt fun hlong => h (.row hparts hlong)
      have hcolumn := Nat.le_of_not_lt fun hlong => h (.column hparts hlong)
      rw [readAnywhere_numbered hparts, readNumber_of_le hrow, readNumber_of_le hcolumn]
      exact answers_ok trivial
  · rw [readAnywhere_malformed fun first second hsome => hparts ⟨first, second, hsome⟩]
    exact answers_refuse _

/-- A text without an overlong number is read as a cell or refused. -/
theorem read_answers (h : ¬ Overlong style text) :
    (read style text).Answers fun cell => read style text = .ok cell := by
  have hread : (read style text).Answers fun _ => True :=
    (readAnywhere_answers h).bind fun _ _ =>
      answers_ite (fun _ => answers_ok trivial) fun _ => answers_refuse _
  exact hread.self.mono fun _ hcell => hcell.1

theorem readNumber_refusesOnly (allowed : ErrorKind → Prop) (digits : List Char) :
    RefusesOnly allowed (readNumber digits) := .ite (.ok _) (.fail _)

/-- Whatever is refused as a cell is a bad reference. -/
theorem read_refusesOnly (style : Style) (text : List Char) :
    RefusesOnly (· = .badReference) (read style text) := by
  have hanywhere : RefusesOnly (· = .badReference) (readAnywhere style text) := by
    unfold readAnywhere
    cases style with
    | lettered =>
      dsimp only
      split
      · exact .refuse rfl
      · split
        · exact .refuse rfl
        · exact (readNumber_refusesOnly _ _).bind fun _ => .ok _
    | numbered =>
      dsimp only
      split
      · exact .refuse rfl
      · exact (readNumber_refusesOnly _ _).bind fun _ =>
          (readNumber_refusesOnly _ _).bind fun _ => .ok _
  exact hanywhere.bind fun _ => .ite (.ok _) (.refuse rfl)

theorem readAnywhere_of_trim_eq (htrim : trim text = trim other)
    (h : readAnywhere style text = .ok cell) : readAnywhere style other = .ok cell := by
  by_cases hparts : ∃ first second, HasParts style text first second
  · obtain ⟨first, second, hparts⟩ := hparts
    have hother := hparts.of_trim_eq htrim
    cases style with
    | lettered =>
      rw [readAnywhere_lettered hparts] at h
      rw [readAnywhere_lettered hother]
      cases hcolumn : columnNumber? (upper first) with
      | none =>
        rw [hcolumn] at h
        cases h
      | some column => rwa [hcolumn] at h
    | numbered => rwa [readAnywhere_numbered hother, ← readAnywhere_numbered hparts]
  · rw [readAnywhere_malformed fun first second hsome => hparts ⟨first, second, hsome⟩] at h
    cases h

/-- Blanks around a cell do not matter. -/
theorem read_of_trim_eq (htrim : trim text = trim other) (h : read style text = .ok cell) :
    read style other = .ok cell := by
  obtain ⟨anywhere, hread, hcell⟩ := Outcome.bind_eq_ok_iff.mp h
  refine Outcome.bind_eq_ok_iff.mpr ⟨anywhere, readAnywhere_of_trim_eq htrim hread, ?_⟩
  split at hcell
  · next honsheet => rwa [if_pos honsheet]
  · cases hcell

end Cell

namespace Reference

variable {style : Cell.Style} {text : List Char} {parts others : List (List Char)}

/-- Whether the first of some texts of cells that cannot be read is overlong. -/
inductive OverlongAmong (style : Cell.Style) : List (List Char) → Prop
  | first {part : List Char} {rest : List (List Char)} (h : Cell.Overlong style part) :
      OverlongAmong style (part :: rest)
  | later {part : List Char} {rest : List (List Char)} {cell : Cell}
      (hread : Cell.read style part = .ok cell) (h : OverlongAmong style rest) :
      OverlongAmong style (part :: rest)

/-- Whether a text has the form of a reference, of one or two cells and not with an empty name, and
the first cell that cannot be read is overlong. -/
def Overlong (style : Cell.Style) (text : List Char) : Prop :=
  ∃ sheet parts, Splits text sheet parts ∧ sheet.map trimLeft ≠ some [] ∧ parts.length ≤ 2 ∧
    OverlongAmong style parts

theorem length_eq_of_map_trim_eq (htrim : others.map trim = parts.map trim) :
    others.length = parts.length := by
  have hlength := congrArg List.length htrim
  rwa [List.length_map, List.length_map] at hlength

theorem OverlongAmong.of_map_trim_eq (h : OverlongAmong style parts)
    (htrim : others.map trim = parts.map trim) : OverlongAmong style others := by
  induction h generalizing others with
  | first h =>
    obtain ⟨other, rest, rfl, hother, -⟩ := List.map_eq_cons_iff.mp htrim
    exact .first (h.of_trim_eq hother.symm)
  | later hread _ ih =>
    obtain ⟨other, rest, rfl, hother, hrest⟩ := List.map_eq_cons_iff.mp htrim
    exact .later (Cell.read_of_trim_eq hother.symm hread) (ih hrest)

theorem read_of_overlongAmong {sheet : Option (List Char)} (hsheet : sheet ≠ some [])
    (h : Splits (trim text) sheet parts) (hlength : parts.length ≤ 2)
    (hlong : OverlongAmong style parts) : read style text = fail .invalid := by
  match parts, hlong with
  | [_], .first hcell =>
    rw [read_single hsheet h, Cell.read_of_overlong hcell]
    rfl
  | [_, _], .first hcell =>
    rw [read_pair hsheet h, Cell.read_of_overlong hcell]
    rfl
  | [_, _], .later hread (.first hcell) =>
    rw [read_pair hsheet h, hread, Outcome.ok_bind, Cell.read_of_overlong hcell]
    rfl

theorem read_answers_of_not_overlongAmong {sheet : Option (List Char)} (hsheet : sheet ≠ some [])
    (h : Splits (trim text) sheet parts) (hlong : ¬ OverlongAmong style parts) :
    (read style text).Answers fun _ => True := by
  match parts with
  | [] => exact absurd rfl h.ne_nil
  | [cell] =>
    rw [read_single hsheet h]
    exact (Cell.read_answers fun hcell => hlong (.first hcell)).bind fun _ _ => answers_ok trivial
  | [start, stop] =>
    rw [read_pair hsheet h]
    refine (Cell.read_answers fun hcell => hlong (.first hcell)).bind fun first hfirst => ?_
    have hstop : ¬ Cell.Overlong style stop := fun hcell => hlong (.later hfirst (.first hcell))
    exact (Cell.read_answers hstop).bind fun _ _ =>
      answers_ite (fun _ => answers_refuse _) fun _ => answers_ok trivial
  | _ :: _ :: _ :: _ =>
    rw [read_many hsheet h (by simp)]
    exact answers_refuse _

theorem read_of_overlong (h : Overlong style text) : read style text = fail .invalid := by
  obtain ⟨sheet, parts, hsplits, hsheet, hlength, hlong⟩ := h
  obtain ⟨others, htrimmed, hothers⟩ := hsplits.trim
  rw [← length_eq_of_map_trim_eq hothers] at hlength
  exact read_of_overlongAmong hsheet htrimmed hlength (hlong.of_map_trim_eq hothers)

/-- A text without an overlong number is read as a reference or refused. -/
theorem read_answers (h : ¬ Overlong style text) : (read style text).Answers fun _ => True := by
  obtain ⟨sheet, parts, hsplits⟩ := exists_splits text
  obtain ⟨others, htrimmed, hothers⟩ := hsplits.trim
  -- an empty name and a third cell are refused before any cell is read
  by_cases hsheet : sheet.map trimLeft = some []
  · rw [hsheet] at htrimmed
    rw [read_emptySheet htrimmed]
    exact answers_refuse _
  · rcases Nat.lt_or_ge 2 others.length with hmany | hfew
    · rw [read_many hsheet htrimmed hmany]
      exact answers_refuse _
    · refine read_answers_of_not_overlongAmong hsheet htrimmed fun hlong => h ?_
      rw [length_eq_of_map_trim_eq hothers] at hfew
      exact ⟨sheet, parts, hsplits, hsheet, hfew, hlong.of_map_trim_eq hothers.symm⟩

/-! An overlong text is long. -/

theorem OverlongAmong.exists_mem (h : OverlongAmong style parts) :
    ∃ part ∈ parts, Cell.Overlong style part := by
  induction h with
  | first h => exact ⟨_, List.mem_cons_self, h⟩
  | later _ _ ih =>
    obtain ⟨part, hpart, h⟩ := ih
    exact ⟨part, List.mem_cons_of_mem _ hpart, h⟩

theorem Overlong.lt_length (h : Overlong style text) : Number.digitLimit < text.length := by
  obtain ⟨sheet, parts, hsplits, -, -, hlong⟩ := h
  obtain ⟨part, hpart, hcell⟩ := hlong.exists_mem
  have hin := length_le_length_intercalate ':' hpart
  have hcells := hcell.lt_length
  rw [hsplits.eq, List.length_append]
  omega

/-- Whatever is refused as a reference is a bad one. -/
theorem read_refusesOnly (style : Cell.Style) (text : List Char) :
    RefusesOnly (· = .badReference) (read style text) := by
  unfold read
  refine .ite (.refuse rfl) ?_
  split
  · exact (Cell.read_refusesOnly _ _).bind fun _ => .ok _
  · exact (Cell.read_refusesOnly _ _).bind fun _ =>
      (Cell.read_refusesOnly _ _).bind fun _ => .ite (.refuse rfl) (.ok _)
  · exact .refuse rfl

/-- The indirect function answers any text with a text or as a bad reference, unless the text has the
form of a reference with an overlong number; then the call fails. -/
theorem indirect_answers_unless_overlong (context : Context) (text : String) (isLettered : Bool) :
    (¬ Overlong (styleOf isLettered) text.toList →
      (∃ answer, (indirect context text isLettered).Yields (.ok (.text answer)) []) ∨
        (indirect context text isLettered).Yields (.ok (.error .badReference)) []) ∧
    (Overlong (styleOf isLettered) text.toList →
      (indirect context text isLettered).Yields (fail .invalid) []) := by
  refine ⟨fun hlong => ?_, fun hlong => indirect_of_read context (read_of_overlong hlong)⟩
  have hanswers := read_answers hlong
  rcases hread : read (styleOf isLettered) text.toList with (cause | cause) | reference
  · have hkind : cause.kind = .badReference := read_refusesOnly _ _ cause hread
    have hy : (indirect context text isLettered).Yields (.ok (.error cause.kind)) [] :=
      indirect_of_read context hread
    rw [hkind] at hy
    exact .inr hy
  · rw [hread] at hanswers
    exact absurd hanswers (not_answers_fail cause)
  · exact .inl ⟨_, indirect_of_read context hread⟩

theorem overlong_of_digits {digits : List Char} (hdigits : isLatinNumeral digits = true)
    (hlong : Number.digitLimit < digits.length) : Overlong .lettered ('A' :: digits) := by
  have hletters : ∀ c ∈ ['A'], isLatinLetter c = true := by
    intro c hc
    rw [List.mem_singleton.mp hc]
    exact Cell.isLatinLetter_of_isCapital (by decide)
  have hcore : Cell.Core .lettered ('A' :: digits) ['A'] digits :=
    .lettered (.inl rfl) hletters (by decide) (.inl rfl) hdigits
  have hparts : Cell.HasParts .lettered ('A' :: digits) ['A'] digits :=
    ⟨[], _, [], isBlanks_nil, isBlanks_nil, by simp, hcore⟩
  have hcolumn : Cell.columnNumber? (upper ['A']) = some 1 := by decide
  have hsplits := splits_sheetPrefix none hparts.exclamation_not_mem
  rw [splitAll_eq_singleton hparts.colon_not_mem] at hsplits
  exact ⟨none, _, hsplits, nofun, by simp, .first (.lettered hparts hcolumn hlong)⟩

/-- No short text is overlong; but 4301 ones are not read as a row number. -/
theorem indirect_fails_on_4301_digits :
    let context := Environment.contextAt ⟨Catalog.standard, [], ⟨⟨2024, 1, 15⟩, .midnight⟩⟩ 1
    let long := String.ofList ('A' :: List.replicate 4301 '1')
    (¬ Overlong (styleOf true) "a1:b".toList ∧
      ((∃ answer, (indirect context "a1:b" true).Yields (.ok (.text answer)) []) ∨
        (indirect context "a1:b" true).Yields (.ok (.error .badReference)) [])) ∧
    Overlong (styleOf true) long.toList ∧
      (indirect context long true).Yields (fail .invalid) [] := by
  intro context long
  have hshort : ¬ Overlong (styleOf true) "a1:b".toList := fun h => by
    have hlength := h.lt_length
    revert hlength
    decide
  have hones : isLatinNumeral (List.replicate 4301 '1') = true :=
    isLatinNumeral_iff.mpr ⟨List.cons_ne_nil _ _, fun c hc => by
      rw [List.eq_of_mem_replicate hc]
      decide⟩
  have hcount : Number.digitLimit < (List.replicate 4301 '1').length := by
    rw [List.length_replicate]
    decide
  have hlong : Overlong (styleOf true) long.toList := by
    rw [String.toList_ofList]
    exact overlong_of_digits hones hcount
  exact ⟨⟨hshort, (indirect_answers_unless_overlong context "a1:b" true).1 hshort⟩, hlong,
    (indirect_answers_unless_overlong context long true).2 hlong⟩

end Reference

end SheetFormulas
