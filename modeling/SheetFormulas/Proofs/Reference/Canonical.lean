import SheetFormulas.Evaluation
import SheetFormulas.Proofs.Catalog.Call
import SheetFormulas.Proofs.Reference.Parts

/-!
The canonical text of a reference. Every spelling of a reference is read as it, and the canonical text
is one of its spellings; so the indirect function answers all spellings of a reference with one text,
which it leaves as it is, and different references with different texts.
-/

namespace SheetFormulas.Reference

open Text Run

variable {style : Cell.Style} {text : List Char} {parts others : List (List Char)}
  {reference : Reference}

/-- Whether a reference can be named: its sheet name, if it has one, starts with a character that is
not blank, and its cells are on the sheet and in order. -/
structure IsProper (reference : Reference) : Prop where
  named : ∀ name ∈ reference.sheet, ∃ c rest, name = c :: rest ∧ isBlank c = false
  on_sheet : ∀ cell ∈ reference.cells, cell.isOnSheet = true
  ordered : reference.IsOrdered

/-- Whether a text spells a reference: the sheet name, with blanks in front of it or not, and
spellings of the cells with a colon between two of them. -/
def Spells (style : Cell.Style) (reference : Reference) (text : List Char) : Prop :=
  ∃ sheet parts, sheet.map trimLeft = reference.sheet ∧
    List.Forall₂ (fun cell part => cell.Spells style part) reference.cells parts ∧
    text = sheetPrefix sheet ++ [':'].intercalate parts

/-! Spellings are read. -/

theorem forall_mem_of_forall₂ {α β : Type} {R : α → β → Prop} {p : β → Prop} {as : List α}
    {bs : List β} (h : List.Forall₂ R as bs) (hp : ∀ a b, R a b → p b) : ∀ b ∈ bs, p b := by
  induction h with
  | nil => exact fun _ hb => nomatch hb
  | cons hfirst _ ih => exact List.forall_mem_cons.mpr ⟨hp _ _ hfirst, ih⟩

theorem splits_of_spells (sheet : Option (List Char)) {cells : List Cell} (hne : cells ≠ [])
    (h : List.Forall₂ (fun cell part => cell.Spells style part) cells parts) :
    Splits (sheetPrefix sheet ++ [':'].intercalate parts) sheet parts := by
  have hfree : ∀ part ∈ parts, '!' ∉ part ∧ ':' ∉ part := by
    refine forall_mem_of_forall₂ h fun cell part hspells => ?_
    obtain ⟨first, second, hparts⟩ := hspells.hasParts
    exact ⟨hparts.exclamation_not_mem, hparts.colon_not_mem⟩
  refine ⟨rfl, ?_, ?_, fun part hpart => (hfree part hpart).2⟩
  · rintro rfl
    exact hne (List.forall₂_nil_right_iff.mp h)
  · intro hmem
    rcases mem_intercalate hmem with hcolon | ⟨part, hpart, hmark⟩
    · cases hcolon
    · exact (hfree part hpart).1 hmark

/-- Blanks around the parts do not matter. -/
theorem forall₂_read_of_spells {cells : List Cell} (hcells : ∀ cell ∈ cells, cell.isOnSheet = true)
    (h : List.Forall₂ (fun cell part => cell.Spells style part) cells parts)
    (htrim : others.map trim = parts.map trim) :
    List.Forall₂ (fun cell part => Cell.read style part = .ok cell) cells others := by
  induction h generalizing others with
  | nil =>
    rw [List.map_eq_nil_iff.mp htrim]
    exact .nil
  | cons hfirst _ ih =>
    obtain ⟨other, rest, rfl, hother, hrest⟩ := List.map_eq_cons_iff.mp htrim
    rw [List.forall_mem_cons] at hcells
    exact .cons (Cell.read_of_spells (hfirst.of_trim_eq hother.symm) hcells.1) (ih hcells.2 hrest)

/-- Every spelling of a reference is read as the reference. -/
theorem read_of_spells (h : Spells style reference text) (hproper : reference.IsProper) :
    read style text = .ok reference := by
  obtain ⟨sheet, parts, hsheet, hparts, rfl⟩ := h
  obtain ⟨others, hsplits, hothers⟩ := (splits_of_spells sheet (List.cons_ne_nil _ _) hparts).trim
  rw [read_eq_ok_iff hsplits]
  refine ⟨?_, hsheet.symm, hproper.ordered, forall₂_read_of_spells hproper.on_sheet hparts hothers⟩
  intro hempty
  obtain ⟨c, rest, hname, -⟩ := hproper.named [] (hsheet.symm.trans hempty)
  cases hname

/-! What is read is proper, and its canonical text a spelling. -/

theorem isProper_of_read (h : read style text = .ok reference) : reference.IsProper := by
  obtain ⟨sheet, parts, hsplits⟩ := exists_splits (trim text)
  obtain ⟨hne, rfl, hordered, hcells⟩ := (read_eq_ok_iff hsplits).mp h
  refine ⟨?_, ?_, hordered⟩
  · intro name hname
    have hsheet : reference.sheet = some name := hname
    rw [hsheet] at hne hsplits
    cases name with
    | nil => exact absurd rfl hne
    | cons c rest =>
      -- the text has been trimmed, and the name is the beginning of it
      have htext := hsplits.eq
      exact ⟨c, rest, rfl, (isTrimmed_trim text).1 c (by rw [htext]; rfl)⟩
  · exact ((List.forall₂_and_left _ _).mp (hcells.imp fun _ _ h => ⟨Cell.isOnSheet_of_read h, h⟩)).1

theorem spells_written (style : Cell.Style) (h : reference.IsProper) :
    Spells style reference (reference.written style) := by
  refine ⟨reference.sheet, reference.cells.map (·.written style), ?_, ?_, ?_⟩
  · cases hsheet : reference.sheet with
    | none => rfl
    | some name =>
      obtain ⟨c, rest, rfl, hc⟩ := h.named name hsheet
      exact congrArg some (List.dropWhile_cons_of_neg (Bool.eq_false_iff.mp hc))
  · rw [List.forall₂_map_right_iff, List.forall₂_same]
    exact fun cell hcell => Cell.spells_written style (h.on_sheet cell hcell)
  · cases hlast : reference.last <;> simp [written, cells, sheetPrefix, hlast, List.intercalate]

theorem read_written (style : Cell.Style) (h : reference.IsProper) :
    read style (reference.written style) = .ok reference :=
  read_of_spells (spells_written style h) h

/-! The indirect function. -/

/-- The notation that the second argument of the indirect function asks for. -/
def styleOf (isLettered : Bool) : Cell.Style := if isLettered then .lettered else .numbered

/-- A call of the indirect function with a text and a truth value. -/
def indirect (context : Context) (text : String) (isLettered : Bool) : Run Value :=
  Catalog.standard.call context "INDIRECT" [.text text, .bool isLettered] []

/-- The answer to what is read: the canonical text, or an error value for what is refused. -/
def answered (isLettered : Bool) (outcome : Outcome Reference) : Outcome Value :=
  Value.answer ((fun reference => .text (String.ofList (reference.written (styleOf isLettered)))) <$>
    outcome)

section

variable (context : Context) {text : String} {isLettered : Bool}

theorem indirect_of_read {outcome : Outcome Reference}
    (h : read (styleOf isLettered) text.toList = outcome) :
    (indirect context text isLettered).Yields (answered isLettered outcome) [] := by
  have hnone : Entry.firstErrorOf [.text text, .bool isLettered] [] = none := rfl
  have hcanonical : Answer.toValue <$> canonical (.text text) (.bool isLettered) =
      (fun reference => .text (String.ofList (written (styleOf isLettered) reference))) <$>
        read (styleOf isLettered) text.toList := by
    cases isLettered <;> exact (comp_map _ _ _).symm
  rw [← h, answered, ← hcanonical, ← Entry.guarded_of_no_error hnone]
  exact Catalog.standard_call_yields_guarded rfl rfl rfl

/-- A text that the indirect function answers with is the canonical text of what is read. -/
theorem exists_of_indirect {answer : String}
    (h : (indirect context text isLettered).Yields (.ok (.text answer)) []) :
    ∃ reference, read (styleOf isLettered) text.toList = .ok reference ∧
      answer = String.ofList (reference.written (styleOf isLettered)) := by
  rcases hread : read (styleOf isLettered) text.toList with (cause | cause) | reference
  · cases (h.unique (indirect_of_read context hread)).1
  · cases (h.unique (indirect_of_read context hread)).1
  · cases (h.unique (indirect_of_read context hread)).1
    exact ⟨reference, rfl, rfl⟩

/-- The indirect function leaves its answers as they are. Any two spellings of references, in one
notation, are answered with texts, and with one text just if the references are the same. Without a
name before the exclamation mark the reference is bad. -/
theorem indirect_answers_one_text_per_reference :
    (∀ (text answer : String) (isLettered : Bool),
      (indirect context text isLettered).Yields (.ok (.text answer)) [] →
      (indirect context answer isLettered).Yields (.ok (.text answer)) []) ∧
    (∀ (isLettered : Bool) {first second : Reference} {spelling other : String},
      first.IsProper → second.IsProper →
      Spells (styleOf isLettered) first spelling.toList →
      Spells (styleOf isLettered) second other.toList →
      ∃ answer answer', (indirect context spelling isLettered).Yields (.ok (.text answer)) [] ∧
        (indirect context other isLettered).Yields (.ok (.text answer')) [] ∧
        (answer = answer' ↔ first = second)) ∧
    ∀ (isLettered : Bool) {blanks behind : List Char}, IsBlanks blanks → '!' ∉ behind →
      (indirect context (String.ofList (blanks ++ '!' :: behind)) isLettered).Yields
        (.ok (.error .badReference)) [] := by
  refine ⟨fun text answer isLettered h => ?_, fun isLettered _ _ spelling other hf hs hspells hother => ?_,
    fun isLettered blanks behind hblanks hmark => ?_⟩
  · obtain ⟨reference, hread, rfl⟩ := exists_of_indirect context h
    have hwritten : read (styleOf isLettered)
        (String.ofList (reference.written (styleOf isLettered))).toList = .ok reference := by
      rw [String.toList_ofList]
      exact read_written _ (isProper_of_read hread)
    exact indirect_of_read context hwritten
  · have hfirst := read_of_spells hspells hf
    have hsecond := read_of_spells hother hs
    refine ⟨_, _, indirect_of_read context hfirst, indirect_of_read context hsecond,
      fun heq => ?_, fun heq => by rw [heq]⟩
    -- the canonical text is read as the reference that it was written from
    have hwritten := String.ofList_injective heq
    have hread := read_written (styleOf isLettered) hf
    rw [hwritten, read_written _ hs] at hread
    exact (Except.ok.inj hread).symm
  · obtain ⟨parts, hsplits, -⟩ := (splits_sheetPrefix (some blanks) hmark).trim
    have hempty : trimLeft blanks = [] := List.dropWhile_eq_nil_iff.mpr hblanks
    have htext : (String.ofList (blanks ++ '!' :: behind)).toList =
        sheetPrefix (some blanks) ++ behind := by
      rw [String.toList_ofList, sheetPrefix, Option.elim_some, List.append_assoc,
        List.singleton_append]
    rw [Option.map_some, hempty, ← htext] at hsplits
    have hrefused : read (styleOf isLettered) _ = refuse .emptySheet := read_emptySheet hsplits
    exact indirect_of_read context hrefused

end

/-- A range of a named sheet, spelled with marks, zeros, blanks and small letters, and one of its
cells. -/
theorem indirect_answers_range_of_data :
    let context := Environment.contextAt ⟨Catalog.standard, [], ⟨⟨2024, 1, 15⟩, .midnight⟩⟩ 1
    let range : Reference := ⟨some ['D', 'a', 't', 'a'], ⟨7, 2⟩, some ⟨10, 3⟩⟩
    let corner : Reference := ⟨some ['D', 'a', 't', 'a'], ⟨7, 2⟩, none⟩
    (range.IsProper ∧ corner.IsProper) ∧
    (Spells (styleOf true) range " Data! $b$007 :c10".toList ∧
      Spells (styleOf true) corner "Data!b07".toList) ∧
    (∃ answer answer', (indirect context " Data! $b$007 :c10" true).Yields (.ok (.text answer)) [] ∧
      (indirect context "Data!b07" true).Yields (.ok (.text answer')) [] ∧ answer ≠ answer' ∧
      (indirect context answer true).Yields (.ok (.text answer)) []) ∧
    (IsBlanks [' '] ∧ '!' ∉ ['A', '1'] ∧
      (indirect context (String.ofList ([' '] ++ '!' :: ['A', '1'])) true).Yields
        (.ok (.error .badReference)) []) := by
  intro context range corner
  have hnamed : ∀ name ∈ some ['D', 'a', 't', 'a'], ∃ c rest, name = c :: rest ∧ isBlank c = false := by
    rintro _ ⟨⟩
    exact ⟨'D', _, rfl, by decide⟩
  have hrange : range.IsProper := ⟨hnamed, by decide, by rintro _ ⟨⟩; decide⟩
  have hcorner : corner.IsProper := ⟨hnamed, by decide, nofun⟩
  have hblank : IsBlanks [' '] := List.forall_mem_singleton.mpr (by decide)
  have hb : ∀ c ∈ ['b'], isLatinLetter c = true := List.forall_mem_singleton.mpr (by decide)
  have hc : ∀ c ∈ ['c'], isLatinLetter c = true := List.forall_mem_singleton.mpr (by decide)
  have hB : ['b'].map Char.toUpper = Cell.columnLetters 2 := by
    simp [Cell.columnLetters_of_ne_zero, Cell.columnLetters_zero]
  have hC : ['c'].map Char.toUpper = Cell.columnLetters 3 := by
    simp [Cell.columnLetters_of_ne_zero, Cell.columnLetters_zero]
  have hmarked : Cell.Spells ⟨7, 2⟩ .lettered [' ', '$', 'b', '$', '0', '0', '7', ' '] :=
    .lettered ⟨[' '], _, [' '], hblank, hblank, rfl,
      @Cell.Core.lettered ['$'] ['b'] ['$'] ['0', '0', '7'] (.inr rfl) hb (by decide) (.inr rfl)
        (by decide)⟩ hB ⟨by decide, 2, by decide⟩
  have hlast : Cell.Spells ⟨10, 3⟩ .lettered ['c', '1', '0'] :=
    .lettered ⟨[], _, [], isBlanks_nil, isBlanks_nil, rfl,
      @Cell.Core.lettered [] ['c'] [] ['1', '0'] (.inl rfl) hc (by decide) (.inl rfl)
        (by decide)⟩ hC ⟨by decide, 0, by decide⟩
  have hplain : Cell.Spells ⟨7, 2⟩ .lettered ['b', '0', '7'] :=
    .lettered ⟨[], _, [], isBlanks_nil, isBlanks_nil, rfl,
      @Cell.Core.lettered [] ['b'] [] ['0', '7'] (.inl rfl) hb (by decide) (.inl rfl)
        (by decide)⟩ hB ⟨by decide, 1, by decide⟩
  have hfirst : Spells (styleOf true) range " Data! $b$007 :c10".toList :=
    ⟨some [' ', 'D', 'a', 't', 'a'], [_, _], by decide, .cons hmarked (.cons hlast .nil), rfl⟩
  have hsecond : Spells (styleOf true) corner "Data!b07".toList :=
    ⟨some ['D', 'a', 't', 'a'], [_], by decide, .cons hplain .nil, rfl⟩
  obtain ⟨fixed, unique, unnamed⟩ := indirect_answers_one_text_per_reference context
  obtain ⟨answer, answer', hanswer, hanswer', hiff⟩ := unique true hrange hcorner hfirst hsecond
  have hne : answer ≠ answer' := fun heq => absurd (hiff.mp heq) (by simp [range, corner])
  have hfree : '!' ∉ ['A', '1'] := by decide
  exact ⟨⟨hrange, hcorner⟩, ⟨hfirst, hsecond⟩,
    ⟨answer, answer', hanswer, hanswer', hne, fixed _ _ true hanswer⟩,
    hblank, hfree, unnamed true hblank hfree⟩

end SheetFormulas.Reference
