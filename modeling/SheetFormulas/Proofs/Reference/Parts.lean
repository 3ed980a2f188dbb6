import SheetFormulas.Proofs.Reference.CellText

/-!
The parts of a reference as text: a sheet name before the last exclamation mark, and texts of cells
between colons. The reader takes the blanks around the text away before it takes the text apart, but
these are blanks before the name or around the cells.
-/

namespace SheetFormulas.Reference

open Text

variable {style : Cell.Style} {text behind : List Char} {sheet : Option (List Char)}
  {parts : List (List Char)} {reference : Reference}

/-- What stands before the cells: the sheet name, if there is one, and an exclamation mark. -/
def sheetPrefix (sheet : Option (List Char)) : List Char := sheet.elim [] (· ++ ['!'])

/-- A text taken apart: a sheet name and the texts between the colons behind it. -/
structure Splits (text : List Char) (sheet : Option (List Char)) (parts : List (List Char)) :
    Prop where
  eq : text = sheetPrefix sheet ++ [':'].intercalate parts
  ne_nil : parts ≠ []
  mark_not_mem : '!' ∉ [':'].intercalate parts
  colon_not_mem : ∀ part ∈ parts, ':' ∉ part

theorem splitSheet_sheetPrefix (sheet : Option (List Char)) (h : '!' ∉ behind) :
    splitSheet (sheetPrefix sheet ++ behind) = (sheet, behind) := by
  have hcells : '!' ∉ behind.reverse := mt List.mem_reverse.mp h
  cases sheet with
  | none =>
    rw [sheetPrefix, Option.elim_none, List.nil_append, splitSheet, splitAtFirst_singleton,
      if_neg hcells]
  | some name =>
    have hreverse : (sheetPrefix (some name) ++ behind).reverse =
        behind.reverse ++ '!' :: name.reverse := by
      simp [sheetPrefix]
    have hbefore : ∀ c ∈ behind.reverse, (c != '!') = true := fun c hc =>
      bne_iff_ne.mpr fun heq => hcells (heq ▸ hc)
    have hstop : ∀ c ∈ ('!' :: name.reverse).head?, (c != '!') = false := by
      rintro c ⟨⟩
      rfl
    rw [splitSheet, hreverse, splitAtFirst_singleton, if_pos (by simp),
      takeWhile_append_of_head hbefore hstop, dropWhile_append_of_head hbefore hstop]
    simp

theorem exists_sheetPrefix (text : List Char) :
    ∃ sheet behind, text = sheetPrefix sheet ++ behind ∧ '!' ∉ behind := by
  by_cases hmark : '!' ∈ text
  · obtain ⟨before, after, htext, hbefore⟩ :=
      List.eq_append_cons_of_mem (List.mem_reverse.mpr hmark)
    refine ⟨some after.reverse, before.reverse, ?_, mt List.mem_reverse.mp hbefore⟩
    have h := congrArg List.reverse htext
    rw [List.reverse_reverse] at h
    simp [h, sheetPrefix]
  · exact ⟨none, text, rfl, hmark⟩

theorem splits_sheetPrefix (sheet : Option (List Char)) (h : '!' ∉ behind) :
    Splits (sheetPrefix sheet ++ behind) sheet (splitAll ':' behind) where
  eq := by rw [intercalate_splitAll]
  ne_nil := splitAll_ne_nil _ _
  mark_not_mem := by rwa [intercalate_splitAll]
  colon_not_mem := fun _ => not_mem_of_mem_splitAll

theorem exists_splits (text : List Char) : ∃ sheet parts, Splits text sheet parts := by
  obtain ⟨sheet, behind, rfl, hmark⟩ := exists_sheetPrefix text
  exact ⟨sheet, splitAll ':' behind, splits_sheetPrefix sheet hmark⟩

theorem Splits.splitSheet_eq (h : Splits text sheet parts) :
    splitSheet text = (sheet, [':'].intercalate parts) := by
  rw [h.eq, splitSheet_sheetPrefix sheet h.mark_not_mem]

theorem Splits.splitAll_eq (h : Splits text sheet parts) :
    splitAll ':' ([':'].intercalate parts) = parts :=
  splitAll_intercalate h.colon_not_mem h.ne_nil

/-- Without the blanks around it, a text comes apart in the same way, apart from blanks before the
name and around the cells. -/
theorem Splits.trim (h : Splits text sheet parts) :
    ∃ others, Splits (trim text) (sheet.map trimLeft) others ∧
      others.map Text.trim = parts.map Text.trim := by
  have hparts := h.splitAll_eq
  obtain ⟨htext, -, hmark, -⟩ := h
  generalize [':'].intercalate parts = behind at *
  subst hparts htext
  have hcolon : isBlank ':' = false := by decide
  -- without a name the first blanks stand before the first cell
  cases sheet with
  | none =>
    obtain ⟨before, after, -, -, hcells⟩ := exists_trim behind
    have hmark' : '!' ∉ Text.trim behind := fun hmem => hmark (by rw [hcells]; simp [hmem])
    exact ⟨_, splits_sheetPrefix none hmark', map_trim_splitAll_trim hcolon behind⟩
  | some name =>
    obtain ⟨after, -, hcells⟩ := exists_trimRight behind
    have hmark' : '!' ∉ trimRight behind := fun hmem => hmark (by rw [hcells]; simp [hmem])
    have htrim : Text.trim (sheetPrefix (some name) ++ behind) =
        sheetPrefix (some (trimLeft name)) ++ trimRight behind := by
      have hexclamation : isBlank '!' = false := by decide
      simp only [sheetPrefix, Option.elim_some, List.append_assoc, List.singleton_append]
      rw [Text.trim, trimLeft_append_cons hexclamation, trimRight_append_cons hexclamation]
    rw [htrim]
    exact ⟨_, splits_sheetPrefix _ hmark', map_trim_splitAll_trimRight hcolon behind⟩

/-! Reading the parts. -/

/-- The cells of a reference. -/
def cells (reference : Reference) : List Cell := reference.first :: reference.last.toList

/-- Whether the last cell of a reference, if it has one, is neither above nor left of the first. -/
def IsOrdered (reference : Reference) : Prop :=
  ∀ last ∈ reference.last,
    reference.first.row ≤ last.row ∧ reference.first.column ≤ last.column

theorem read_emptySheet (h : Splits (Text.trim text) (some []) parts) :
    read style text = refuse .emptySheet := by
  unfold read
  rw [h.splitSheet_eq]
  rfl

section

variable (hsheet : sheet ≠ some [])
include hsheet

theorem read_single {cell : List Char} (h : Splits (Text.trim text) sheet [cell]) :
    read style text = do
      let first ← Cell.read style cell
      return ⟨sheet, first, none⟩ := by
  unfold read
  rw [h.splitSheet_eq]
  dsimp only
  rw [if_neg hsheet, h.splitAll_eq]

theorem read_pair {first last : List Char} (h : Splits (Text.trim text) sheet [first, last]) :
    read style text = do
      let first ← Cell.read style first
      let last ← Cell.read style last
      if last.row < first.row ∨ last.column < first.column then refuse .reversedRange
      else return ⟨sheet, first, some last⟩ := by
  unfold read
  rw [h.splitSheet_eq]
  dsimp only
  rw [if_neg hsheet, h.splitAll_eq]

/-- A pair is read if both cells are read and in order. -/
theorem read_pair_eq_ok_iff {start stop : List Char}
    (h : Splits (Text.trim text) sheet [start, stop]) :
    read style text = .ok reference ↔ reference.sheet = sheet ∧ reference.IsOrdered ∧
      List.Forall₂ (fun cell part => Cell.read style part = .ok cell) reference.cells
        [start, stop] := by
  obtain ⟨name, first, last⟩ := reference
  rw [read_pair hsheet h]
  constructor
  · intro hread
    obtain ⟨a, ha, hread⟩ := Outcome.bind_eq_ok_iff.mp hread
    obtain ⟨b, hb, hread⟩ := Outcome.bind_eq_ok_iff.mp hread
    split at hread
    · cases hread
    · next hordered =>
      cases hread
      refine ⟨rfl, ?_, .cons ha (.cons hb .nil)⟩
      rintro _ ⟨⟩
      exact (not_or.mp hordered).imp Nat.le_of_not_lt Nat.le_of_not_lt
  · rintro ⟨rfl, hordered, hcells⟩
    cases last with
    | none =>
      obtain ⟨-, hnil⟩ := List.forall₂_cons.mp hcells
      cases hnil
    | some last =>
      obtain ⟨hstart, hrest⟩ := List.forall₂_cons.mp hcells
      obtain ⟨hstop, -⟩ := List.forall₂_cons.mp hrest
      obtain ⟨hrow, hcolumn⟩ := hordered last rfl
      rw [hstart, Outcome.ok_bind, hstop, Outcome.ok_bind,
        if_neg (not_or.mpr ⟨Nat.not_lt.mpr hrow, Nat.not_lt.mpr hcolumn⟩)]
      rfl

theorem read_many (h : Splits (Text.trim text) sheet parts) (hmany : 2 < parts.length) :
    read style text = refuse (.malformedReference (String.ofList text)) := by
  unfold read
  rw [h.splitSheet_eq]
  dsimp only
  rw [if_neg hsheet, h.splitAll_eq]
  match parts with
  | _ :: _ :: _ :: _ => rfl

end

/-- A reference is read if its name is not empty and its cells are read and in order. -/
theorem read_eq_ok_iff (h : Splits (Text.trim text) sheet parts) :
    read style text = .ok reference ↔
      sheet ≠ some [] ∧ reference.sheet = sheet ∧ reference.IsOrdered ∧
        List.Forall₂ (fun cell part => Cell.read style part = .ok cell) reference.cells parts := by
  obtain ⟨name, first, last⟩ := reference
  by_cases hsheet : sheet = some []
  · subst hsheet
    rw [read_emptySheet h]
    simp [refuse]
  · match parts with
    | [] => exact absurd rfl h.ne_nil
    | [cell] =>
      rw [read_single hsheet h]
      cases last <;>
        simp [Outcome.bind_eq_ok_iff, cells, IsOrdered, hsheet, eq_comm (a := sheet), and_comm]
    | [start, stop] =>
      rw [read_pair_eq_ok_iff hsheet h]
      simp [hsheet]
    | start :: stop :: more :: rest =>
      rw [read_many hsheet h (by simp)]
      cases last <;> simp [refuse, cells]

end SheetFormulas.Reference
