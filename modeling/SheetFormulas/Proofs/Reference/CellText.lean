import Mathlib.Data.Nat.Digits.Defs
import SheetFormulas.Proofs.Reference.Columns
import SheetFormulas.Proofs.Text.Latin
import SheetFormulas.Proofs.Text.Parts
import SheetFormulas.Proofs.Value.Coercion

/-!
Texts of cells. The reader of a cell takes a text apart by a small grammar; every text that spells a
cell of a sheet by it is read as that cell, and the canonical text is one of these spellings.
-/

namespace SheetFormulas.Cell

open Text

variable {style : Style} {core text first second : List Char} {cell : Cell}

/-! The grammar of cells. -/

/-- An optional dollar sign. -/
def IsMark (mark : List Char) : Prop := mark = [] ∨ mark = ['$']

/-- A cell without blanks around it: column letters and row digits, each after an optional mark, or
the letter R, row digits, the letter C and column digits. -/
inductive Core : Style → List Char → List Char → List Char → Prop
  | lettered {mark letters mark' digits : List Char} (hmark : IsMark mark)
      (hletters : ∀ c ∈ letters, isLatinLetter c = true)
      (hlength : 1 ≤ letters.length ∧ letters.length ≤ 3) (hmark' : IsMark mark')
      (hdigits : isLatinNumeral digits = true) :
      Core .lettered (mark ++ (letters ++ (mark' ++ digits))) letters digits
  | numbered {r c : Char} {row column : List Char} (hr : caselessKey r = 'r')
      (hrow : isLatinNumeral row = true) (hc : caselessKey c = 'c')
      (hcolumn : isLatinNumeral column = true) :
      Core .numbered (r :: (row ++ c :: column)) row column

/-- The two parts of a cell in a text, with blanks around it. -/
def HasParts (style : Style) (text first second : List Char) : Prop :=
  ∃ before core after, IsBlanks before ∧ IsBlanks after ∧ text = before ++ core ++ after ∧
    Core style core first second

/-- The two parts of a cell that the reader takes from a text. -/
def parts? : Style → List Char → Option (List Char × List Char)
  | .lettered => letteredParts?
  | .numbered => numberedParts?

theorem exists_dropDollar (text : List Char) : ∃ mark, IsMark mark ∧ text = mark ++ dropDollar text := by
  unfold dropDollar
  split
  · exact ⟨['$'], .inr rfl, rfl⟩
  · exact ⟨[], .inl rfl, rfl⟩

theorem dropDollar_append {mark : List Char} (hmark : IsMark mark) (h : ∀ c ∈ text.head?, c ≠ '$') :
    dropDollar (mark ++ text) = text := by
  rcases hmark with rfl | rfl
  · unfold dropDollar
    split
    · next rest heq =>
      rw [List.nil_append] at heq
      exact absurd rfl (h '$' (heq ▸ rfl))
    · rfl
  · rfl

theorem isLatinNumeral_head {digits : List Char} (h : isLatinNumeral digits = true) :
    ∃ d rest, digits = d :: rest ∧ isLatinDigit d = true := by
  obtain ⟨hne, hall⟩ := isLatinNumeral_iff.mp h
  obtain ⟨d, rest, rfl⟩ := List.exists_cons_of_ne_nil hne
  exact ⟨d, rest, rfl, hall d List.mem_cons_self⟩

theorem takeWhile_append_drop (p : Char → Bool) (text : List Char) :
    text.takeWhile p ++ text.drop (text.takeWhile p).length = text :=
  List.prefix_iff_eq_append.mp (List.takeWhile_prefix p)

/-- A mark and digits do not start with a letter. -/
theorem head_mark_digits {mark digits : List Char} (hmark : IsMark mark)
    (hdigits : isLatinNumeral digits = true) :
    ∀ c ∈ (mark ++ digits).head?, isLatinLetter c = false := by
  rcases hmark with rfl | rfl
  · obtain ⟨d, rest, rfl, hd⟩ := isLatinNumeral_head hdigits
    rintro c ⟨⟩
    exact isLatinLetter_of_isLatinDigit hd
  · rintro c ⟨⟩
    decide

theorem letteredParts?_eq_some_iff :
    letteredParts? core = some (first, second) ↔ Core .lettered core first second := by
  constructor
  · intro h
    unfold letteredParts? at h
    dsimp only at h
    split at h
    · next hparts =>
      cases h
      obtain ⟨mark, hmark, hcore⟩ := exists_dropDollar core
      obtain ⟨mark', hmark', hrest⟩ := exists_dropDollar
        ((dropDollar core).drop ((dropDollar core).takeWhile isLatinLetter).length)
      -- each run that the reader takes off is followed by what it leaves
      have hwritten := Core.lettered hmark (fun c hc => List.mem_takeWhile_imp hc)
        ⟨hparts.1, hparts.2.1⟩ hmark' hparts.2.2
      rwa [← hrest, takeWhile_append_drop, ← hcore] at hwritten
    · cases h
  · intro h
    cases h with
    | @lettered mark _ mark' _ hmark hletters hlength hmark' hdigits =>
    have hstart : ∀ c ∈ (first ++ (mark' ++ second)).head?, c ≠ '$' := by
      obtain ⟨c, rest, rfl⟩ := List.exists_cons_of_length_pos hlength.1
      rintro d ⟨⟩ rfl
      have hdollar := hletters '$' List.mem_cons_self
      revert hdollar
      decide
    have hdigit : ∀ c ∈ second.head?, c ≠ '$' := by
      obtain ⟨d, rest, rfl, hd⟩ := isLatinNumeral_head hdigits
      rintro c ⟨⟩ rfl
      cases hd
    have htaken := takeWhile_append_of_head hletters (head_mark_digits hmark' hdigits)
    unfold letteredParts?
    dsimp only
    rw [dropDollar_append hmark hstart, htaken, List.drop_left, dropDollar_append hmark' hdigit,
      if_pos ⟨hlength.1, hlength.2, hdigits⟩]

theorem dropLetter?_eq_some_iff {letter : Char} {rest : List Char} :
    dropLetter? letter text = some rest ↔ ∃ c, caselessKey c = letter ∧ text = c :: rest := by
  cases text with
  | nil => simp [dropLetter?]
  | cons c tail =>
    rw [dropLetter?]
    split
    · next hc => simp [hc]
    · next hc =>
      simp only [reduceCtorEq, List.cons.injEq, false_iff, not_exists, not_and]
      rintro d hd rfl
      exact absurd hd hc

/-- A character that agrees with a letter from A to Z is one itself. -/
theorem isLatinLetter_of_caselessKey {c letter : Char} (h : caselessKey c = letter)
    (hletter : 0x61 ≤ letter.toNat ∧ letter.toNat ≤ 0x7a) : isLatinLetter c = true := by
  subst h
  simpa [isLatinLetter] using hletter

theorem numberedParts?_eq_some_iff :
    numberedParts? core = some (first, second) ↔ Core .numbered core first second := by
  constructor
  · intro h
    unfold numberedParts? at h
    simp only [bind, Option.bind_eq_some_iff, dropLetter?_eq_some_iff] at h
    obtain ⟨_, ⟨r, hr, rfl⟩, column, ⟨c, hc, hrest⟩, hparts⟩ := h
    split at hparts
    · next hnumerals =>
      cases hparts
      rw [Bool.and_eq_true] at hnumerals
      have hwritten := Core.numbered hr hnumerals.1 hc hnumerals.2
      rwa [← hrest, takeWhile_append_drop] at hwritten
    · cases hparts
  · intro h
    cases h with
    | @numbered r c _ _ hr hrow hc hcolumn =>
    have hstop : ∀ d ∈ (c :: second).head?, isLatinDigit d = false := by
      rintro d ⟨⟩
      rw [← Bool.not_eq_true]
      intro hdigit
      have hletter := isLatinLetter_of_caselessKey hc (by decide)
      rw [isLatinLetter_of_isLatinDigit hdigit] at hletter
      cases hletter
    have htaken := takeWhile_append_of_head (isLatinNumeral_iff.mp hrow).2 hstop
    unfold numberedParts?
    rw [dropLetter?_eq_some_iff.mpr ⟨r, hr, rfl⟩]
    dsimp only [bind, Option.bind_some]
    rw [htaken, List.drop_left, dropLetter?_eq_some_iff.mpr ⟨c, hc, rfl⟩]
    dsimp only [Option.bind_some]
    rw [hrow, hcolumn]
    rfl

theorem parts?_eq_some_iff : parts? style core = some (first, second) ↔ Core style core first second :=
  match style with
  | .lettered => letteredParts?_eq_some_iff
  | .numbered => numberedParts?_eq_some_iff

/-! Blanks around a cell. -/

theorem Core.of_mem (h : Core style core first second) {c : Char} (hc : c ∈ core) :
    c = '$' ∨ isLatinLetter c = true ∨ isLatinDigit c = true := by
  have hmark {mark : List Char} (hmark : IsMark mark) (hc : c ∈ mark) : c = '$' := by
    rcases hmark with rfl | rfl
    · cases hc
    · exact List.mem_singleton.mp hc
  have hnumeral {digits : List Char} (h : isLatinNumeral digits = true) (hc : c ∈ digits) :
      isLatinDigit c = true := (isLatinNumeral_iff.mp h).2 c hc
  cases h with
  | lettered hmark₁ hletters _ hmark₂ hdigits =>
    simp only [List.mem_append] at hc
    rcases hc with hc | hc | hc | hc
    · exact .inl (hmark hmark₁ hc)
    · exact .inr (.inl (hletters c hc))
    · exact .inl (hmark hmark₂ hc)
    · exact .inr (.inr (hnumeral hdigits hc))
  | numbered hr hrow hk hcolumn =>
    simp only [List.mem_append, List.mem_cons] at hc
    rcases hc with rfl | hc | rfl | hc
    · exact .inr (.inl (isLatinLetter_of_caselessKey hr (by decide)))
    · exact .inr (.inr (hnumeral hrow hc))
    · exact .inr (.inl (isLatinLetter_of_caselessKey hk (by decide)))
    · exact .inr (.inr (hnumeral hcolumn hc))

theorem Core.isBlank_of_mem (h : Core style core first second) {c : Char} (hc : c ∈ core) :
    isBlank c = false := by
  rcases h.of_mem hc with rfl | hletter | hdigit
  · decide
  · exact isBlank_of_isLatinLetter hletter
  · exact isBlank_of_isLatinDigit hdigit

theorem Core.isTrimmed (h : Core style core first second) : IsTrimmed core :=
  ⟨fun _ hc => h.isBlank_of_mem (List.mem_of_mem_head? hc),
    fun _ hc => h.isBlank_of_mem (List.mem_of_getLast? hc)⟩

theorem Core.ne_nil (h : Core style core first second) : core ≠ [] := by
  cases h with
  | lettered _ _ hlength _ _ =>
    rintro hnil
    simp only [List.append_eq_nil_iff] at hnil
    rw [hnil.2.1] at hlength
    cases hlength.1
  | numbered => exact List.cons_ne_nil _ _

/-- The reader takes a text apart just as the grammar does. -/
theorem hasParts_iff :
    HasParts style text first second ↔ parts? style (trim text) = some (first, second) := by
  rw [parts?_eq_some_iff]
  constructor
  · rintro ⟨before, core, after, hb, ha, rfl, h⟩
    rwa [trim_append hb ha h.isTrimmed h.ne_nil]
  · intro h
    obtain ⟨before, after, hb, ha, htext⟩ := exists_trim text
    exact ⟨before, trim text, after, hb, ha, htext, h⟩

theorem HasParts.of_trim_eq {other : List Char} (htrim : trim text = trim other)
    (h : HasParts style text first second) : HasParts style other first second := by
  rw [hasParts_iff] at h ⊢
  rwa [← htrim]

theorem HasParts.not_mem (h : HasParts style text first second) {d : Char}
    (hblank : isBlank d = false) (hdollar : d ≠ '$') (hletter : isLatinLetter d = false)
    (hdigit : isLatinDigit d = false) : d ∉ text := by
  obtain ⟨before, core, after, hb, ha, rfl, hcore⟩ := h
  intro hd
  rcases List.mem_append.mp hd with hd | hd
  · rcases List.mem_append.mp hd with hd | hd
    · exact hb.not_mem hblank hd
    · rcases hcore.of_mem hd with rfl | h | h
      · exact hdollar rfl
      · rw [hletter] at h
        cases h
      · rw [hdigit] at h
        cases h
  · exact ha.not_mem hblank hd

theorem HasParts.exclamation_not_mem (h : HasParts style text first second) : '!' ∉ text :=
  h.not_mem (by decide) (by decide) (by decide) (by decide)

theorem HasParts.colon_not_mem (h : HasParts style text first second) : ':' ∉ text :=
  h.not_mem (by decide) (by decide) (by decide) (by decide)

/-! What the reader makes of the parts. -/

theorem readAnywhere_lettered (h : HasParts .lettered text first second) :
    readAnywhere .lettered text =
      match columnNumber? (upper first) with
      | none => refuse (.badColumn (String.ofList text))
      | some column => (⟨·, column⟩) <$> readNumber second := by
  have hparts : letteredParts? (trim text) = some (first, second) := hasParts_iff.mp h
  unfold readAnywhere
  dsimp only
  rw [hparts]
  rfl

theorem readAnywhere_numbered (h : HasParts .numbered text first second) :
    readAnywhere .numbered text = do
      let row ← readNumber first
      let column ← readNumber second
      return ⟨row, column⟩ := by
  have hparts : numberedParts? (trim text) = some (first, second) := hasParts_iff.mp h
  unfold readAnywhere
  dsimp only
  rw [hparts]

theorem readAnywhere_malformed (h : ∀ first second, ¬ HasParts style text first second) :
    readAnywhere style text = refuse (.malformedReference (String.ofList text)) := by
  have hparts : parts? style (trim text) = none := by
    rw [Option.eq_none_iff_forall_ne_some]
    exact fun ⟨first, second⟩ hsome => h first second (hasParts_iff.mpr hsome)
  unfold readAnywhere
  cases style <;> (dsimp only [parts?] at hparts ⊢; rw [hparts])

/-! Spellings. -/

/-- Whether digits write down a number, with zeros in front or not and not too many in all. -/
def IsNumeral (n : Nat) (digits : List Char) : Prop :=
  digits.length ≤ Number.digitLimit ∧ ∃ zeros, digits = paddedDigits zeros n

/-- A text spells a cell if its parts write down the column and the row, in either case. -/
inductive Spells (cell : Cell) : Style → List Char → Prop
  | lettered {text letters digits : List Char} (h : HasParts .lettered text letters digits)
      (hletters : letters.map Char.toUpper = columnLetters cell.column)
      (hdigits : IsNumeral cell.row digits) : Spells cell .lettered text
  | numbered {text row column : List Char} (h : HasParts .numbered text row column)
      (hrow : IsNumeral cell.row row) (hcolumn : IsNumeral cell.column column) :
      Spells cell .numbered text

theorem readNumber_of_isNumeral {n : Nat} {digits : List Char} (h : IsNumeral n digits) :
    readNumber digits = .ok n := by
  obtain ⟨hlength, zeros, rfl⟩ := h
  rw [readNumber, if_pos hlength, digitsValue_paddedDigits]

theorem readAnywhere_of_spells (h : Spells cell style text) :
    readAnywhere style text = .ok cell := by
  cases h with
  | @lettered _ letters digits h hletters hdigits =>
    have hcapitals : ∀ c ∈ letters.map Char.toUpper, IsCapital c := by
      rw [hletters]
      exact fun _ => isCapital_of_mem_columnLetters
    rw [readAnywhere_lettered h, upper_eq_of_map_toUpper hcapitals, hletters,
      columnNumber?_columnLetters, readNumber_of_isNumeral hdigits]
    rfl
  | numbered h hrow hcolumn =>
    rw [readAnywhere_numbered h, readNumber_of_isNumeral hrow, readNumber_of_isNumeral hcolumn]
    rfl

/-- Every spelling of a cell of a sheet is read as the cell. -/
theorem read_of_spells (h : Spells cell style text) (hcell : cell.isOnSheet = true) :
    read style text = .ok cell := by
  rw [read, readAnywhere_of_spells h, Outcome.ok_bind, if_pos hcell]
  rfl

theorem isOnSheet_of_read (h : read style text = .ok cell) : cell.isOnSheet = true := by
  obtain ⟨other, -, hother⟩ := Outcome.bind_eq_ok_iff.mp h
  split at hother
  · next honsheet =>
    cases hother
    exact honsheet
  · cases hother

theorem Spells.of_trim_eq {other : List Char} (htrim : trim text = trim other)
    (h : Spells cell style text) : Spells cell style other := by
  cases h with
  | lettered h hletters hdigits => exact .lettered (h.of_trim_eq htrim) hletters hdigits
  | numbered h hrow hcolumn => exact .numbered (h.of_trim_eq htrim) hrow hcolumn

theorem Spells.hasParts (h : Spells cell style text) :
    ∃ first second, HasParts style text first second := by
  cases h with
  | lettered h _ _ => exact ⟨_, _, h⟩
  | numbered h _ _ => exact ⟨_, _, h⟩

/-! The canonical text of a cell. -/

theorem isOnSheet_iff :
    cell.isOnSheet = true ↔
      (1 ≤ cell.row ∧ cell.row ≤ rowLimit) ∧ 1 ≤ cell.column ∧ cell.column ≤ columnLimit := by
  simp only [isOnSheet, Bool.and_eq_true, decide_eq_true_eq, and_assoc]

theorem isNumeral_toDigits {n : Nat} (h : n ≤ rowLimit) : IsNumeral n (Nat.toDigits 10 n) := by
  refine ⟨?_, 0, rfl⟩
  have hlength := Nat.toDigits_length 10 n 7 (by decide) (by unfold rowLimit at h; omega)
  unfold Number.digitLimit
  omega

theorem spells_written (style : Style) (hcell : cell.isOnSheet = true) :
    Spells cell style (cell.written style) := by
  obtain ⟨⟨-, hrow⟩, hone, hcolumn⟩ := isOnSheet_iff.mp hcell
  have hparts {core first second : List Char} (h : Core style core first second) :
      HasParts style core first second :=
    ⟨[], core, [], isBlanks_nil, isBlanks_nil, by rw [List.nil_append, List.append_nil], h⟩
  cases style with
  | lettered =>
    have hcore := Core.lettered (.inl rfl)
      (fun _ hc => isLatinLetter_of_isCapital (isCapital_of_mem_columnLetters hc))
      ⟨one_le_length_columnLetters hone, length_columnLetters_le_three hcolumn⟩ (.inl rfl)
      (isLatinNumeral_paddedDigits 0 cell.row)
    have hupper : (columnLetters cell.column).map Char.toUpper = columnLetters cell.column := by
      conv_rhs => rw [← List.map_id (columnLetters cell.column)]
      exact List.map_congr_left fun _ hc =>
        toUpper_of_isCapital (isCapital_of_mem_columnLetters hc)
    exact .lettered (hparts hcore) hupper (isNumeral_toDigits hrow)
  | numbered =>
    have hcore := Core.numbered (r := 'R') (c := 'C') (by decide)
      (isLatinNumeral_paddedDigits 0 cell.row) (by decide) (isLatinNumeral_paddedDigits 0 cell.column)
    have hlimit : cell.column ≤ rowLimit := Nat.le_trans hcolumn (by decide)
    exact .numbered (hparts hcore) (isNumeral_toDigits hrow) (isNumeral_toDigits hlimit)

end SheetFormulas.Cell
