import Mathlib.Data.List.Basic
import Mathlib.Data.List.TakeWhile
import SheetFormulas.Text.Blank
import SheetFormulas.Text.Digit
import SheetFormulas.Text.Search

/-!
Pieces of texts: runs of digits and of blanks, the text between blanks, and texts cut or cleared at
a separator of one character.
-/

namespace SheetFormulas.Text

/-- Whether a text consists of digits. -/
def IsDigits (text : List Char) : Prop := ∀ c ∈ text, isDigit c = true

/-- Whether a text consists of blanks. -/
def IsBlanks (text : List Char) : Prop := ∀ c ∈ text, isBlank c = true

theorem isDigits_nil : IsDigits [] := fun _ hc => absurd hc List.not_mem_nil

theorem isBlanks_nil : IsBlanks [] := fun _ hc => absurd hc List.not_mem_nil

theorem ne_of_isDigit {c d : Char} (h : isDigit c = true) (hd : isDigit d = false) : c ≠ d := by
  rintro rfl
  rw [h] at hd
  cases hd

theorem IsDigits.not_mem {text : List Char} {d : Char} (h : IsDigits text)
    (hd : isDigit d = false) : d ∉ text := fun hmem => ne_of_isDigit (h d hmem) hd rfl

theorem IsDigits.append {s t : List Char} (hs : IsDigits s) (ht : IsDigits t) : IsDigits (s ++ t) :=
  fun c hc => (List.mem_append.mp hc).elim (hs c) (ht c)

/-- No digit is blank: the ranges of the digits lie between the blanks. -/
theorem isBlank_of_isDigit {c : Char} (h : isDigit c = true) : isBlank c = false := by
  have apart : ∀ first ∈ zeroDigits, 0xa0 < first ∧ first + 9 < 0x1680 ∨
      0x1680 < first ∧ first + 9 < 0x2000 ∨ 0x3000 < first := by decide
  unfold isDigit digitValue? at h
  rw [← Bool.not_eq_true]
  intro hb
  simp only [isBlank, Bool.or_eq_true, Bool.and_eq_true, decide_eq_true_eq, beq_iff_eq] at hb
  generalize c.toNat = code at h hb
  dsimp only at h
  split at h
  · split at h
    · omega
    · cases h
  · rw [Option.isSome_map] at h
    obtain ⟨first, hfirst⟩ := Option.isSome_iff_exists.mp h
    have hmem := apart first (List.mem_of_find?_eq_some hfirst)
    have hin := List.find?_some hfirst
    simp only [Bool.and_eq_true, decide_eq_true_eq] at hin
    omega

/-! Runs at the beginning of a text. -/

section

variable {p : Char → Bool} {s t : List Char}

theorem takeWhile_eq_nil_of_head (ht : ∀ c ∈ t.head?, p c = false) : t.takeWhile p = [] := by
  cases t with
  | nil => rfl
  | cons c rest => exact List.takeWhile_cons_of_neg (Bool.eq_false_iff.mp (ht c rfl))

theorem dropWhile_eq_self_of_head (ht : ∀ c ∈ t.head?, p c = false) : t.dropWhile p = t := by
  cases t with
  | nil => rfl
  | cons c rest => exact List.dropWhile_cons_of_neg (Bool.eq_false_iff.mp (ht c rfl))

/-- A run of characters that satisfy a test ends where the next one does not. -/
theorem takeWhile_append_of_head (hs : ∀ c ∈ s, p c = true) (ht : ∀ c ∈ t.head?, p c = false) :
    (s ++ t).takeWhile p = s := by
  rw [List.takeWhile_append_of_pos hs, takeWhile_eq_nil_of_head ht, List.append_nil]

theorem dropWhile_append_of_head (hs : ∀ c ∈ s, p c = true) (ht : ∀ c ∈ t.head?, p c = false) :
    (s ++ t).dropWhile p = t := by
  rw [List.dropWhile_append_of_pos hs, dropWhile_eq_self_of_head ht]

theorem head?_dropWhile (p : Char → Bool) (t : List Char) :
    ∀ c ∈ (t.dropWhile p).head?, p c = false := by
  intro c hc
  have h := List.head?_dropWhile_not p t
  rw [Option.mem_def.mp hc] at h
  exact h

end

/-! The text between blanks. -/

/-- Whether a text neither starts nor ends with a blank. -/
def IsTrimmed (text : List Char) : Prop :=
  (∀ c ∈ text.head?, isBlank c = false) ∧ ∀ c ∈ text.getLast?, isBlank c = false

theorem exists_trimLeft (text : List Char) :
    ∃ before, IsBlanks before ∧ text = before ++ trimLeft text :=
  ⟨text.takeWhile isBlank, fun _ hc => List.mem_takeWhile_imp hc,
    List.takeWhile_append_dropWhile.symm⟩

theorem exists_trimRight (text : List Char) :
    ∃ after, IsBlanks after ∧ text = trimRight text ++ after := by
  refine ⟨(text.reverse.takeWhile isBlank).reverse,
    fun c hc => List.mem_takeWhile_imp (List.mem_reverse.mp hc), ?_⟩
  rw [trimRight, ← List.reverse_append, List.takeWhile_append_dropWhile, List.reverse_reverse]

theorem exists_trim (text : List Char) :
    ∃ before after, IsBlanks before ∧ IsBlanks after ∧ text = before ++ trim text ++ after := by
  obtain ⟨before, hb, hl⟩ := exists_trimLeft text
  obtain ⟨after, ha, hr⟩ := exists_trimRight (trimLeft text)
  refine ⟨before, after, hb, ha, ?_⟩
  rw [List.append_assoc, trim, ← hr, ← hl]

/-- What is not blank is not trimmed away. -/
theorem trim_ne_nil_of_mem {text : List Char} {c : Char} (h : c ∈ text) (hc : isBlank c = false) :
    trim text ≠ [] := by
  intro hnil
  obtain ⟨before, after, hb, ha, htext⟩ := exists_trim text
  rw [hnil, List.append_nil] at htext
  rw [htext] at h
  have hblank := (List.mem_append.mp h).elim (hb c) (ha c)
  rw [hc] at hblank
  cases hblank

theorem trimLeft_append {before text : List Char} (hb : IsBlanks before)
    (ht : ∀ c ∈ text.head?, isBlank c = false) : trimLeft (before ++ text) = text :=
  dropWhile_append_of_head hb ht

theorem trimRight_append {text after : List Char} (ha : IsBlanks after)
    (ht : ∀ c ∈ text.getLast?, isBlank c = false) : trimRight (text ++ after) = text := by
  have hlast : ∀ c ∈ text.reverse.head?, isBlank c = false := by rwa [List.head?_reverse]
  rw [trimRight, List.reverse_append,
    dropWhile_append_of_head (fun c hc => ha c (List.mem_reverse.mp hc)) hlast, List.reverse_reverse]

theorem trim_append {before text after : List Char} (hb : IsBlanks before) (ha : IsBlanks after)
    (ht : IsTrimmed text) (hne : text ≠ []) : trim (before ++ text ++ after) = text := by
  have hhead : ∀ c ∈ (text ++ after).head?, isBlank c = false := by
    rw [List.head?_append_of_ne_nil _ hne]
    exact ht.1
  rw [trim, List.append_assoc, trimLeft_append hb hhead, trimRight_append ha ht.2]

theorem isTrimmed_trim (text : List Char) : IsTrimmed (trim text) := by
  constructor
  · intro c hc
    obtain ⟨after, -, hr⟩ := exists_trimRight (trimLeft text)
    apply head?_dropWhile isBlank text
    rw [← trimLeft, hr, ← trim]
    exact List.mem_head?_append_of_mem_head? hc
  · rw [trim, trimRight, List.getLast?_reverse]
    exact head?_dropWhile isBlank _

/-! Separators of one character. -/

/-- A text is cut at the first place of a character. -/
theorem splitAtFirst_singleton (c : Char) (text : List Char) :
    splitAtFirst [c] text =
      if c ∈ text then some (text.takeWhile (· != c), (text.dropWhile (· != c)).tail) else none := by
  induction text with
  | nil => rfl
  | cons d rest ih =>
    by_cases hd : c = d
    · subst hd
      simp [splitAtFirst]
    · rw [splitAtFirst, ih]
      by_cases hmem : c ∈ rest <;> simp [hd, Ne.symm hd, hmem]

theorem occursIn_singleton (c : Char) (text : List Char) : occursIn [c] text = decide (c ∈ text) := by
  rw [occursIn, splitAtFirst_singleton]
  by_cases hmem : c ∈ text <;> simp [hmem]

/-- Without a separator of one character, the other characters are left. -/
theorem eraseAll_singleton (c : Char) (text : List Char) :
    eraseAll [c] text = text.filter (· != c) := by
  unfold eraseAll
  induction text with
  | nil => rfl
  | cons d rest ih =>
    by_cases hd : c = d
    · subst hd
      simpa [eraseFrom] using ih
    · simpa [eraseFrom, hd, Ne.symm hd] using ih

end SheetFormulas.Text
