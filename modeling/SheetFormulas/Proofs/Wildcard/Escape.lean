import SheetFormulas.Proofs.Wildcard.Language

/-!
Escaped texts. With a tilde in front of each of its special characters, a text becomes a pattern for
the texts that agree with it character by character. A lookup takes a text for a pattern only if it
holds a `*` or a `?`, and escaping leaves that as it is: so the tildes of a text that holds neither
are doubled by escaping and never read back.
-/

namespace SheetFormulas.Wildcard

/-- A character as a pattern writes it to mean just this character. -/
def escapeChar (c : Char) : List Char := if c = '~' ∨ c = '*' ∨ c = '?' then ['~', c] else [c]

/-- A text with a tilde in front of every tilde and every wildcard. -/
def escape (text : List Char) : List Char := text.flatMap escapeChar

def escaped (s : String) : String := String.ofList (escape s.toList)

/-- The text that a lookup of an escaped text is about: the text before it was escaped, unless its
only special characters are tildes. -/
def literal (s : String) : String :=
  if hasWildcards (.text s) || !s.toList.contains '~' then s else escaped s

theorem escape_cons (c : Char) (text : List Char) :
    escape (c :: text) = escapeChar c ++ escape text := rfl

theorem toList_escaped (s : String) : (escaped s).toList = escape s.toList := String.toList_ofList

/-- An escaped character at the front of a pattern takes a character that agrees with it. -/
theorem fits_escapeChar_append_iff {c : Char} {pattern text : List Char} :
    Fits (escapeChar c ++ pattern) text ↔
      ∃ d rest, text = d :: rest ∧ Text.agreeCaseless c d = true ∧ Fits pattern rest := by
  unfold escapeChar
  split
  · constructor
    · intro h
      cases h with
      | escaped hagree h => exact ⟨_, _, rfl, hagree, h⟩
      | literal _ _ hne => exact absurd rfl hne
    · rintro ⟨d, rest, rfl, hagree, h⟩
      exact .escaped hagree h
  · next hplain =>
    obtain ⟨htilde, hrun, hchar⟩ : c ≠ '~' ∧ c ≠ '*' ∧ c ≠ '?' := by simpa [not_or] using hplain
    constructor
    · intro h
      cases h with
      | literal _ _ _ hagree h => exact ⟨_, _, rfl, hagree, h⟩
      | anyRun => exact absurd rfl hrun
      | anyChar => exact absurd rfl hchar
      | escaped => exact absurd rfl htilde
      | lastTilde => exact absurd rfl htilde
    · rintro ⟨d, rest, rfl, hagree, h⟩
      exact .literal hrun hchar htilde hagree h

/-- An escaped text stands for the texts that agree with it character by character. -/
theorem fits_escape_iff {s text : List Char} :
    Fits (escape s) text ↔ List.Forall₂ (fun c d => Text.agreeCaseless c d = true) s text := by
  induction s generalizing text with
  | nil =>
    rw [List.forall₂_nil_left_iff]
    constructor
    · rintro ⟨⟩
      rfl
    · rintro rfl
      exact .nil
  | cons c s ih =>
    rw [escape_cons, fits_escapeChar_append_iff, List.forall₂_cons_left_iff]
    simp only [ih]
    constructor
    · rintro ⟨d, rest, rfl, hagree, h⟩
      exact ⟨d, rest, hagree, h, rfl⟩
    · rintro ⟨d, rest, hagree, h, rfl⟩
      exact ⟨d, rest, rfl, hagree, h⟩

theorem mem_escape_iff {c : Char} (h : c ≠ '~') (text : List Char) : c ∈ escape text ↔ c ∈ text := by
  have hchar (d : Char) : c ∈ escapeChar d ↔ c = d := by
    unfold escapeChar
    split <;> simp [h]
  simp [escape, hchar]

/-- Escaping neither adds a wildcard nor removes one. -/
theorem hasWildcards_escaped (s : String) :
    hasWildcards (.text (escaped s)) = hasWildcards (.text s) := by
  simp only [hasWildcards, toList_escaped, List.contains_eq_mem,
    mem_escape_iff (show '*' ≠ '~' by decide), mem_escape_iff (show '?' ≠ '~' by decide)]

theorem literal_of_hasWildcards {s : String} (h : hasWildcards (.text s) = true) : literal s = s := by
  rw [literal, h, Bool.true_or, if_pos rfl]

/-- A text without special characters is left as it is. -/
theorem escaped_eq_self {s : String} (hw : hasWildcards (.text s) = false) (ht : '~' ∉ s.toList) :
    escaped s = s := by
  simp only [hasWildcards, List.contains_eq_mem, Bool.or_eq_false_iff, decide_eq_false_iff_not] at hw
  have hplain : ∀ c ∈ s.toList, escapeChar c = [c] := by
    intro c hc
    have hspecial : ¬ (c = '~' ∨ c = '*' ∨ c = '?') := by
      rintro (rfl | rfl | rfl)
      · exact ht hc
      · exact hw.1 hc
      · exact hw.2 hc
    rw [escapeChar, if_neg hspecial]
  have hself : escape s.toList = s.toList := by
    rw [escape, List.flatMap_congr hplain, List.flatMap_singleton']
  rw [escaped, hself, String.ofList_toList]

/-- Without a wildcard, an escaped text is looked up as it is written. -/
theorem literal_of_not_hasWildcards {s : String} (h : hasWildcards (.text s) = false) :
    literal s = escaped s := by
  unfold literal
  rw [h, Bool.false_or]
  split
  · next ht => exact (escaped_eq_self h (by simpa using ht)).symm
  · rfl

/-- Whether a text has the same letters as `s` in front of a line end at its end. -/
def EqualBeforeLineEnd (s text : String) : Prop :=
  ∃ front, text.toList = front ++ ['\n'] ∧ Text.lower front = Text.lower s.toList

/-- As a pattern, an escaped text of Basic Latin matches the texts with the same letters, and the
same with a line end behind them. -/
theorem matchesText_escaped {s text : String} (hs : Text.IsBasicLatin s.toList)
    (ht : Text.IsBasicLatin text.toList) (hend : ¬ EqualBeforeLineEnd s text) :
    matchesText (escaped s) text = decide (Text.lower text.toList = Text.lower s.toList) := by
  have hfits {part : List Char} (hpart : Text.IsBasicLatin part) :
      matchesAll (parse (escape s.toList)) part = true ↔ Text.lower part = Text.lower s.toList := by
    rw [matchesAll_iff, matches_parse_iff, fits_escape_iff, Text.forall₂_agreeCaseless_iff hs hpart]
    exact eq_comm
  have hcut : ¬ (text.toList.getLast? = some '\n' ∧
      matchesAll (parse (escape s.toList)) text.toList.dropLast = true) := by
    rintro ⟨hlast, hmatches⟩
    obtain ⟨front, hfront⟩ := List.getLast?_eq_some_iff.mp hlast
    rw [hfront, List.dropLast_concat, hfits fun c hc => ht c (by simp [hfront, hc])] at hmatches
    exact hend ⟨front, hfront, hmatches⟩
  rw [Bool.eq_iff_iff, decide_eq_true_iff, ← hfits ht]
  simp only [matchesText, toList_escaped, Bool.or_eq_true, Bool.and_eq_true, beq_iff_eq]
  exact or_iff_left hcut

end SheetFormulas.Wildcard
