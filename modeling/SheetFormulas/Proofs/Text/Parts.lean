import Mathlib.Data.List.Forall2
import SheetFormulas.Proofs.Text.Pieces

/-!
Texts cut at every place of a separator. Blanks around a text end up around its first and its last
part, so that they make no difference where the parts are trimmed.
-/

namespace SheetFormulas.Text

variable {separator c : Char} {text : List Char} {parts : List (List Char)}

theorem splitAll_eq_splitOn (separator : Char) (text : List Char) :
    splitAll separator text = text.splitOn separator := by
  induction text with
  | nil => rfl
  | cons c rest ih =>
    rw [List.splitOn_cons_eq_if_modifyHead, splitAll, ih]
    by_cases hc : c = separator
    · rw [if_pos hc, if_pos (beq_iff_eq.mpr hc)]
    · rw [if_neg hc, if_neg (mt beq_iff_eq.mp hc)]
      cases hsplit : rest.splitOn separator with
      | nil => exact absurd hsplit (List.splitOn_ne_nil _ _)
      | cons first others => rfl

theorem splitAll_ne_nil (separator : Char) (text : List Char) : splitAll separator text ≠ [] := by
  rw [splitAll_eq_splitOn]
  exact List.splitOn_ne_nil _ _

theorem splitAll_cons_of_ne (h : c ≠ separator) (rest : List Char) :
    splitAll separator (c :: rest) = (splitAll separator rest).modifyHead (c :: ·) := by
  simp only [splitAll_eq_splitOn, List.splitOn_cons_eq_if_modifyHead]
  rw [if_neg (mt beq_iff_eq.mp h)]

theorem splitAll_eq_singleton (h : separator ∉ text) : splitAll separator text = [text] := by
  rw [splitAll_eq_splitOn, List.splitOn_eq_singleton h]

theorem intercalate_splitAll (separator : Char) (text : List Char) :
    [separator].intercalate (splitAll separator text) = text := by
  rw [splitAll_eq_splitOn, List.intercalate_splitOn]

theorem splitAll_intercalate (hfree : ∀ part ∈ parts, separator ∉ part) (hne : parts ≠ []) :
    splitAll separator ([separator].intercalate parts) = parts := by
  rw [splitAll_eq_splitOn, List.splitOn_intercalate separator hfree hne]

theorem not_mem_of_mem_splitAll {part : List Char} (h : part ∈ splitAll separator text) :
    separator ∉ part := by
  induction text generalizing part with
  | nil =>
    obtain rfl := List.mem_singleton.mp h
    exact List.not_mem_nil
  | cons c rest ih =>
    by_cases hc : c = separator
    · rw [splitAll, if_pos hc, List.mem_cons] at h
      rcases h with rfl | h
      · exact List.not_mem_nil
      · exact ih h
    · rw [splitAll_cons_of_ne hc] at h
      cases hsplit : splitAll separator rest with
      | nil => exact absurd hsplit (splitAll_ne_nil _ _)
      | cons first others =>
        rw [hsplit] at h ih
        rcases List.mem_cons.mp h with rfl | h
        · rw [List.mem_cons, not_or]
          exact ⟨Ne.symm hc, ih List.mem_cons_self⟩
        · exact ih (List.mem_cons_of_mem _ h)

/-- A character of a joined text is the separator or stands in a part. -/
theorem mem_intercalate {d : Char} (h : d ∈ [separator].intercalate parts) :
    d = separator ∨ ∃ part ∈ parts, d ∈ part := by
  induction parts with
  | nil => cases h
  | cons first rest ih =>
    cases rest with
    | nil => exact .inr ⟨first, List.mem_cons_self, by simpa using h⟩
    | cons second rest =>
      rw [List.intercalate_cons_cons, List.mem_append, List.mem_append, List.mem_singleton] at h
      rcases h with (h | h) | h
      · exact .inr ⟨first, List.mem_cons_self, h⟩
      · exact .inl h
      · exact (ih h).imp_right fun ⟨part, hpart, hd⟩ => ⟨part, List.mem_cons_of_mem _ hpart, hd⟩

theorem length_le_length_intercalate (separator : Char) {part : List Char} (h : part ∈ parts) :
    part.length ≤ ([separator].intercalate parts).length := by
  induction parts with
  | nil => cases h
  | cons first rest ih =>
    cases rest with
    | nil =>
      obtain rfl := List.mem_singleton.mp h
      simp
    | cons second rest =>
      rw [List.intercalate_cons_cons, List.length_append, List.length_append]
      rcases List.mem_cons.mp h with rfl | h
      · omega
      · have := ih h
        omega

/-! Parts between blanks. -/

theorem IsBlanks.not_mem {d : Char} (h : IsBlanks text) (hd : isBlank d = false) : d ∉ text := by
  intro hmem
  rw [h d hmem] at hd
  cases hd

theorem trimLeft_append_cons (hc : isBlank c = false) (s t : List Char) :
    trimLeft (s ++ c :: t) = trimLeft s ++ c :: t := by
  have hcons : (c :: t).dropWhile isBlank = c :: t :=
    List.dropWhile_cons_of_neg (Bool.eq_false_iff.mp hc)
  unfold trimLeft
  rw [List.dropWhile_append, hcons]
  split
  · next hempty => rw [List.isEmpty_iff.mp hempty, List.nil_append]
  · rfl

theorem trimRight_append_cons (hc : isBlank c = false) (s t : List Char) :
    trimRight (s ++ c :: t) = s ++ c :: trimRight t := by
  have h := trimLeft_append_cons hc t.reverse s.reverse
  unfold trimLeft at h
  rw [trimRight, List.reverse_append, List.reverse_cons, List.append_assoc, List.singleton_append, h,
    List.reverse_append, List.reverse_cons, List.reverse_reverse, List.append_assoc,
    List.singleton_append, trimRight]

theorem trim_append_left {before : List Char} (h : IsBlanks before) (text : List Char) :
    trim (before ++ text) = trim text := by
  rw [trim, trimLeft, List.dropWhile_append_of_pos h, ← trimLeft, ← trim]

theorem trim_append_right {after : List Char} (h : IsBlanks after) (text : List Char) :
    trim (text ++ after) = trim text := by
  have hleft : trimLeft (text ++ after) =
      if (trimLeft text).isEmpty then trimLeft after else trimLeft text ++ after :=
    List.dropWhile_append
  have hafter : trimLeft after = [] := List.dropWhile_eq_nil_iff.mpr h
  unfold trim
  rw [hleft]
  split
  · next hempty => rw [hafter, List.isEmpty_iff.mp hempty]
  · rw [trimRight, List.reverse_append,
      List.dropWhile_append_of_pos fun c hc => h c (List.mem_reverse.mp hc), ← trimRight]

theorem splitAll_append_left (hs : isBlank separator = false) {before : List Char}
    (h : IsBlanks before) (text : List Char) :
    splitAll separator (before ++ text) = (splitAll separator text).modifyHead (before ++ ·) := by
  induction before with
  | nil => exact (congrFun List.modifyHead_id _).symm
  | cons c before ih =>
    have hc : c ≠ separator := fun heq => h.not_mem hs (heq ▸ List.mem_cons_self)
    rw [List.cons_append, splitAll_cons_of_ne hc, ih fun d hd => h d (List.mem_cons_of_mem _ hd),
      List.modifyHead_modifyHead]
    rfl

/-- Whether parts are those of another text, with blanks behind some of them. -/
def BlanksBehind (parts others : List (List Char)) : Prop :=
  List.Forall₂ (fun part other => ∃ blanks, IsBlanks blanks ∧ part = other ++ blanks) parts others

theorem blanksBehind_splitAll_append (hs : isBlank separator = false) {after : List Char}
    (h : IsBlanks after) (text : List Char) :
    BlanksBehind (splitAll separator (text ++ after)) (splitAll separator text) := by
  induction text with
  | nil =>
    rw [List.nil_append, splitAll_eq_singleton (h.not_mem hs)]
    exact .cons ⟨after, h, rfl⟩ .nil
  | cons c rest ih =>
    by_cases hc : c = separator
    · rw [List.cons_append, splitAll, splitAll, if_pos hc, if_pos hc]
      exact .cons ⟨[], isBlanks_nil, rfl⟩ ih
    · rw [List.cons_append, splitAll_cons_of_ne hc, splitAll_cons_of_ne hc]
      generalize splitAll separator (rest ++ after) = parts at ih ⊢
      generalize splitAll separator rest = others at ih ⊢
      cases ih with
      | nil => exact .nil
      | cons hfirst hrest =>
        obtain ⟨blanks, hb, rfl⟩ := hfirst
        exact .cons ⟨blanks, hb, rfl⟩ hrest

theorem BlanksBehind.map_trim_eq {others : List (List Char)} (h : BlanksBehind parts others) :
    parts.map trim = others.map trim := by
  induction h with
  | nil => rfl
  | cons hfirst _ ih =>
    obtain ⟨blanks, hblanks, rfl⟩ := hfirst
    rw [List.map_cons, List.map_cons, trim_append_right hblanks, ih]

/-- Blanks around a text make no difference to its trimmed parts. -/
theorem map_trim_splitAll_append (hs : isBlank separator = false) {before after : List Char}
    (hb : IsBlanks before) (ha : IsBlanks after) (text : List Char) :
    (splitAll separator (before ++ text ++ after)).map trim = (splitAll separator text).map trim := by
  rw [(blanksBehind_splitAll_append hs ha (before ++ text)).map_trim_eq, splitAll_append_left hs hb]
  cases splitAll separator text with
  | nil => rfl
  | cons first rest =>
    rw [List.modifyHead_cons, List.map_cons, List.map_cons, trim_append_left hb]

theorem map_trim_splitAll_trim (hs : isBlank separator = false) (text : List Char) :
    (splitAll separator (trim text)).map trim = (splitAll separator text).map trim := by
  obtain ⟨before, after, hb, ha, htext⟩ := exists_trim text
  conv_rhs => rw [htext]
  exact (map_trim_splitAll_append hs hb ha (trim text)).symm

theorem map_trim_splitAll_trimRight (hs : isBlank separator = false) (text : List Char) :
    (splitAll separator (trimRight text)).map trim = (splitAll separator text).map trim := by
  obtain ⟨after, ha, htext⟩ := exists_trimRight text
  conv_rhs => rw [htext]
  exact (map_trim_splitAll_append hs isBlanks_nil ha (trimRight text)).symm

end SheetFormulas.Text
