import SheetFormulas.Proofs.Numeral.Separators

/-!
The grammar of unsigned numerals with groups of three digits. Where groups are checked, a text is
read if it follows this grammar, or if it is a whole part in groups and an exponent with commas
behind the mark: the check of the groups ends at the mark, but all commas before the point are taken
out.
-/

namespace SheetFormulas.Numeral

open Text

/-- Groups of three digits, each after a comma, and their digits without the commas. -/
inductive Groups : List Char → List Char → Prop
  | last {a b c : Char} (h : IsDigits [a, b, c]) : Groups [a, b, c] [',', a, b, c]
  | more {a b c : Char} {digits text : List Char} (h : IsDigits [a, b, c]) (hg : Groups digits text) :
      Groups (a :: b :: c :: digits) (',' :: a :: b :: c :: text)

/-- One to three digits and groups after them, and all their digits. -/
inductive Grouped : List Char → List Char → Prop
  | intro {lead digits text : List Char} (hne : lead ≠ []) (hlen : lead.length ≤ 3)
      (hd : IsDigits lead) (hg : Groups digits text) : Grouped (lead ++ digits) (lead ++ text)

/-- The digits before the point, with or without groups. -/
inductive WholePart : List Char → List Char → Prop
  | digits {digits : List Char} (hne : digits ≠ []) (hd : IsDigits digits) : WholePart digits digits
  | grouped {digits text : List Char} (hg : Grouped digits text) : WholePart digits text

/-- An unsigned numeral. -/
inductive Unsigned : Plain → List Char → Prop
  | whole {digits text tail : List Char} {e : Option (Bool × List Char)} (hw : WholePart digits text)
      (he : Exponent e tail) : Unsigned ⟨digits, false, [], e⟩ (text ++ tail)
  | pointed {digits text fraction tail : List Char} {e : Option (Bool × List Char)}
      (hw : WholePart digits text) (hf : IsDigits fraction) (he : Exponent e tail) :
      Unsigned ⟨digits, true, fraction, e⟩ (text ++ '.' :: (fraction ++ tail))
  | fraction {fraction tail : List Char} {e : Option (Bool × List Char)} (hne : fraction ≠ [])
      (hf : IsDigits fraction) (he : Exponent e tail) :
      Unsigned ⟨[], true, fraction, e⟩ ('.' :: (fraction ++ tail))

/-- A whole part in groups and an exponent with commas in it. -/
inductive Strayed : Plain → List Char → Prop
  | intro {digits text tail : List Char} {mark : Char} {e : Option (Bool × List Char)}
      (hg : Grouped digits text) (hc : ',' ∈ tail) (he : Exponent e (mark :: withoutCommas tail)) :
      Strayed ⟨digits, false, [], e⟩ (text ++ mark :: tail)

theorem Groups.isDigits {digits text : List Char} (h : Groups digits text) : IsDigits digits := by
  induction h with
  | last h => exact h
  | more h _ ih => exact h.append ih

theorem Groups.withoutCommas_eq {digits text : List Char} (h : Groups digits text) :
    withoutCommas text = digits := by
  induction h with
  | last h => exact withoutCommas_eq_self (h.not_mem (by decide))
  | @more a b c digits text h _ ih =>
    have hclear : withoutCommas [a, b, c] = [a, b, c] := withoutCommas_eq_self (h.not_mem (by decide))
    calc withoutCommas (',' :: a :: b :: c :: text) = withoutCommas [a, b, c] ++ withoutCommas text :=
          withoutCommas_append [a, b, c] text
      _ = [a, b, c] ++ digits := by rw [hclear, ih]

theorem fillsGroups_comma_iff : ∀ text : List Char,
    fillsGroups [.char ',', .digit, .digit, .digit] [] text = true ↔
      text = [] ∨ ∃ digits, Groups digits text
  | [] => by simp [fillsGroups]
  | [_] | [_, _] | [_, _, _] => by
    simp only [fillsGroups, Bool.and_false, Bool.false_eq_true, List.cons_ne_nil, false_or, false_iff]
    rintro ⟨_, ⟨⟩⟩
  | comma :: a :: b :: c :: rest => by
    have hstep : fillsGroups [.char ',', .digit, .digit, .digit] [] (comma :: a :: b :: c :: rest) =
        (',' == comma && (isDigit a && (isDigit b && (isDigit c &&
          fillsGroups [.char ',', .digit, .digit, .digit] [] rest)))) := by
      simp only [fillsGroups, Place.admits]
    rw [hstep]
    simp only [Bool.and_eq_true, beq_iff_eq, fillsGroups_comma_iff rest, List.cons_ne_nil, false_or]
    constructor
    · rintro ⟨rfl, ha, hb, hc, h⟩
      have hd : IsDigits [a, b, c] := by simp [IsDigits, ha, hb, hc]
      rcases h with rfl | ⟨digits, hg⟩
      · exact ⟨_, .last hd⟩
      · exact ⟨_, .more hd hg⟩
    · rintro ⟨_, hg⟩
      cases hg with
      | last h => exact ⟨rfl, h a (by simp), h b (by simp), h c (by simp), .inl rfl⟩
      | more h hg => exact ⟨rfl, h a (by simp), h b (by simp), h c (by simp), .inr ⟨_, hg⟩⟩

theorem isGrouped_comma_iff {text : List Char} :
    isGrouped [','] text = true ↔ ∃ digits, Grouped digits text := by
  have hgroups : isGrouped [','] text = true ↔ ∃ count ∈ [1, 2, 3], count < text.length ∧
      IsDigits (text.take count) ∧
      fillsGroups [.char ',', .digit, .digit, .digit] [] (text.drop count) = true := by
    simp only [isGrouped, List.any_eq_true, Bool.and_eq_true, decide_eq_true_eq, isDigits_iff_all,
      and_assoc]
    rfl
  rw [hgroups]
  constructor
  · rintro ⟨count, hcount, hlt, hd, hfill⟩
    have hbounds : 1 ≤ count ∧ count ≤ 3 := by
      simp only [List.mem_cons, List.not_mem_nil, or_false] at hcount
      omega
    have hdrop : text.drop count ≠ [] := by simpa using hlt
    obtain ⟨digits, hg⟩ := ((fillsGroups_comma_iff _).mp hfill).resolve_left hdrop
    have hlen : (text.take count).length = count := List.length_take_of_le hlt.le
    have hne : text.take count ≠ [] := List.length_pos_iff.mp (hlen.symm ▸ hbounds.1)
    have hle : (text.take count).length ≤ 3 := hlen.symm ▸ hbounds.2
    have h := Grouped.intro hne hle hd hg
    rw [List.take_append_drop] at h
    exact ⟨_, h⟩
  · rintro ⟨_, ⟨hne, hlen, hd, hg⟩⟩
    rename_i lead digits groups
    refine ⟨lead.length, ?_, ?_, ?_, ?_⟩
    · have hpos := List.length_pos_iff.mpr hne
      simp only [List.mem_cons, List.not_mem_nil]
      omega
    · cases hg <;> simp
    · rwa [List.take_left]
    · rw [List.drop_left, fillsGroups_comma_iff]
      exact .inr ⟨digits, hg⟩

theorem Grouped.withoutCommas_eq {digits text : List Char} (h : Grouped digits text) :
    withoutCommas text = digits := by
  cases h with
  | intro hne hlen hd hg =>
    rw [withoutCommas_append, withoutCommas_eq_self (hd.not_mem (by decide)), hg.withoutCommas_eq]

theorem Grouped.isDigits {digits text : List Char} (h : Grouped digits text) : IsDigits digits := by
  cases h with
  | intro hne hlen hd hg => exact hd.append hg.isDigits

theorem Grouped.digits_ne_nil {digits text : List Char} (h : Grouped digits text) : digits ≠ [] := by
  cases h with
  | intro hne => simp [hne]

theorem Grouped.comma_mem {digits text : List Char} (h : Grouped digits text) : ',' ∈ text := by
  cases h with
  | intro hne hlen hd hg => cases hg <;> simp

/-- The text from the mark of an exponent on. -/
def fromMark (text : List Char) : List Char := text.dropWhile fun c => c != 'e' && c != 'E'

theorem ne_mark_of_not_mem {text : List Char} (he : 'e' ∉ text) (hE : 'E' ∉ text) :
    ∀ c ∈ text, (c != 'e' && c != 'E') = true := by
  intro c hc
  have hne : c ≠ 'e' := fun h => he (h ▸ hc)
  have hnE : c ≠ 'E' := fun h => hE (h ▸ hc)
  simp [hne, hnE]

theorem eq_mark_of_head {tail : List Char} (ht : ∀ c ∈ tail.head?, c = 'e' ∨ c = 'E') :
    ∀ c ∈ tail.head?, (c != 'e' && c != 'E') = false := by
  intro c hc
  rcases ht c hc with rfl | rfl <;> decide

/-- The mark of an exponent ends the text before it. -/
theorem fromMark_append {text tail : List Char} (he : 'e' ∉ text) (hE : 'E' ∉ text)
    (ht : ∀ c ∈ tail.head?, c = 'e' ∨ c = 'E') : fromMark (text ++ tail) = tail :=
  dropWhile_append_of_head (ne_mark_of_not_mem he hE) (eq_mark_of_head ht)

namespace WholePart

variable {digits text : List Char}

theorem withoutCommas_eq (h : WholePart digits text) : withoutCommas text = digits := by
  cases h with
  | digits hne hd => exact withoutCommas_eq_self (hd.not_mem (by decide))
  | grouped hg => exact hg.withoutCommas_eq

theorem isDigits (h : WholePart digits text) : IsDigits digits := by
  cases h with
  | digits hne hd => exact hd
  | grouped hg => exact hg.isDigits

theorem digits_ne_nil (h : WholePart digits text) : digits ≠ [] := by
  cases h with
  | digits hne hd => exact hne
  | grouped hg => exact hg.digits_ne_nil

theorem isGrouped (h : WholePart digits text) (hc : ',' ∈ text) : isGrouped [','] text = true := by
  cases h with
  | digits hne hd => exact absurd hc (hd.not_mem (by decide))
  | grouped hg => exact isGrouped_comma_iff.mpr ⟨_, hg⟩

/-- A whole part consists of digits and commas. -/
theorem of_mem (h : WholePart digits text) {c : Char} (hc : c ∈ text) : isDigit c = true ∨ c = ',' := by
  by_cases hcomma : c = ','
  · exact .inr hcomma
  · apply Or.inl
    apply h.isDigits
    rw [← h.withoutCommas_eq]
    exact List.mem_filter.mpr ⟨hc, by simpa using hcomma⟩

theorem not_mem (h : WholePart digits text) {d : Char} (hd : isDigit d = false) (hne : d ≠ ',') :
    d ∉ text := fun hmem =>
  (h.of_mem hmem).elim (fun hdigit => ne_of_isDigit hdigit hd rfl) hne

theorem beforeExponent_append (h : WholePart digits text) {tail : List Char}
    (ht : ∀ c ∈ tail.head?, c = 'e' ∨ c = 'E') : beforeExponent (text ++ tail) = text :=
  takeWhile_append_of_head (ne_mark_of_not_mem (h.not_mem (by decide) (by decide))
    (h.not_mem (by decide) (by decide))) (eq_mark_of_head ht)

theorem beforeExponent_eq (h : WholePart digits text) : beforeExponent text = text := by
  have happend := h.beforeExponent_append Exponent.missing.head?_eq
  rwa [List.append_nil] at happend

end WholePart

theorem beforePoint_eq_self {text : List Char} (h : '.' ∉ text) : beforePoint text = text := by
  have happend := beforePoint_append_fromPoint text
  rwa [fromPoint_eq_nil h, List.append_nil] at happend

/-- A whole part and an exponent behind it, which may have commas in it, are read. -/
theorem separated_whole {digits text tail : List Char} {e : Option (Bool × List Char)}
    (hw : WholePart digits text) (he : Exponent e (withoutCommas tail))
    (ht : ∀ c ∈ tail.head?, c = 'e' ∨ c = 'E') (hg : ',' ∈ tail → ',' ∈ text) :
    Separated true ⟨digits, false, [], e⟩ (text ++ tail) := by
  have hpoint : '.' ∉ text ++ tail := by
    rw [List.mem_append, not_or]
    refine ⟨hw.not_mem (by decide) (by decide), fun hmem => ?_⟩
    exact he.not_mem (by decide) (by decide) (List.mem_filter.mpr ⟨hmem, by decide⟩)
  refine ⟨?_, ?_, fun _ hc => ?_⟩
  · rw [withoutCommas_append, hw.withoutCommas_eq]
    exact .whole hw.digits_ne_nil hw.isDigits he
  · rw [fromPoint_eq_nil hpoint]
    exact List.not_mem_nil
  · rw [beforePoint_eq_self hpoint, hw.beforeExponent_append ht]
    exact hw.isGrouped ((List.mem_append.mp hc).elim id hg)

theorem Exponent.withoutCommas_eq {e : Option (Bool × List Char)} {text : List Char}
    (h : Exponent e text) : withoutCommas text = text :=
  withoutCommas_eq_self (h.not_mem (by decide) (by decide))

theorem beforePoint_append {before after : List Char} (h : '.' ∉ before) :
    beforePoint (before ++ '.' :: after) = before := by
  apply takeWhile_append_of_head
  · intro c hc
    simpa using fun he : c = '.' => h (he ▸ hc)
  · rintro c ⟨⟩
    decide

theorem fromPoint_append {before after : List Char} (h : '.' ∉ before) :
    fromPoint (before ++ '.' :: after) = '.' :: after := by
  apply dropWhile_append_of_head
  · intro c hc
    simpa using fun he : c = '.' => h (he ▸ hc)
  · rintro c ⟨⟩
    decide

theorem comma_not_mem_fraction {fraction tail : List Char} {e : Option (Bool × List Char)}
    (hf : IsDigits fraction) (he : Exponent e tail) : ',' ∉ '.' :: (fraction ++ tail) := by
  have hfraction := hf.not_mem (d := ',') (by decide)
  have htail := he.not_mem (d := ',') (by decide) (by decide)
  simp [hfraction, htail]

/-- Numerals of the grammar are read. -/
theorem Unsigned.separated {p : Plain} {text : List Char} (h : Unsigned p text) :
    Separated true p text := by
  cases h with
  | whole hw he =>
    refine separated_whole hw ?_ he.head?_eq fun hc => ?_
    · rwa [he.withoutCommas_eq]
    · exact absurd hc (he.not_mem (by decide) (by decide))
  | @pointed digits whole fraction tail _ hw hf he =>
    have hpoint : '.' ∉ whole := hw.not_mem (by decide) (by decide)
    have hcomma := comma_not_mem_fraction hf he
    refine ⟨?_, ?_, fun _ hc => ?_⟩
    · rw [withoutCommas_append, hw.withoutCommas_eq, withoutCommas_eq_self hcomma]
      exact .pointed hw.isDigits hf (.inl hw.digits_ne_nil) he
    · rwa [fromPoint_append hpoint]
    · rw [beforePoint_append hpoint, hw.beforeExponent_eq]
      exact hw.isGrouped ((List.mem_append.mp hc).resolve_right hcomma)
  | @fraction fraction tail _ hne hf he =>
    have hcomma := comma_not_mem_fraction hf he
    refine ⟨?_, ?_, fun _ hc => absurd hc hcomma⟩
    · rw [withoutCommas_eq_self hcomma]
      exact .pointed isDigits_nil hf (.inr hne) he
    · have hpoint : fromPoint ('.' :: (fraction ++ tail)) = '.' :: (fraction ++ tail) := rfl
      rwa [hpoint]

theorem Strayed.separated {p : Plain} {text : List Char} (h : Strayed p text) :
    Separated true p text := by
  cases h with
  | @intro digits whole tail mark _ hg hc he =>
    have hmark : mark = 'e' ∨ mark = 'E' := he.head?_eq mark rfl
    refine separated_whole (.grouped hg) ?_ ?_ fun _ => hg.comma_mem
    · rwa [show withoutCommas (mark :: tail) = mark :: withoutCommas tail by
        rcases hmark with rfl | rfl <;> rfl]
    · rintro c ⟨⟩
      exact hmark

/-- A plain numeral follows the grammar. -/
theorem PlainNumeral.unsigned {p : Plain} {text : List Char} (h : PlainNumeral p text) :
    Unsigned p text := by
  cases h with
  | whole hne hd he => exact .whole (.digits hne hd) he
  | @pointed digits fraction tail _ hd hf hne he =>
    by_cases hdigits : digits = []
    · subst hdigits
      exact .fraction (hne.resolve_left fun h => h rfl) hf he
    · exact .pointed (.digits hdigits hd) hf he

/-- What is read behind a whole part in groups. -/
theorem unsigned_or_strayed_of_grouped {p : Plain} {digits whole tail point : List Char}
    (hg : Grouped digits whole) (ht : ∀ c ∈ tail.head?, c = 'e' ∨ c = 'E')
    (hp : ∀ c ∈ point.head?, c = '.') (h : PlainNumeral p (digits ++ (withoutCommas tail ++ point))) :
    Unsigned p (whole ++ (tail ++ point)) ∨ Strayed p (whole ++ (tail ++ point)) := by
  -- without an exponent before the point, the rest is as in a plain numeral
  cases tail with
  | nil =>
    have hhead : ∀ c ∈ point.head?, isDigit c = false := by
      intro c hc
      rw [hp c hc]
      decide
    rcases h.append_cases hg.isDigits hhead with
      ⟨e, he, rfl⟩ | ⟨fraction, tail, e, rfl, hf, he, rfl⟩
    · exact .inl (.whole (.grouped hg) he)
    · exact .inl (.pointed (.grouped hg) hf he)
  | cons mark tail =>
    have hmark := ht mark rfl
    have hclear : withoutCommas (mark :: tail) = mark :: withoutCommas tail := by
      rcases hmark with rfl | rfl <;> rfl
    rw [hclear, List.cons_append] at h
    have hhead : ∀ c ∈ (mark :: (withoutCommas tail ++ point)).head?, isDigit c = false := by
      rintro c ⟨⟩
      rcases hmark with rfl | rfl <;> decide
    rcases h.append_cases hg.isDigits hhead with
      ⟨e, he, rfl⟩ | ⟨fraction, tail, e, hpoint, -⟩
    · -- an exponent has no point, so the text ends with it
      have hnil : point = [] := by
        cases point with
        | nil => rfl
        | cons c rest =>
          cases hp c rfl
          exact absurd (by simp) (he.not_mem (d := '.') (by decide) (by decide))
      subst hnil
      rw [List.append_nil] at he ⊢
      by_cases hc : ',' ∈ tail
      · exact .inr (.intro hg hc he)
      · rw [withoutCommas_eq_self hc] at he
        exact .inl (.whole (.grouped hg) he)
    · cases (List.cons.inj hpoint).1
      simp at hmark

/-- Where groups are checked, a text is read if it follows the grammar or has commas in its exponent
behind a whole part in groups. -/
theorem separated_iff {p : Plain} {text : List Char} :
    Separated true p text ↔ Unsigned p text ∨ Strayed p text := by
  constructor
  · intro h
    by_cases hc : ',' ∈ text
    · obtain ⟨digits, hg⟩ := isGrouped_comma_iff.mp (h.grouped rfl hc)
      have hplain := h.plain
      have hpoint : ∀ c ∈ (fromPoint text).head?, c = '.' := by
        intro c hmem
        simpa using head?_dropWhile (· != '.') text c hmem
      have hmark : ∀ c ∈ (fromMark (beforePoint text)).head?, c = 'e' ∨ c = 'E' := by
        intro c hmem
        have hnot := head?_dropWhile (fun c => c != 'e' && c != 'E') (beforePoint text) c hmem
        simpa [or_iff_not_imp_left] using hnot
      have hsplit : text =
          beforeExponent (beforePoint text) ++ (fromMark (beforePoint text) ++ fromPoint text) := by
        rw [← List.append_assoc, beforeExponent, fromMark, List.takeWhile_append_dropWhile,
          beforePoint_append_fromPoint]
      rw [hsplit, withoutCommas_append, withoutCommas_append, hg.withoutCommas_eq,
        withoutCommas_eq_self h.not_mem_fromPoint] at hplain
      rw [hsplit]
      exact unsigned_or_strayed_of_grouped hg hmark hpoint hplain
    · have hplain := h.plain
      rw [withoutCommas_eq_self hc] at hplain
      exact .inl hplain.unsigned
  · rintro (h | h)
    · exact h.separated
    · exact h.separated

/-! The two kinds of numerals are apart: no numeral of the grammar has a comma behind the mark. -/

theorem comma_not_mem_fromMark_pointed {before fraction tail : List Char}
    {e : Option (Bool × List Char)} (he : 'e' ∉ before) (hE : 'E' ∉ before) (hf : IsDigits fraction)
    (hexp : Exponent e tail) : ',' ∉ fromMark (before ++ '.' :: (fraction ++ tail)) := by
  have hfe := hf.not_mem (d := 'e') (by decide)
  have hfE := hf.not_mem (d := 'E') (by decide)
  rw [show before ++ '.' :: (fraction ++ tail) = (before ++ '.' :: fraction) ++ tail by simp,
    fromMark_append (by simp [he, hfe]) (by simp [hE, hfE]) hexp.head?_eq]
  exact hexp.not_mem (by decide) (by decide)

theorem Unsigned.comma_not_mem_fromMark {p : Plain} {text : List Char} (h : Unsigned p text) :
    ',' ∉ fromMark text := by
  cases h with
  | whole hw he =>
    rw [fromMark_append (hw.not_mem (by decide) (by decide)) (hw.not_mem (by decide) (by decide))
      he.head?_eq]
    exact he.not_mem (by decide) (by decide)
  | pointed hw hf he =>
    exact comma_not_mem_fromMark_pointed (hw.not_mem (by decide) (by decide))
      (hw.not_mem (by decide) (by decide)) hf he
  | fraction hne hf he =>
    exact comma_not_mem_fromMark_pointed List.not_mem_nil List.not_mem_nil hf he

theorem Strayed.comma_mem_fromMark {p : Plain} {text : List Char} (h : Strayed p text) :
    ',' ∈ fromMark text := by
  cases h with
  | @intro digits whole tail mark _ hg hc he =>
    have hw := WholePart.grouped hg
    have hmark : ∀ c ∈ (mark :: tail).head?, c = 'e' ∨ c = 'E' := by
      rintro c ⟨⟩
      exact he.head?_eq mark rfl
    rw [fromMark_append (hw.not_mem (by decide) (by decide)) (hw.not_mem (by decide) (by decide))
      hmark]
    exact List.mem_cons_of_mem _ hc

theorem Strayed.not_unsigned {p q : Plain} {text : List Char} (h : Strayed p text) :
    ¬ Unsigned q text := fun hq => hq.comma_not_mem_fromMark h.comma_mem_fromMark

end SheetFormulas.Numeral
