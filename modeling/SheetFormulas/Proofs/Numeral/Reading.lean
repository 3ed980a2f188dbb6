import SheetFormulas.Proofs.Numeral.Frame
import SheetFormulas.Proofs.Numeral.Grammar

/-!
Reading numbers with a point and commas. A text is read if it is an unsigned numeral in a frame, its
value negated as the frame says; every other text has a flaw. Where groups are checked, the texts
that are read are those of the grammar and those with commas in the exponent.
-/

namespace SheetFormulas.Numeral

open Text

theorem Separated.ne_nil {strict : Bool} {p : Plain} {core : List Char} (h : Separated strict p core) :
    core ≠ [] := by
  rintro rfl
  obtain ⟨c, hc, -⟩ := h.plain.head?_eq
  cases hc

theorem Separated.of_mem {strict : Bool} {p : Plain} {core : List Char} (h : Separated strict p core) :
    ∀ c ∈ core, isDigit c = true ∨ c ∈ [',', '.', 'e', 'E', '+', '-'] := by
  intro c hc
  by_cases hcomma : c = ','
  · exact .inr (hcomma ▸ List.mem_cons_self)
  · have hkept : c ∈ withoutCommas core := List.mem_filter.mpr ⟨hc, by simpa using hcomma⟩
    exact (h.plain.of_mem c hkept).imp_right (List.mem_cons_of_mem _)

theorem Separated.head?_eq {strict : Bool} {p : Plain} {core : List Char}
    (h : Separated strict p core) : ∀ c ∈ core.head?, isDigit c = true ∨ c ∈ [',', '.'] := by
  intro c hc
  obtain ⟨rest, rfl⟩ := List.head?_eq_some_iff.mp hc
  by_cases hcomma : c = ','
  · exact .inr (hcomma ▸ List.mem_cons_self)
  · obtain ⟨d, hd, hfirst⟩ := h.plain.head?_eq
    rw [withoutCommas, List.filter_cons_of_pos (by simpa using hcomma)] at hd
    cases hd
    simpa using hfirst.imp_right .inr

/-- Nothing can be peeled off a numeral. -/
theorem Separated.solid {strict : Bool} {p : Plain} {core : List Char} (h : Separated strict p core) :
    Solid core := by
  refine ⟨h.ne_nil, fun c hc => ?_, fun c hc => ?_⟩
  · rcases h.head?_eq c hc with hd | hd
    · exact ⟨isBlank_of_isDigit hd, ne_of_isDigit hd (by decide), ne_of_isDigit hd (by decide),
        ne_of_isDigit hd (by decide), ne_of_isDigit hd (by decide)⟩
    · rcases List.mem_pair.mp hd with rfl | rfl <;> decide
  · rcases h.of_mem c (List.mem_of_mem_getLast? hc) with hd | hd
    · have hpercent : (c == '%') = false := beq_eq_false_iff_ne.mpr (ne_of_isDigit hd (by decide))
      rw [isPercentOrBlank, isBlank_of_isDigit hd, hpercent, Bool.or_false]
    · have hmarks : [',', '.', 'e', 'E', '+', '-'].all (!isPercentOrBlank ·) = true := by decide
      simpa using List.all_eq_true.mp hmarks c hd

/-- A numeral in a frame. -/
inductive Written (strict : Bool) : Bool → Nat → Plain → List Char → Prop
  | intro {negative : Bool} {percents : Nat} {core text : List Char} {p : Plain}
      (hf : Framed negative percents core (visible strict text)) (hs : Separated strict p core) :
      Written strict negative percents p text

theorem map_eq_ok_iff {x : Except Flaw Number} {f : Number → Number} {n : Number} :
    x.map f = .ok n ↔ ∃ m, x = .ok m ∧ f m = n := by
  cases x <;> simp [Except.map]

theorem map_eq_error_iff {x : Except Flaw Number} {f : Number → Number} {flaw : Flaw} :
    x.map f = .error flaw ↔ x = .error flaw := by
  cases x <;> simp [Except.map]

section

variable {strict : Bool} {text : List Char}

/-- A numeral in a frame is read as its number. -/
theorem read_of_written {negative : Bool} {percents : Nat} {p : Plain}
    (h : Written strict negative percents p text) :
    read (.pointed strict) text = (p.number percents).map (signed negative) := by
  cases h with
  | intro hf hs =>
    obtain ⟨hne, hpeel⟩ := (framed_iff hs.solid).mp hf
    have hread := read_eq_peel (.pointed strict) text
    rwa [show (Convention.pointed strict).strict = strict from rfl, if_neg hne, hpeel,
      unsignedNumber_of_separated hs] at hread

/-- A text without a numeral in a frame has a flaw, and never one of too many percent signs. -/
theorem exists_flaw_of_not_written
    (h : ∀ negative percents p, ¬ Written strict negative percents p text) :
    ∃ flaw, read (.pointed strict) text = .error flaw ∧ flaw ≠ .tooManyPercents := by
  have hread := read_eq_peel (.pointed strict) text
  rw [show (Convention.pointed strict).strict = strict from rfl] at hread
  by_cases hempty : trim (visible strict text) = []
  · rw [if_pos hempty] at hread
    exact ⟨.empty, hread, by decide⟩
  · -- the core that peeling leaves is framed, so it cannot be a numeral
    have hf := framed_peel (visible strict text)
    obtain ⟨flaw, hflaw, hne⟩ := exists_flaw_of_not_separated
      (fun p hs => h _ _ p (.intro hf hs)) (peel (trim (visible strict text))).2.1
    rw [if_neg hempty, hflaw] at hread
    exact ⟨flaw, hread, hne⟩

theorem Written.percents_le {negative : Bool} {percents : Nat} {p : Plain}
    (h : Written strict negative percents p text) : percents ≤ text.count '%' := by
  cases h with
  | intro hf hs => exact hf.percents_le.trans (count_visible_le strict text '%')

/-- Texts with a character that belongs to no numeral are none. -/
theorem not_written_of_mem {c : Char} (h : c ∈ text) (hdigit : isDigit c = false)
    (hblank : isBlank c = false)
    (hmark : c ∉ ['(', ')', '%', '$', '+', '-', ',', '.', 'e', 'E', '+', '-']) {negative : Bool}
    {percents : Nat} {p : Plain} : ¬ Written strict negative percents p text := by
  rintro ⟨hf, hs⟩
  have hvisible : c ∈ visible strict text := by
    cases strict
    · exact List.mem_filter.mpr ⟨h, by rw [hblank, Bool.not_false]⟩
    · exact h
  rcases hf.of_mem c hvisible with hcore | hb | hm
  · rcases hs.of_mem c hcore with hd | hm
    · exact ne_of_isDigit hd hdigit rfl
    · exact hmark (List.mem_append_right ['(', ')', '%', '$', '+', '-'] hm)
  · rw [hblank] at hb
    cases hb
  · exact hmark (List.mem_append_left [',', '.', 'e', 'E', '+', '-'] hm)

/-- Texts with a slash are no numerals. -/
theorem not_written_of_slash (h : '/' ∈ text) {negative : Bool} {percents : Nat} {p : Plain} :
    ¬ Written true negative percents p text :=
  not_written_of_mem h (by decide) (by decide) (by decide)

/-- A text is read if and only if it is a numeral in a frame, not too long and without too many
percent signs. -/
theorem read_eq_ok_iff {n : Number} :
    read (.pointed strict) text = .ok n ↔
      ∃ negative percents p, Written strict negative percents p text ∧
        p.isTooLong percents = false ∧ percents ≤ 154 ∧ n = signed negative (p.unsigned percents) := by
  constructor
  · intro h
    by_contra hnot
    have hw : ∀ negative percents p, ¬ Written strict negative percents p text := by
      intro negative percents p hw
      rw [read_of_written hw, map_eq_ok_iff] at h
      obtain ⟨m, hm, hn⟩ := h
      obtain ⟨hlong, hle, hm⟩ := Plain.number_eq_ok_iff.mp hm
      exact hnot ⟨negative, percents, p, hw, hlong, hle, hm ▸ hn.symm⟩
    obtain ⟨flaw, hflaw, -⟩ := exists_flaw_of_not_written hw
    rw [h] at hflaw
    cases hflaw
  · rintro ⟨negative, percents, p, hw, hlong, hle, hn⟩
    rw [read_of_written hw, map_eq_ok_iff]
    exact ⟨_, Plain.number_eq_ok_iff.mpr ⟨hlong, hle, rfl⟩, hn.symm⟩

/-- Only numerals in a frame have too many percent signs. -/
theorem read_eq_tooManyPercents_iff :
    read (.pointed strict) text = .error .tooManyPercents ↔
      ∃ negative percents p, Written strict negative percents p text ∧ 154 < percents := by
  constructor
  · intro h
    by_contra hnot
    have hw : ∀ negative percents p, ¬ Written strict negative percents p text := by
      intro negative percents p hw
      rw [read_of_written hw, map_eq_error_iff, Plain.number_eq_tooManyPercents_iff] at h
      exact hnot ⟨negative, percents, p, hw, h⟩
    obtain ⟨flaw, hflaw, hne⟩ := exists_flaw_of_not_written hw
    rw [h] at hflaw
    cases hflaw
    exact hne rfl
  · rintro ⟨negative, percents, p, hw, hlt⟩
    rw [read_of_written hw, map_eq_error_iff]
    exact Plain.number_eq_tooManyPercents_iff.mpr hlt

end

theorem written_cell_iff {negative : Bool} {percents : Nat} {p : Plain} {text : List Char} :
    Written true negative percents p text ↔
      ∃ core, Framed negative percents core text ∧ (Unsigned p core ∨ Strayed p core) := by
  constructor
  · rintro ⟨hf, hs⟩
    exact ⟨_, hf, separated_iff.mp hs⟩
  · rintro ⟨core, hf, hs⟩
    exact .intro hf (separated_iff.mpr hs)

/-- A text with at most 154 percent signs is read if and only if it is, in a frame, a numeral of the
grammar or one with commas in its exponent, and no exact whole number that is too long. The value is
exact or the nearest double, divided by the power of one hundred, with the sign of the frame. With
commas in the exponent a text is outside the grammar. A text that is not read has a flaw, and never
one of too many percent signs. -/
theorem read_cell_iff {text : List Char} (h : text.count '%' ≤ 154) :
    (∀ n, read .cell text = .ok n ↔
      ∃ negative percents core p, Framed negative percents core text ∧
        (Unsigned p core ∨ Strayed p core) ∧ p.isTooLong percents = false ∧
        n = signed negative (p.unsigned percents)) ∧
    (∀ negative percents core p, Framed negative percents core text → Strayed p core →
      ∀ negative' percents' core' q, Framed negative' percents' core' text → ¬ Unsigned q core') ∧
    ∀ flaw, read .cell text = .error flaw → flaw ≠ .tooManyPercents := by
  have hcell : Convention.cell = .pointed true := rfl
  rw [hcell]
  refine ⟨fun n => ?_, ?_, ?_⟩
  · rw [read_eq_ok_iff]
    constructor
    · rintro ⟨negative, percents, p, hw, hlong, -, hn⟩
      obtain ⟨core, hf, hcore⟩ := written_cell_iff.mp hw
      exact ⟨negative, percents, core, p, hf, hcore, hlong, hn⟩
    · -- the percent signs of a frame stand in the text, so they are not too many
      rintro ⟨negative, percents, core, p, hf, hcore, hlong, hn⟩
      exact ⟨negative, percents, p, written_cell_iff.mpr ⟨core, hf, hcore⟩, hlong,
        hf.percents_le.trans h, hn⟩
  · intro negative percents core p hf hs negative' percents' core' q hf' hq
    obtain ⟨-, -, rfl⟩ := hf.unique hf' hs.separated.solid hq.separated.solid
    exact hs.not_unsigned hq
  · rintro flaw hflaw rfl
    obtain ⟨negative, percents, p, hw, hlt⟩ := read_eq_tooManyPercents_iff.mp hflaw
    have hle := hw.percents_le
    omega

/-- The commas in the exponent of `1,234e1,0` are taken out, although the text is no numeral of the
grammar. -/
theorem read_cell_comma_in_exponent :
    "1,234e1,0".toList.count '%' ≤ 154 ∧
      read .cell "1,234e1,0".toList = .ok (.float (Binary64.ofInt 12340000000000)) ∧
      ∀ negative percents core p, Framed negative percents core "1,234e1,0".toList →
        ¬ Unsigned p core := by
  have hcount : "1,234e1,0".toList.count '%' ≤ 154 := by decide
  have hgroups : Groups ['2', '3', '4'] [',', '2', '3', '4'] := .last (isDigits_iff_all.mp (by decide))
  have hlead : IsDigits ['1'] := isDigits_iff_all.mp (by decide)
  have hexponent : Exponent (some (false, ['1', '0'])) ('e' :: ([] ++ ['1', '0'])) :=
    .given (.inl rfl) .missing (by decide) (isDigits_iff_all.mp (by decide))
  have hcomma : ',' ∈ ['1', ',', '0'] := by decide
  have hstrayed : Strayed ⟨['1', '2', '3', '4'], false, [], some (false, ['1', '0'])⟩
      "1,234e1,0".toList :=
    .intro (.intro (by decide) (by decide) hlead hgroups) hcomma hexponent
  have hbody : Body false 0 "1,234e1,0".toList ([] ++ ([] ++ ("1,234e1,0".toList ++ []))) :=
    .intro .missing .missing .none
  have hframed : Framed false 0 "1,234e1,0".toList "1,234e1,0".toList :=
    .plain isBlanks_nil isBlanks_nil hbody
  obtain ⟨hread, houtside, -⟩ := read_cell_iff hcount
  exact ⟨hcount, (hread _).mpr ⟨false, 0, _, _, hframed, .inr hstrayed, by decide, rfl⟩,
    houtside false 0 _ _ hframed hstrayed⟩

end SheetFormulas.Numeral
