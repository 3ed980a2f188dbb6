import SheetFormulas.Numeral.Mantissa
import SheetFormulas.Proofs.Text.Pieces

/-!
The grammar of plain numerals: digits, a point, digits after it and an exponent. Reading a plain
numeral is by this grammar, and so its parts are unique.
-/

namespace SheetFormulas.Numeral

open Text

/-- A sign before the digits of an exponent, which may be missing; whether it is a minus sign. -/
inductive ExponentSign : Bool → List Char → Prop
  | missing : ExponentSign false []
  | plus : ExponentSign false ['+']
  | minus : ExponentSign true ['-']

/-- An exponent, which may be missing. -/
inductive Exponent : Option (Bool × List Char) → List Char → Prop
  | missing : Exponent none []
  | given {mark : Char} {negative : Bool} {sign digits : List Char} (hm : mark = 'e' ∨ mark = 'E')
      (hs : ExponentSign negative sign) (hne : digits ≠ []) (hd : IsDigits digits) :
      Exponent (some (negative, digits)) (mark :: (sign ++ digits))

/-- A plain numeral with its parts. -/
inductive PlainNumeral : Plain → List Char → Prop
  | whole {digits text : List Char} {e : Option (Bool × List Char)} (hne : digits ≠ [])
      (hd : IsDigits digits) (he : Exponent e text) :
      PlainNumeral ⟨digits, false, [], e⟩ (digits ++ text)
  | pointed {digits fraction text : List Char} {e : Option (Bool × List Char)} (hd : IsDigits digits)
      (hf : IsDigits fraction) (hne : digits ≠ [] ∨ fraction ≠ []) (he : Exponent e text) :
      PlainNumeral ⟨digits, true, fraction, e⟩ (digits ++ '.' :: (fraction ++ text))

theorem isDigits_iff_all {text : List Char} : text.all isDigit = true ↔ IsDigits text :=
  List.all_eq_true

theorem PlainNumeral.of_isDigits {digits : List Char} (hne : digits ≠ []) (hd : IsDigits digits) :
    PlainNumeral ⟨digits, false, [], none⟩ digits := by
  have h := PlainNumeral.whole hne hd .missing
  rwa [List.append_nil] at h

/-- A minus sign where one belongs, and the magnitude. -/
theorem ite_neg_natAbs (n : Int) :
    (if decide (n < 0) = true then -(n.natAbs : Int) else n.natAbs) = n := by
  split_ifs with h
  · rw [decide_eq_true_eq] at h
    omega
  · rw [decide_eq_true_eq] at h
    omega

/-- The first character of an exponent is its mark. -/
theorem Exponent.head?_eq {e : Option (Bool × List Char)} {text : List Char} (h : Exponent e text) :
    ∀ c ∈ text.head?, c = 'e' ∨ c = 'E' := by
  intro c hc
  cases h with
  | missing => cases hc
  | given hm =>
    cases hc
    exact hm

theorem Exponent.head?_not_digit {e : Option (Bool × List Char)} {text : List Char}
    (h : Exponent e text) : ∀ c ∈ text.head?, isDigit c = false := by
  intro c hc
  rcases h.head?_eq c hc with rfl | rfl <;> decide

theorem Exponent.of_mem {e : Option (Bool × List Char)} {text : List Char} (h : Exponent e text) :
    ∀ c ∈ text, isDigit c = true ∨ c ∈ ['e', 'E', '+', '-'] := by
  intro c hc
  cases h with
  | missing => cases hc
  | given hm hs hne hd =>
    rcases List.mem_cons.mp hc with rfl | hc
    · rcases hm with rfl | rfl <;> simp
    · rcases List.mem_append.mp hc with hc | hc
      · cases hs <;> simp_all
      · exact .inl (hd c hc)

theorem PlainNumeral.of_mem {p : Plain} {text : List Char} (h : PlainNumeral p text) :
    ∀ c ∈ text, isDigit c = true ∨ c ∈ ['.', 'e', 'E', '+', '-'] := by
  intro c hc
  cases h with
  | whole hne hd he =>
    rcases List.mem_append.mp hc with hc | hc
    · exact .inl (hd c hc)
    · exact (he.of_mem c hc).imp_right (List.mem_cons_of_mem _)
  | pointed hd hf hne he =>
    rcases List.mem_append.mp hc with hc | hc
    · exact .inl (hd c hc)
    · rcases List.mem_cons.mp hc with rfl | hc
      · exact .inr List.mem_cons_self
      · rcases List.mem_append.mp hc with hc | hc
        · exact .inl (hf c hc)
        · exact (he.of_mem c hc).imp_right (List.mem_cons_of_mem _)

/-- A plain numeral starts with a digit or with its point. -/
theorem PlainNumeral.head?_eq {p : Plain} {text : List Char} (h : PlainNumeral p text) :
    ∃ c, text.head? = some c ∧ (isDigit c = true ∨ c = '.') := by
  cases h with
  | @whole digits _ _ hne hd =>
    obtain ⟨c, rest, rfl⟩ := List.exists_cons_of_ne_nil hne
    exact ⟨c, rfl, .inl (hd c List.mem_cons_self)⟩
  | @pointed digits _ _ _ hd =>
    cases digits with
    | nil => exact ⟨'.', rfl, .inr rfl⟩
    | cons c rest => exact ⟨c, rfl, .inl (hd c List.mem_cons_self)⟩

theorem Exponent.not_mem {e : Option (Bool × List Char)} {text : List Char} {d : Char}
    (h : Exponent e text) (hd : isDigit d = false) (hm : d ∉ ['e', 'E', '+', '-']) : d ∉ text := by
  intro hmem
  rcases h.of_mem d hmem with hdigit | hmark
  · exact ne_of_isDigit hdigit hd rfl
  · exact hm hmark

/-- The point of a plain numeral is the only one. -/
theorem PlainNumeral.point_eq {p : Plain} {text : List Char} (h : PlainNumeral p text) :
    p.point = decide ('.' ∈ text) := by
  cases h with
  | whole hne hd he =>
    have hdigits := hd.not_mem (d := '.') (by decide)
    have hexponent := he.not_mem (d := '.') (by decide) (by decide)
    simp [hdigits, hexponent]
  | pointed => simp

/-- Takes the sign off the digits of an exponent. -/
def takeExponentSign : List Char → Bool × List Char
  | '-' :: more => (true, more)
  | '+' :: more => (false, more)
  | more => (false, more)

theorem takeExponentSign_spec (text : List Char) :
    ∃ sign, ExponentSign (takeExponentSign text).1 sign ∧
      text = sign ++ (takeExponentSign text).2 := by
  unfold takeExponentSign
  split
  · exact ⟨_, .minus, rfl⟩
  · exact ⟨_, .plus, rfl⟩
  · exact ⟨_, .missing, rfl⟩

theorem takeExponentSign_append {negative : Bool} {sign digits : List Char}
    (hs : ExponentSign negative sign) (hd : IsDigits digits) :
    takeExponentSign (sign ++ digits) = (negative, digits) := by
  cases hs with
  | plus => rfl
  | minus => rfl
  | missing =>
    cases digits with
    | nil => rfl
    | cons d rest =>
      have hdigit := hd d List.mem_cons_self
      have hminus : d ≠ '-' := ne_of_isDigit hdigit (by decide)
      have hplus : d ≠ '+' := ne_of_isDigit hdigit (by decide)
      simp [takeExponentSign, hminus, hplus]

theorem readExponent_cons (mark : Char) (rest : List Char) :
    readExponent (mark :: rest) =
      if mark = 'e' ∨ mark = 'E' then
        if !(takeExponentSign rest).2.isEmpty && (takeExponentSign rest).2.all isDigit then
          some (some (takeExponentSign rest))
        else none
      else none := by
  rfl

/-- Reading an exponent is by the grammar. -/
theorem readExponent_eq_some_iff {text : List Char} {e : Option (Bool × List Char)} :
    readExponent text = some e ↔ Exponent e text := by
  constructor
  · intro h
    cases text with
    | nil =>
      cases h
      exact .missing
    | cons mark rest =>
      rw [readExponent_cons, Option.ite_none_right_eq_some, Option.ite_none_right_eq_some,
        Bool.and_eq_true, Bool.not_eq_true', List.isEmpty_eq_false_iff, isDigits_iff_all] at h
      obtain ⟨hm, ⟨hne, hd⟩, he⟩ := h
      obtain ⟨sign, hs, hrest⟩ := takeExponentSign_spec rest
      cases he
      have hgiven := Exponent.given hm hs hne hd
      rwa [← hrest] at hgiven
  · intro h
    cases h with
    | missing => rfl
    | given hm hs hne hd =>
      rw [readExponent_cons, takeExponentSign_append hs hd, if_pos hm, if_pos]
      rw [Bool.and_eq_true, Bool.not_eq_true', List.isEmpty_eq_false_iff, isDigits_iff_all]
      exact ⟨hne, hd⟩

theorem head?_point_not_digit (after : List Char) :
    ∀ c ∈ ('.' :: after).head?, isDigit c = false := by
  rintro c ⟨⟩
  decide

theorem readPlain_pointed {digits after : List Char} (hd : IsDigits digits) :
    readPlain (digits ++ '.' :: after) =
      if digits.isEmpty && (after.takeWhile isDigit).isEmpty then none
      else (readExponent (after.dropWhile isDigit)).map fun e =>
        ⟨digits, true, after.takeWhile isDigit, e⟩ := by
  have hpoint := head?_point_not_digit after
  unfold readPlain
  rw [takeWhile_append_of_head hd hpoint, dropWhile_append_of_head hd hpoint]
  rfl

theorem readPlain_whole {digits rest : List Char} (hd : IsDigits digits)
    (hr : ∀ c ∈ rest.head?, isDigit c = false) (hp : ∀ c ∈ rest.head?, c ≠ '.') :
    readPlain (digits ++ rest) =
      if digits.isEmpty then none
      else (readExponent rest).map fun e => ⟨digits, false, [], e⟩ := by
  unfold readPlain
  rw [takeWhile_append_of_head hd hr, dropWhile_append_of_head hd hr]
  dsimp only
  split
  · exact absurd rfl (hp '.' rfl)
  · rfl

/-- Reading a plain numeral is by the grammar. -/
theorem readPlain_eq_some_iff {text : List Char} {p : Plain} :
    readPlain text = some p ↔ PlainNumeral p text := by
  constructor
  · intro h
    have hd : IsDigits (text.takeWhile isDigit) := fun c hc => List.mem_takeWhile_imp hc
    have hhead := head?_dropWhile isDigit text
    have hsplit : text.takeWhile isDigit ++ text.dropWhile isDigit = text :=
      List.takeWhile_append_dropWhile
    rw [← hsplit] at h ⊢
    generalize text.takeWhile isDigit = digits at h hd ⊢
    generalize text.dropWhile isDigit = rest at h hhead ⊢
    by_cases hp : ∀ c ∈ rest.head?, c ≠ '.'
    · rw [readPlain_whole hd hhead hp, Option.ite_none_left_eq_some, List.isEmpty_iff] at h
      obtain ⟨e, he, rfl⟩ := Option.map_eq_some_iff.mp h.2
      exact .whole h.1 hd (readExponent_eq_some_iff.mp he)
    · cases rest with
      | nil => exact absurd (fun c hc => by cases hc) hp
      | cons c after =>
        have hc : c = '.' := by simpa using hp
        subst hc
        rw [readPlain_pointed hd, Option.ite_none_left_eq_some, Bool.and_eq_true,
          List.isEmpty_iff, List.isEmpty_iff] at h
        obtain ⟨e, he, rfl⟩ := Option.map_eq_some_iff.mp h.2
        have hf : IsDigits (after.takeWhile isDigit) := fun c hc => List.mem_takeWhile_imp hc
        have hpointed := PlainNumeral.pointed hd hf (not_and_or.mp h.1)
          (readExponent_eq_some_iff.mp he)
        rwa [List.takeWhile_append_dropWhile] at hpointed
  · intro h
    cases h with
    | whole hne hd he =>
      have hp : ∀ c ∈ _, c ≠ '.' := fun c hc => by
        rcases he.head?_eq c hc with rfl | rfl <;> decide
      rw [readPlain_whole hd he.head?_not_digit hp, readExponent_eq_some_iff.mpr he,
        if_neg (by simpa using hne)]
      rfl
    | pointed hd hf hne he =>
      rw [readPlain_pointed hd, takeWhile_append_of_head hf he.head?_not_digit,
        dropWhile_append_of_head hf he.head?_not_digit, readExponent_eq_some_iff.mpr he,
        if_neg (by simpa using not_and_or.mpr hne)]
      rfl

theorem append_inj_of_isDigits {digits rest digits' rest' : List Char} (hd : IsDigits digits)
    (hr : ∀ c ∈ rest.head?, isDigit c = false) (hd' : IsDigits digits')
    (hr' : ∀ c ∈ rest'.head?, isDigit c = false) (h : digits ++ rest = digits' ++ rest') :
    digits = digits' ∧ rest = rest' := by
  constructor
  · rw [← takeWhile_append_of_head hd hr, h, takeWhile_append_of_head hd' hr']
  · rw [← dropWhile_append_of_head hd hr, h, dropWhile_append_of_head hd' hr']

/-- Behind the digits of a plain numeral stands an exponent, or a point with a fraction. -/
theorem PlainNumeral.append_cases {p : Plain} {digits rest : List Char}
    (h : PlainNumeral p (digits ++ rest)) (hd : IsDigits digits)
    (hr : ∀ c ∈ rest.head?, isDigit c = false) :
    (∃ e, Exponent e rest ∧ p = ⟨digits, false, [], e⟩) ∨
      ∃ fraction tail e, rest = '.' :: (fraction ++ tail) ∧ IsDigits fraction ∧ Exponent e tail ∧
        p = ⟨digits, true, fraction, e⟩ := by
  generalize htext : digits ++ rest = text at h
  cases h with
  | whole hne hd' he =>
    obtain ⟨rfl, rfl⟩ := append_inj_of_isDigits hd hr hd' he.head?_not_digit htext
    exact .inl ⟨_, he, rfl⟩
  | pointed hd' hf hne he =>
    obtain ⟨rfl, rfl⟩ := append_inj_of_isDigits hd hr hd' (head?_point_not_digit _) htext
    exact .inr ⟨_, _, _, rfl, hf, he, rfl⟩

end SheetFormulas.Numeral
