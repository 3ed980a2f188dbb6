import SheetFormulas.DateText.Reading
import SheetFormulas.Proofs.Calendar.Months
import SheetFormulas.Proofs.Text.Latin

/-!
Two numbers with a slash between them as a date text. They are the month and the day, the year is
left out, and the text is read if this day exists in both of the years that fill it in.
-/

namespace SheetFormulas

namespace DateText

open Text

theorem placeOf_eq_none {groups : List (List String)} {token : Token}
    (h : ∀ group ∈ groups, ∀ word ∈ group, word.toList ≠ lower token) :
    placeOf groups token = none := by
  unfold placeOf
  dsimp only
  rw [List.findIdx?_eq_none_iff]
  intro group hgroup
  rw [List.contains_eq_mem, decide_eq_false_iff_not]
  intro hmem
  exact h group hgroup _ hmem String.toList_ofList

namespace Token

/-- While a number is read, digits belong to it. -/
theorem readFrom_digits {digits : List Char} (h : ∀ c ∈ digits, isLatinDigit c = true)
    (reversed rest : List Char) :
    readFrom (some ⟨.number, false, reversed⟩) (digits ++ rest) =
      readFrom (some ⟨.number, false, digits.reverse ++ reversed⟩) rest := by
  induction digits generalizing reversed with
  | nil => rfl
  | cons c digits ih =>
    have hextend : Open.extend? ⟨.number, false, reversed⟩ c =
        some ⟨.number, false, c :: reversed⟩ := by
      simp [Open.extend?, isDigitLike_of_isLatinDigit (h c List.mem_cons_self)]
    rw [List.cons_append, readFrom, Option.bind_some, hextend]
    dsimp only
    rw [ih (List.forall_mem_of_forall_mem_cons h), List.reverse_cons, List.append_assoc]
    rfl

/-- A text that begins with digits has a number as its first token. -/
theorem readFrom_numeral {digits : List Char} (h : isLatinNumeral digits = true)
    (rest : List Char) :
    readFrom none (digits ++ rest) = readFrom (some ⟨.number, false, digits.reverse⟩) rest := by
  obtain ⟨hne, hdigits⟩ := isLatinNumeral_iff.mp h
  obtain ⟨c, more, rfl⟩ := List.exists_cons_of_ne_nil hne
  have hc := hdigits c List.mem_cons_self
  have hopen : Open.ofChar? c = some ⟨.number, false, [c]⟩ := by
    simp [Open.ofChar?, isLetter_of_isLatinDigit hc, isDigitLike_of_isLatinDigit hc]
  rw [List.cons_append, readFrom, Option.bind_none, hopen]
  dsimp only
  rw [readFrom_digits (List.forall_mem_of_forall_mem_cons hdigits), List.reverse_cons]
  rfl

/-- Two numbers with a slash between them are three tokens. -/
theorem split_slashed {first second : List Char} (hf : isLatinNumeral first = true)
    (hs : isLatinNumeral second = true) :
    split (first ++ '/' :: second) = [first, ['/'], second] := by
  have hnull : (first ++ '/' :: second).filter (· != '\x00') = first ++ '/' :: second := by
    refine List.filter_eq_self.mpr fun c hc => ?_
    have hdigit (hlatin : isLatinDigit c = true) : (c != '\x00') = true := by
      rw [bne_iff_ne]
      rintro rfl
      exact absurd hlatin (by decide)
    rcases List.mem_append.mp hc with hc | hc
    · exact hdigit ((isLatinNumeral_iff.mp hf).2 c hc)
    · rcases List.mem_cons.mp hc with rfl | hc
      · decide
      · exact hdigit ((isLatinNumeral_iff.mp hs).2 c hc)
  have hfinish (digits : List Char) :
      Open.finish ⟨.number, false, digits.reverse⟩ = [digits] := by
    simp [Open.finish]
  have hslash (reversed : List Char) : Open.extend? ⟨.number, false, reversed⟩ '/' = none := by
    have hno : isDigitLike '/' = false := by decide
    simp [Open.extend?, hno]
  have hopen : Open.ofChar? '/' = none := by decide
  have hblank : isBlank '/' = false := by decide
  have hsecond := readFrom_numeral hs []
  rw [List.append_nil] at hsecond
  rw [split, hnull, readFrom_numeral hf, readFrom, Option.bind_some, hslash, hopen, hsecond]
  simp [readFrom, Open.interrupted, hfinish, hblank]

section Numbers

variable {token : Token} (h : isLatinNumeral token = true)
include h

theorem all_isDigit : token.all isDigit = true :=
  List.all_eq_true.mpr fun c hc => isDigit_of_isLatinDigit ((isLatinNumeral_iff.mp h).2 c hc)

theorem quantity?_numeral : quantity? token = some ⟨digitsValue token, 0⟩ := by
  have hdigits := List.all_eq_true.mp (all_isDigit h)
  have hwhole : token.takeWhile isDigit = token := List.takeWhile_eq_self_iff.mpr hdigits
  have hrest : token.dropWhile isDigit = [] := List.dropWhile_eq_nil_iff.mpr hdigits
  unfold quantity?
  dsimp only
  rw [hwhole, hrest, if_neg]
  rw [List.isEmpty_iff]
  exact (isLatinNumeral_iff.mp h).1

theorem isDigits_numeral : isDigits token = true := by
  obtain ⟨hne, hdigits⟩ := isLatinNumeral_iff.mp h
  rw [isDigits, Bool.and_eq_true, Bool.not_eq_true', List.isEmpty_eq_false_iff, List.all_eq_true]
  exact ⟨hne, fun c hc => isDigitLike_of_isLatinDigit (hdigits c hc)⟩

theorem int_numeral (hlength : token.length ≤ Number.digitLimit) :
    int token = .ok (digitsValue token) := by
  obtain ⟨hne, -⟩ := isLatinNumeral_iff.mp h
  have hempty : token.isEmpty = false := List.isEmpty_eq_false_iff.mpr hne
  rw [int, all_isDigit h, hempty, decide_eq_true hlength]
  rfl

/-- No number is a word without a meaning of its own. -/
theorem isFiller_numeral : isFiller token = false := by
  obtain ⟨hne, hdigits⟩ := isLatinNumeral_iff.mp h
  obtain ⟨c, more, rfl⟩ := List.exists_cons_of_ne_nil hne
  have hc := hdigits c List.mem_cons_self
  have hword : ∀ word : String, word.toList.head?.any isLatinDigit = false →
      word.toList ≠ lower (c :: more) := by
    intro word hw heq
    rw [heq, lower_of_isLatinDigit hdigits, List.head?_cons, Option.any_some, hc] at hw
    cases hw
  unfold isFiller
  rw [placeOf_eq_none, Option.isSome_none]
  intro group hgroup word hmem
  refine hword word ?_
  revert word
  rw [List.mem_singleton.mp hgroup]
  decide

end Numbers

theorem unit?_slash : unit? ['/'] = none := by
  unfold unit?
  rw [placeOf_eq_none]
  decide

end Token

theorem ok_bind {α β : Type} (a : α) (f : α → Reader β) : ((.ok a : Reader α) >>= f) = f a := rfl

/-- A number in one or two digits. -/
structure IsShort (n : Nat) (token : Token) : Prop where
  isNumeral : isLatinNumeral token = true
  value : digitsValue token = n
  length_le : token.length ≤ 2

/-- What is read of two numbers with a slash between them. -/
def monthAndDay (month day : Nat) : Fields :=
  { Fields.none with parts := { DayParts.none with numbers := [month, day] } }

namespace Fields

variable {first second : Token} {month day : Nat} (hf : IsShort month first)
  (hs : IsShort day second)
include hf hs

theorem readSeparated_slashed :
    Fields.none.readSeparated first ['/'] [['/'], second] = .ok (monthAndDay month day, 2) := by
  have hlimit : 2 ≤ Number.digitLimit := by decide
  have hadd (p : DayParts) {n : Nat} {token : Token} (h : IsShort n token) :
      p.addToken token = .ok (p.addNumber n) := by
    have hlength := h.length_le
    have hshort : decide (2 < token.length) = false := decide_eq_false (by omega)
    rw [DayParts.addToken, hshort, Bool.and_false,
      Token.int_numeral h.isNumeral (hlength.trans hlimit), h.value]
    rfl
  unfold readSeparated
  rw [hadd _ hf]
  show (if second.isFiller then _ else _) = _
  rw [Token.isFiller_numeral hs.isNumeral, if_neg Bool.false_ne_true,
    Token.isDigits_numeral hs.isNumeral, if_pos rfl, hadd _ hs]
  rfl

/-- A number of one or two digits before a slash is no time, as long as no date was read. -/
theorem readNumber_slashed :
    Fields.none.readNumber [] first ⟨month, 0⟩ [['/'], second] =
      .ok (monthAndDay month day, 2) := by
  have hlength := hf.length_le
  have hunit : unitOf [] [['/'], second] = Option.none := by
    have hhead : ([['/'], second] : List Token).head?.bind Token.unit? = Option.none :=
      Token.unit?_slash
    rw [unitOf, hhead]
    rfl
  unfold readNumber
  dsimp only
  rw [if_neg (fun hc => absurd hc.1 (by decide)), if_neg (by omega), if_neg (by omega), hunit]
  dsimp only
  rw [if_neg (fun hc => absurd hc.2 (by simp))]
  exact readSeparated_slashed hf hs

theorem readTokens_slashed (currentYear : Nat) :
    Fields.none.readTokens currentYear [] [first, ['/'], second] =
      .ok (monthAndDay month day) := by
  have htoken : Fields.none.readToken currentYear [] first [['/'], second] =
      .ok (monthAndDay month day, 2) := by
    rw [readToken, Token.quantity?_numeral hf.isNumeral, hf.value]
    exact readNumber_slashed hf hs
  rw [readTokens, htoken]
  show readTokens _ _ _ [] = _
  rw [readTokens]

end Fields

theorem resolve_monthAndDay {month day : Nat} (hm : month ≤ 12) (hd : day ≤ 31) :
    (monthAndDay month day).parts.resolve = .ok ⟨none, some month, some day⟩ := by
  show Except.ok (if 31 < month then _ else if 31 < day then _ else _) = _
  rw [if_neg (by omega), if_neg (by omega)]

theorem date_monthAndDay (month day : Nat) (default : Date) :
    (monthAndDay month day).date ⟨none, some month, some day⟩ default =
      if Date.isValid ⟨default.year, month, day⟩ then .ok ⟨default.year, month, day⟩
      else notDate := by
  unfold Fields.date
  dsimp only [Option.getD_none, Option.getD_some]
  cases Date.isValid ⟨default.year, month, day⟩ <;> rfl

/-- The text of a month and a day is read if the day exists in both years that fill it in. -/
theorem readTwice_slashed (currentYear : Nat) {first second : Token} {month day : Nat}
    (hf : IsShort month first) (hs : IsShort day second) (hm : month ≤ 12) (hd : day ≤ 31) :
    readTwice currentYear (first ++ '/' :: second) =
      if Date.isValid ⟨2000, month, day⟩ ∧ Date.isValid ⟨2001, month, day⟩ then
        .ok (⟨2000, month, day⟩, ⟨2001, month, day⟩, .midnight)
      else notDate := by
  unfold readTwice
  rw [Token.split_slashed hf.isNumeral hs.isNumeral, Fields.readTokens_slashed hf hs, ok_bind,
    resolve_monthAndDay hm hd, ok_bind]
  show ((monthAndDay month day).date ⟨none, some month, some day⟩ ⟨2000, 1, 1⟩ >>= fun first =>
    (monthAndDay month day).date ⟨none, some month, some day⟩ ⟨2001, 2, 2⟩ >>= fun second =>
      pure (first, second, TimeOfDay.midnight)) = _
  rw [date_monthAndDay, date_monthAndDay]
  cases Date.isValid ⟨2000, month, day⟩ <;> cases Date.isValid ⟨2001, month, day⟩ <;> rfl

end DateText

end SheetFormulas
