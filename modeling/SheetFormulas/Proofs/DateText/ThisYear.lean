import SheetFormulas.Proofs.Calendar.Anniversaries
import SheetFormulas.Proofs.Calendar.RolledDates
import SheetFormulas.Proofs.DateText.MonthAndDay
import SheetFormulas.Proofs.Numeral.Reading

/-!
Dates written without a year. A month and a day with a slash between them mean that day of the
current year. The text is filled in from a leap year and from a common year first, so February 29th
is read in no year at all.
-/

namespace SheetFormulas

namespace DateText

open Calendar Text

/-- The digits of a number, with zeros in front up to two digits, are one or two digits. -/
theorem isShort_paddedText {width n : Nat} (hw : width ≤ 2) (hn : n < 100) :
    IsShort n (paddedText width n).toList := by
  have hdigits : (paddedText width n).toList =
      paddedDigits (width - (Nat.toDigits 10 n).length) n := String.toList_ofList
  have hlength := Nat.toDigits_length 10 n 2 (by decide) hn
  rw [hdigits]
  refine ⟨isLatinNumeral_paddedDigits _ _, digitsValue_paddedDigits _ _, ?_⟩
  rw [paddedDigits, List.length_append, List.length_replicate]
  omega

section

variable {now : Moment} {first second : Token} {month day : Nat} {text : String}

/-- A month and a day of the current year are read as that date, unless there is no such day in one
of the years that fill the text in. -/
theorem read_slashed (hf : IsShort month first) (hs : IsShort day second)
    (ht : text.toList = first ++ '/' :: second)
    (hv : Date.isValid ⟨now.date.year, month, day⟩) :
    DateText.read now text =
      if month = 2 ∧ day = 29 then refuseCoercion (.unreadableDate text)
      else .ok ⟨some ⟨now.date.year, month, day⟩, Serial.fractionOf .midnight⟩ := by
  obtain ⟨-, ⟨hm, hm'⟩, -, hd⟩ := (Date.isValid_iff _).mp hv
  dsimp only at hm hm' hd
  have hlength := (monthLength_between now.date.year ⟨hm, hm'⟩).2
  have hleap : Date.isValid ⟨2000, month, day⟩ :=
    (Date.isValid_inYear_iff hv (by decide)).mpr fun hc => hc.2.2 (by decide)
  have hcommon : Date.isValid ⟨2001, month, day⟩ ↔ ¬ (month = 2 ∧ day = 29) := by
    have hiff := Date.isValid_inYear_iff hv (show 1 ≤ 2001 ∧ 2001 ≤ lastYear by decide)
    have hno : ¬ IsLeapYear ((2001 : Nat) : Int) := by decide
    simpa only [hno, not_false_eq_true, and_true] using hiff
  have hslash : '/' ∈ text.toList := by
    rw [ht]
    exact List.mem_append_cons_self
  have hempty := List.isEmpty_eq_false_iff.mpr (trim_ne_nil_of_mem hslash (by decide))
  unfold DateText.read
  rw [if_neg (by rw [hempty]; exact Bool.false_ne_true), ht,
    readTwice_slashed _ hf hs hm' (hd.trans hlength)]
  by_cases hfebruary : month = 2 ∧ day = 29
  · rw [if_neg (fun hc => hcommon.mp hc.2 hfebruary), if_pos hfebruary]
    rfl
  · rw [if_pos ⟨hleap, hcommon.mpr hfebruary⟩, if_neg hfebruary]
    simp [hv]

end

end DateText

namespace Dates

open Calendar Text DateText

theorem isNumeric_of_slash {text : String} (h : '/' ∈ text.toList) :
    isNumeric text = .ok false := by
  have hwritten (negative percents p) : ¬ Numeral.Written true negative percents p text.toList :=
    Numeral.not_written_of_slash h
  obtain ⟨flaw, hflaw, hne⟩ := Numeral.exists_flaw_of_not_written hwritten
  have hempty : text.isEmpty = false := by
    rw [← Bool.not_eq_true, String.isEmpty_iff]
    rintro rfl
    cases h
  have hnumber : numberOfText .cell text = refuseCoercion (.text text .number) := by
    rw [numberOfText, show Numeral.Convention.cell = .pointed true from rfl, hflaw]
    cases flaw with
    | tooManyPercents => exact absurd rfl hne
    | _ => rfl
  have hvalue : (Value.text text).toNumber = refuseCoercion (.text text .number) := by
    rw [Value.toNumber, hempty, ← hnumber]
    rfl
  rw [isNumeric, hvalue]
  rfl

/-- A month and a day with a slash between them, each in at least `width` digits. -/
def slashed (width width' month day : Nat) : String :=
  paddedText width month ++ "/" ++ paddedText width' day

theorem toList_slashed (width width' month day : Nat) :
    (slashed width width' month day).toList =
      (paddedText width month).toList ++ '/' :: (paddedText width' day).toList := by
  rw [slashed, String.toList_append, String.toList_append, List.append_assoc]
  rfl

/-- The serial that is read of a month and a day of the current year. -/
theorem dateValue_slashed {now : Moment} {month day width width' : Nat}
    (hy : 1900 ≤ now.date.year) (hv : Date.isValid ⟨now.date.year, month, day⟩) (hw : width ≤ 2)
    (hw' : width' ≤ 2) :
    dateValue now (.text (slashed width width' month day)) =
      if month = 2 ∧ day = 29 then
        refuseCoercion (.unreadableDate (slashed width width' month day))
      else Serial.ofDate ⟨now.date.year, month, day⟩ := by
  obtain ⟨-, hm, -, hd⟩ := (Date.isValid_iff _).mp hv
  dsimp only at hm hd
  have hlength := (monthLength_between now.date.year hm).2
  have htext := toList_slashed width width' month day
  have hslash : '/' ∈ (slashed width width' month day).toList := by
    rw [htext]
    exact List.mem_append_cons_self
  have hread := read_slashed (isShort_paddedText hw (show month < 100 by omega))
    (isShort_paddedText hw' (show day < 100 by omega)) htext hv
  rw [dateValue, readText, isNumeric_of_slash hslash, Outcome.ok_bind, if_neg Bool.false_ne_true,
    hread]
  by_cases hfebruary : month = 2 ∧ day = 29
  · rw [if_pos hfebruary, if_pos hfebruary]
    rfl
  · rw [if_neg hfebruary, if_neg hfebruary]
    exact if_neg (Nat.not_lt.mpr hy)

/-- A month and a day of the current year, in digits with a slash between them, are read as that
date of the current year, but for February 29th: this text is no date in any year. -/
theorem month_and_day_are_of_this_year (context : Context) {month day width width' : Nat}
    (hy : 1900 ≤ context.now.date.year)
    (hv : Date.isValid ⟨context.now.date.year, month, day⟩) (hw : width ≤ 2) (hw' : width' ≤ 2) :
    ∃ serial : Nat,
      (Catalog.standard.call context "DATE"
        [.ofNat context.now.date.year, .ofNat month, .ofNat day] []).Yields
        (.ok (.ofNat serial)) [] ∧
      (Catalog.standard.call context "DATEVALUE" [.text (slashed width width' month day)] []).Yields
        (.ok (if month = 2 ∧ day = 29 then .error .badValue else .ofNat serial)) [] := by
  obtain ⟨serial, -, hserial, -⟩ := Serial.exists_ofDate_eq hv hy
  have hdate := date_ofDate hv hy
  have hvalue := dateValue_slashed hy hv hw hw'
  rw [hserial] at hdate hvalue
  refine ⟨serial, Catalog.standard_call_yields_ok rfl rfl rfl rfl hdate, ?_⟩
  have hcall : (Catalog.standard.call context "DATEVALUE"
      [.text (slashed width width' month day)] []).Yields _ [] :=
    Catalog.standard_call_yields_answer rfl rfl rfl rfl
  rw [hvalue] at hcall
  split at hcall
  · rw [if_pos ‹_›]
    exact hcall
  · rw [if_neg ‹_›]
    exact hcall

/-- In 2024 the text `1/05` is January 5th, and `2/29` is no date, although this day exists. -/
theorem month_and_day_are_of_this_year_in_leap_year :
    let context : Context := ⟨⟨⟨2024, 1, 15⟩, .midnight⟩, fun _ => fail .arguments⟩
    (1900 ≤ context.now.date.year ∧ Date.isValid ⟨2024, 1, 5⟩ ∧ Date.isValid ⟨2024, 2, 29⟩) ∧
    slashed 1 2 1 5 = "1/05" ∧ slashed 1 1 2 29 = "2/29" ∧
    (∃ serial : Nat,
      (Catalog.standard.call context "DATE" [.ofNat 2024, .ofNat 1, .ofNat 5] []).Yields
        (.ok (.ofNat serial)) [] ∧
      (Catalog.standard.call context "DATEVALUE" [.text "1/05"] []).Yields
        (.ok (.ofNat serial)) []) ∧
    ∃ serial : Nat,
      (Catalog.standard.call context "DATE" [.ofNat 2024, .ofNat 2, .ofNat 29] []).Yields
        (.ok (.ofNat serial)) [] ∧
      (Catalog.standard.call context "DATEVALUE" [.text "2/29"] []).Yields
        (.ok (.error .badValue)) [] := by
  intro context
  have hy : 1900 ≤ context.now.date.year := by decide
  have hfifth : Date.isValid ⟨2024, 1, 5⟩ := by decide
  have hleap : Date.isValid ⟨2024, 2, 29⟩ := by decide
  have htext : slashed 1 2 1 5 = "1/05" := by cbv
  have htext' : slashed 1 1 2 29 = "2/29" := by cbv
  have hread := month_and_day_are_of_this_year context hy hfifth
    (show 1 ≤ 2 by decide) (show 2 ≤ 2 by decide)
  have hunread := month_and_day_are_of_this_year context hy hleap
    (show 1 ≤ 2 by decide) (show 1 ≤ 2 by decide)
  rw [htext] at hread
  rw [htext'] at hunread
  exact ⟨⟨hy, hfifth, hleap⟩, htext, htext', hread, hunread⟩

end Dates

end SheetFormulas
