import SheetFormulas.Proofs.Calendar.Anniversaries
import SheetFormulas.Proofs.Calendar.MonthsAway

/-!
Differences of dates in their units. Years and months are counted by the calendar, so months are
twelve times the years and a rest where the second date's month of the year is not before the first
one's, and one year less where it is. The days that are left out of whole months or years lead back
from the second date to the first one's day of the month or of the year.
-/

namespace SheetFormulas

namespace Dates

open Calendar

section Serials

variable {start finish : Nat}

theorem differenceIn_years (start finish : Nat) :
    differenceIn (unitCode "Y") start finish =
      .ok ((Serial.parts finish).year - (Serial.parts start).year : Int) := rfl

theorem differenceIn_months (start finish : Nat) :
    differenceIn (unitCode "M") start finish =
      .ok ((Serial.parts finish).monthIndex - (Serial.parts start).monthIndex) := by
  show Except.ok _ = _
  congr 1
  unfold Date.monthIndex
  omega

theorem differenceIn_restOfMonths (start finish : Nat) :
    differenceIn (unitCode "YM") start finish =
      .ok (((Serial.parts finish).monthIndex - (Serial.parts start).monthIndex) % 12) := by
  show Except.ok _ = _
  congr 2
  unfold Date.monthIndex
  omega

theorem differenceIn_monthDays (h : Serial.phantom < finish) :
    differenceIn (unitCode "MD") start finish =
      daysIgnoringMonths (Serial.parts start).day (Serial.parts finish).day
        (Serial.parts finish) := by
  show (Serial.date finish >>= fun date =>
    daysIgnoringMonths (Serial.parts start).day (Serial.parts finish).day date) = _
  rw [Serial.date_eq_parts h]
  rfl

theorem differenceIn_yearDays (hs : Serial.phantom < start) (hf : Serial.phantom < finish) :
    differenceIn (unitCode "YD") start finish =
      .ok (daysIgnoringYears (Serial.parts start) (Serial.parts finish)) := by
  show (Serial.date finish >>= fun date => Serial.date start >>= fun first =>
    pure (daysIgnoringYears first date)) = _
  rw [Serial.date_eq_parts hs, Serial.date_eq_parts hf]
  rfl

/-- The days from an anchor to the second serial lead back from there to the anchor. -/
theorem exists_days_to_anchor (hs : Serial.phantom < start) (hle : start ≤ finish) {span : Nat}
    {anchor : Date} (h : IsAnchor (Serial.parts start) (Serial.parts finish) span anchor) :
    ∃ days : Nat, daysBetween anchor (Serial.parts finish) = days ∧ days ≤ span ∧
      start ≤ finish - days ∧ Serial.parts (finish - days) = anchor := by
  obtain ⟨hvalid, hfirst, hlast, hspan⟩ := h
  rw [Serial.number_parts hs] at hfirst
  rw [Serial.number_parts (by omega)] at hlast hspan
  refine ⟨Serial.epoch + finish - anchor.number, ?_, by omega, by omega,
    Serial.parts_of_number hvalid (by omega) (by omega)⟩
  unfold daysBetween
  rw [Serial.number_parts (by omega)]
  omega

end Serials

/-- A difference of two serials in order, by their whole parts. -/
theorem difference_number (now : Moment) {start finish : Number} (hs : Serial.InRange start)
    (hf : Serial.InRange finish) (hle : start.truncate ≤ finish.truncate) (unit : String) :
    difference now (.number start) (.number finish) (.text unit) =
      differenceIn (unitCode unit) start.truncate.toNat finish.truncate.toNat := by
  have horder : ¬ finish.truncate.toNat < start.truncate.toNat := by
    have := hs.truncate
    omega
  unfold difference
  rw [dayOf_number now hs, dayOf_number now hf]
  simp only [Value.toText, Outcome.ok_bind]
  exact if_neg horder

section Calls

variable (context : Context)

theorem call_difference_yields {start finish : Number} (hs : Serial.InRange start)
    (hf : Serial.InRange finish) (hle : start.truncate ≤ finish.truncate) {unit : String} {n : Int}
    (h : differenceIn (unitCode unit) start.truncate.toNat finish.truncate.toNat = .ok n) :
    (Catalog.standard.call context "DATEDIF"
      [.number start, .number finish, .text unit] []).Yields (.ok (.ofInt n)) [] :=
  Catalog.standard_call_yields_ok rfl rfl rfl rfl
    ((difference_number context.now hs hf hle unit).trans h)

theorem call_difference_ofNat_yields {start finish : Nat} (hle : start ≤ finish)
    (hl : finish ≤ Serial.last) {unit : String} {n : Int}
    (h : differenceIn (unitCode unit) start finish = .ok n) :
    (Catalog.standard.call context "DATEDIF"
      [.ofNat start, .ofNat finish, .text unit] []).Yields (.ok (.ofInt n)) [] :=
  call_difference_yields context (Serial.inRange_ofNat (hle.trans hl)) (Serial.inRange_ofNat hl)
    (Int.ofNat_le.mpr hle) h

/-- Between two serials in order, the months are twelve times the years and a rest of less than a
year, for one year less where the month of the second date comes before that of the first one in
the year. -/
theorem months_are_years_and_rest {start finish : Number} (hs : Serial.InRange start)
    (hf : Serial.InRange finish) (hle : start.truncate ≤ finish.truncate) :
    let first := Serial.parts start.truncate.toNat
    let last := Serial.parts finish.truncate.toNat
    let yields := fun unit (n : Int) => (Catalog.standard.call context "DATEDIF"
      [.number start, .number finish, .text unit] []).Yields (.ok (.ofInt n)) []
    (ShowsDate context (.number start) first ∧ ShowsDate context (.number finish) last) ∧
    ∃ years rest : Int, yields "Y" years ∧ yields "YM" rest ∧
      yields "M" (12 * (if first.month ≤ last.month then years else years - 1) + rest) ∧
      years = last.year - first.year ∧ 0 ≤ rest ∧ rest ≤ 11 := by
  intro first last yields
  have hfirst : 1 ≤ first.month ∧ first.month ≤ 12 := Serial.month_parts_between _
  have hlast : 1 ≤ last.month ∧ last.month ≤ 12 := Serial.month_parts_between _
  have hyields {unit : String} {n : Int}
      (h : differenceIn (unitCode unit) start.truncate.toNat finish.truncate.toNat = .ok n) :
      yields unit n := call_difference_yields context hs hf hle h
  have hsum : last.monthIndex - first.monthIndex =
      12 * (if first.month ≤ last.month then (last.year : Int) - first.year
        else (last.year : Int) - first.year - 1) +
      (last.monthIndex - first.monthIndex) % 12 := by
    unfold Date.monthIndex
    split <;> omega
  have hmonths := hyields (differenceIn_months _ _)
  rw [hsum] at hmonths
  exact ⟨⟨showsDate_number context hs, showsDate_number context hf⟩, _, _,
    hyields (differenceIn_years _ _), hyields (differenceIn_restOfMonths _ _), hmonths, rfl,
    by omega, by omega⟩

/-- From December 2023 to January 2024, with times of the day that do not count. -/
theorem months_are_years_and_rest_over_new_year :
    let context : Context := ⟨⟨⟨2024, 1, 15⟩, .midnight⟩, fun _ => fail .arguments⟩
    let start : Number := .int 45291
    let finish : Number := .float (Float.ofBits 0x40e61d9000000000)
    let yields := fun unit (n : Int) => (Catalog.standard.call context "DATEDIF"
      [.number start, .number finish, .text unit] []).Yields (.ok (.ofInt n)) []
    (Serial.InRange start ∧ Serial.InRange finish ∧ start.truncate ≤ finish.truncate) ∧
    ∃ years rest : Int, yields "Y" years ∧ yields "YM" rest ∧
      yields "M" (12 * (years - 1) + rest) ∧ years = 1 := by
  intro context start finish yields
  have hs : Serial.InRange start := Serial.inRange_int (by decide) (by decide)
  have hf : Serial.InRange finish := by constructor <;> decide +kernel
  have hle : start.truncate ≤ finish.truncate := by decide +kernel
  have hwhole : finish.truncate.toNat = 45292 := by decide +kernel
  have hfirst : Serial.parts 45291 = ⟨2023, 12, 31⟩ := by decide
  have hlast : Serial.parts 45292 = ⟨2024, 1, 1⟩ := by decide
  obtain ⟨-, years, rest, hyears, hrest, hmonths, heq, -⟩ :=
    months_are_years_and_rest context hs hf hle
  rw [hwhole, hlast, show start.truncate.toNat = 45291 from rfl, hfirst] at hmonths heq
  exact ⟨⟨hs, hf, hle⟩, years, rest, hyears, hrest, hmonths, heq⟩

/-- Months are not twelve times the years and the rest throughout: the year changes from the last
day of 2023 to the next day, and so does the month, which is the rest too. -/
theorem months_less_than_years_and_rest :
    let context : Context := ⟨⟨⟨2024, 1, 15⟩, .midnight⟩, fun _ => fail .arguments⟩
    ¬ ∀ start finish : Number, Serial.InRange start → Serial.InRange finish →
      1 ≤ start.truncate → start.truncate ≤ finish.truncate → ∃ months years rest : Int,
      (Catalog.standard.call context "DATEDIF"
        [.number start, .number finish, .text "M"] []).Yields (.ok (.ofInt months)) [] ∧
      (Catalog.standard.call context "DATEDIF"
        [.number start, .number finish, .text "Y"] []).Yields (.ok (.ofInt years)) [] ∧
      (Catalog.standard.call context "DATEDIF"
        [.number start, .number finish, .text "YM"] []).Yields (.ok (.ofInt rest)) [] ∧
      months = 12 * years + rest := by
  intro context h
  have hs : Serial.InRange (.int 45291) := Serial.inRange_int (by decide) (by decide)
  have hf : Serial.InRange (.int 45292) := Serial.inRange_int (by decide) (by decide)
  have hle : (Number.int 45291).truncate ≤ (Number.int 45292).truncate := by decide
  have hfirst : Serial.parts 45291 = ⟨2023, 12, 31⟩ := by decide
  have hlast : Serial.parts 45292 = ⟨2024, 1, 1⟩ := by decide
  have hyields {unit : String} {n : Int}
      (h : differenceIn (unitCode unit) 45291 45292 = .ok n) :=
    call_difference_yields context hs hf hle h
  have honeMonth := hyields (differenceIn_months 45291 45292)
  have honeYear := hyields (differenceIn_years 45291 45292)
  have honeLeft := hyields (differenceIn_restOfMonths 45291 45292)
  rw [hfirst, hlast] at honeMonth honeYear honeLeft
  obtain ⟨months, years, rest, hmonths, hyears, hrest, hsum⟩ := h _ _ hs hf (by decide) hle
  rw [Value.ofInt_injective (Except.ok.inj (hmonths.unique honeMonth).1),
    Value.ofInt_injective (Except.ok.inj (hyears.unique honeYear).1),
    Value.ofInt_injective (Except.ok.inj (hrest.unique honeLeft).1)] at hsum
  exact absurd hsum (by decide)

/-- The remainders in days of two serials from March 1st, 1900 on lead back from the second date to
a day of the first one's number in a month, or to its day of the year, or to the last day of the
month if it is too short. -/
theorem day_remainders_lead_back {start finish : Nat} (hs : 61 ≤ start) (hle : start ≤ finish)
    (hl : finish ≤ 2958465) :
    let first := Serial.parts start
    let yields := fun unit (n : Nat) => (Catalog.standard.call context "DATEDIF"
      [.ofNat start, .ofNat finish, .text unit] []).Yields (.ok (.ofNat n)) []
    ShowsDate context (.ofNat start) first ∧
    (∃ (days : Nat) (d : Date), yields "MD" days ∧ days ≤ 30 ∧
      ShowsDate context (.ofNat (finish - days)) d ∧ d.day = min first.day (daysIn d.monthIndex)) ∧
    ∃ (days : Nat) (d : Date), yields "YD" days ∧ days ≤ 365 ∧ start ≤ finish - days ∧
      ShowsDate context (.ofNat (finish - days)) d ∧ d.month = first.month ∧
      d.day = if first.month = 2 ∧ first.day = 29 ∧ ¬ IsLeapYear d.year then 28 else first.day := by
  intro first yields
  have hlast : finish ≤ Serial.last := hl
  have hphantom : Serial.phantom < start := hs
  have hphantom' : Serial.phantom < finish := hphantom.trans_le hle
  have hvalid := Serial.isValid_parts hphantom (hle.trans hlast)
  have hvalid' := Serial.isValid_parts hphantom' hlast
  have horder : (Serial.parts start).number ≤ (Serial.parts finish).number := by
    rw [Serial.number_parts hphantom, Serial.number_parts hphantom']
    omega
  refine ⟨showsDate_ofDate context (hle.trans hlast) rfl, ?_, ?_⟩
  · obtain ⟨anchor, hanchor, hmonths, hday⟩ := exists_monthAnchor hvalid hvalid' horder
    obtain ⟨days, hdays, hspan, -, hparts⟩ := exists_days_to_anchor hphantom hle hanchor
    have hdiff : differenceIn (unitCode "MD") start finish = .ok (days : Int) := by
      rw [differenceIn_monthDays hphantom', hmonths, hdays]
    exact ⟨days, anchor, call_difference_ofNat_yields context hle hlast hdiff, hspan,
      showsDate_ofDate context (by omega) hparts, hday⟩
  · obtain ⟨anchor, hanchor, hyears, hmonth, hday⟩ := exists_yearAnchor hvalid hvalid' horder
    obtain ⟨days, hdays, hspan, hreach, hparts⟩ := exists_days_to_anchor hphantom hle hanchor
    have hdiff : differenceIn (unitCode "YD") start finish = .ok (days : Int) := by
      rw [differenceIn_yearDays hphantom hphantom', hyears, hdays]
    rw [Date.min_day_monthLength hvalid] at hday
    exact ⟨days, anchor, call_difference_ofNat_yields context hle hlast hdiff, hspan, hreach,
      showsDate_ofDate context (by omega) hparts, hmonth, hday⟩

end Calls

/-- From February 29th, 2024 to March 1st, 2025, it is one day from the last day of February,
without months as well as without years. -/
theorem day_remainders_lead_back_to_february :
    let context : Context := ⟨⟨⟨2024, 1, 15⟩, .midnight⟩, fun _ => fail .arguments⟩
    let first := Serial.parts 45351
    let yields := fun unit (n : Nat) => (Catalog.standard.call context "DATEDIF"
      [.ofNat 45351, .ofNat 45717, .text unit] []).Yields (.ok (.ofNat n)) []
    (61 ≤ 45351 ∧ 45351 ≤ 45717 ∧ 45717 ≤ 2958465) ∧
    first = ⟨2024, 2, 29⟩ ∧
    (∃ (days : Nat) (d : Date), yields "MD" days ∧ days ≤ 30 ∧
      ShowsDate context (.ofNat (45717 - days)) d ∧ d.day = min first.day (daysIn d.monthIndex)) ∧
    ∃ (days : Nat) (d : Date), yields "YD" days ∧ days ≤ 365 ∧ 45351 ≤ 45717 - days ∧
      ShowsDate context (.ofNat (45717 - days)) d ∧ d.month = first.month ∧
      d.day = if first.month = 2 ∧ first.day = 29 ∧ ¬ IsLeapYear d.year then 28 else first.day := by
  intro context first yields
  have hrange : 61 ≤ 45351 ∧ 45351 ≤ 45717 ∧ 45717 ≤ 2958465 := by decide
  have hfirst : first = ⟨2024, 2, 29⟩ := by decide
  obtain ⟨-, hmonths, hyears⟩ :=
    day_remainders_lead_back context hrange.1 hrange.2.1 hrange.2.2
  exact ⟨hrange, hfirst, hmonths, hyears⟩

end Dates

end SheetFormulas
