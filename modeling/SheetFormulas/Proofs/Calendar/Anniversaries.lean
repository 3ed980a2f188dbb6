import SheetFormulas.Dates.Interval
import SheetFormulas.Proofs.Calendar.Months

/-!
The days that differences of dates are counted from when months or years are left out: the last day
of the first date's number in a month, or in a year, that is not after the second date. In a month
that is too short it is the last day of that month.
-/

namespace SheetFormulas

namespace Date

open Calendar

theorem daysIn_monthIndex {d : Date} (h : d.isValid) :
    daysIn d.monthIndex = monthLength d.year d.month := by
  obtain ⟨-, hm, -⟩ := (isValid_iff d).mp h
  have hindex : 0 ≤ d.monthIndex := by
    unfold monthIndex
    omega
  rw [daysIn_eq_monthLength hindex 1, monthIndex, inMonth_eq hm]

theorem inMonth_monthIndex {d : Date} (h : d.isValid) : inMonth d.monthIndex d.day = d :=
  inMonth_eq ((isValid_iff d).mp h).2.1 d.day

theorem monthIndex_inMonth {month : Int} (h : 0 ≤ month) (day : Nat) :
    (inMonth month day).monthIndex = month := by
  unfold monthIndex inMonth
  dsimp only
  omega

/-- Valid dates are ordered by their months, and in a month by their days. -/
theorem number_le_iff {a b : Date} (ha : a.isValid) (hb : b.isValid) :
    a.number ≤ b.number ↔
      a.monthIndex < b.monthIndex ∨ a.monthIndex = b.monthIndex ∧ a.day ≤ b.day := by
  obtain ⟨-, hma, -⟩ := (isValid_iff a).mp ha
  obtain ⟨-, hmb, -⟩ := (isValid_iff b).mp hb
  have hbefore {c d : Date} (hc : 1 ≤ c.month ∧ c.month ≤ 12) (hd : 1 ≤ d.month ∧ d.month ≤ 12) :
      c.Before d ↔ c.monthIndex < d.monthIndex ∨ c.monthIndex = d.monthIndex ∧ c.day < d.day := by
    unfold Before monthIndex
    omega
  rcases before_or_eq_or_before a b with hab | rfl | hba
  · have hlt := number_lt_of_before ha hb hab
    rw [hbefore hma hmb] at hab
    omega
  · exact ⟨fun _ => .inr ⟨rfl, le_rfl⟩, fun _ => le_rfl⟩
  · have hlt := number_lt_of_before hb ha hba
    rw [hbefore hmb hma] at hba
    omega

theorem year_le_of_number_le {a b : Date} (ha : a.isValid) (hb : b.isValid)
    (h : a.number ≤ b.number) : a.year ≤ b.year := by
  by_contra hlt
  have := number_lt_of_before hb ha (.inl (by omega))
  omega

end Date

namespace Calendar

/-- The days of a month follow its first one. -/
theorem number_inMonth (month : Int) (day : Nat) :
    (inMonth month day).number + 1 = (inMonth month 1).number + day := by
  unfold Date.number inMonth
  dsimp only
  omega

theorem monthLength_between (year : Nat) {month : Nat} (h : 1 ≤ month ∧ month ≤ 12) :
    28 ≤ monthLength year month ∧ monthLength year month ≤ 31 := by
  have hlength := daysIn_between (year * 12 + ((month : Int) - 1))
  rwa [daysIn_eq_monthLength (by omega) 1, inMonth_eq h] at hlength

theorem monthLength_february (year : Nat) :
    monthLength year 2 = if IsLeapYear year then 29 else 28 := by
  rw [monthLength, isLeap_eq]
  by_cases h : IsLeapYear year <;> simp [h, monthLengths]

/-- Only the length of February depends on the year. -/
theorem monthLength_eq_of_ne_two (year other : Nat) {month : Nat} (h : month ≠ 2) :
    monthLength year month = monthLength other month := by
  unfold monthLength monthLengths
  rcases month with _ | _ | _ | month
  · rfl
  · rfl
  · exact absurd rfl h
  · rfl

end Calendar

namespace Date

open Calendar

theorem isValid_clipped {year month day : Nat} (hy : 1 ≤ year ∧ year ≤ lastYear)
    (hm : 1 ≤ month ∧ month ≤ 12) (hd : 1 ≤ day) : (clipped year month day).isValid := by
  have hlength := monthLength_between year hm
  rw [isValid_iff]
  refine ⟨hy, hm, ?_, Nat.min_le_right _ _⟩
  unfold clipped
  dsimp only
  omega

theorem clipped_self {d : Date} (h : d.isValid) : clipped d.year d.month d.day = d := by
  rw [clipped, Nat.min_eq_left ((isValid_iff d).mp h).2.2.2]

/-- The day of a date in another year is the same, but for February 29th in a common year. -/
theorem min_day_monthLength {d : Date} (h : d.isValid) (year : Nat) :
    min d.day (monthLength year d.month) =
      if d.month = 2 ∧ d.day = 29 ∧ ¬ IsLeapYear year then 28 else d.day := by
  obtain ⟨-, -, -, hd⟩ := (isValid_iff d).mp h
  by_cases hm : d.month = 2
  · have hlength : monthLength d.year 2 ≤ 29 := by
      rw [monthLength_february]
      split <;> omega
    rw [hm] at hd ⊢
    rw [monthLength_february]
    by_cases hleap : IsLeapYear year
    · rw [if_pos hleap, if_neg (fun hc => hc.2.2 hleap)]
      omega
    · simp only [hleap, if_false, not_false_eq_true, and_true, true_and]
      split <;> omega
  · rw [monthLength_eq_of_ne_two d.year year hm] at hd
    rw [if_neg (fun hc => hm hc.1)]
    exact Nat.min_eq_left hd

/-- A date exists in every other year too, but for February 29th. -/
theorem isValid_inYear_iff {d : Date} (h : d.isValid) {year : Nat}
    (hy : 1 ≤ year ∧ year ≤ lastYear) :
    Date.isValid ⟨year, d.month, d.day⟩ ↔ ¬ (d.month = 2 ∧ d.day = 29 ∧ ¬ IsLeapYear year) := by
  obtain ⟨-, hm, hd, -⟩ := (isValid_iff d).mp h
  have hday := min_day_monthLength h year
  rw [isValid_iff]
  dsimp only
  split at hday
  · rename_i hleap
    exact iff_of_false (fun hvalid => by have := hvalid.2.2.2; omega) (not_not_intro hleap)
  · rename_i hother
    exact iff_of_true ⟨hy, hm, hd, min_eq_left_iff.mp hday⟩ hother

/-- From a day to the same day of the next year it is 366 days at most. -/
theorem number_clipped_succ_le {year month : Nat} (hy : 1 ≤ year) (hm : 1 ≤ month ∧ month ≤ 12)
    (day : Nat) :
    (clipped (year + 1) month day).number ≤ (clipped year month day).number + 366 := by
  unfold clipped number daysBeforeMonth monthLength
  dsimp only
  rw [daysBeforeYear_succ year hy]
  obtain ⟨low, high⟩ := hm
  -- a leap day counts if it lies between the two days, in either of the years
  generalize isLeap year = leap
  generalize isLeap (year + 1) = leap'
  cases leap <;> cases leap' <;> interval_cases month <;> simp [monthLengths] <;> omega

/-- From January 1st to any day of the year it is less than 366 days. -/
theorem number_le_of_year_eq {a b : Date} (ha : a.isValid) (hb : b.isValid) (h : a.year = b.year) :
    b.number ≤ a.number + 365 := by
  obtain ⟨⟨hy, -⟩, -, hd, -⟩ := (isValid_iff a).mp ha
  have hnext := number_le hb
  have hyear : (monthLengths (isLeap a.year)).sum ≤ 366 := by
    cases isLeap a.year <;> decide
  rw [← h, daysBeforeYear_succ _ hy] at hnext
  unfold number at *
  omega

/-- A date is not after its day in a later year. -/
theorem number_le_clipped {d : Date} (h : d.isValid) {year : Nat}
    (hy : d.year ≤ year ∧ year ≤ lastYear) : d.number ≤ (clipped year d.month d.day).number := by
  obtain ⟨⟨hfirst, -⟩, hm, hd, -⟩ := (isValid_iff d).mp h
  rcases Nat.eq_or_lt_of_le hy.1 with rfl | hlt
  · rw [clipped_self h]
  · exact (number_lt_of_before h (isValid_clipped ⟨by omega, hy.2⟩ hm hd) (.inl hlt)).le

end Date

namespace Dates

open Calendar

/-- A day between two dates, at most some days before the second one. -/
structure IsAnchor (first last : Date) (span : Nat) (anchor : Date) : Prop where
  isValid : anchor.isValid
  first_le : first.number ≤ anchor.number
  le_last : anchor.number ≤ last.number
  last_le : last.number ≤ anchor.number + span

section

variable {first last : Date}

/-- Without months, days are counted from the day of the first date in the last date's month if the
last date is not before it. -/
theorem isAnchor_sameMonth (hf : first.isValid) (hl : last.isValid) (h : first.number ≤ last.number)
    (hday : first.day ≤ last.day) :
    ∃ anchor, IsAnchor first last 30 anchor ∧
      daysIgnoringMonths first.day last.day last = .ok (daysBetween anchor last) ∧
      anchor.day = min first.day (daysIn anchor.monthIndex) := by
  obtain ⟨-, -, hfirst, -⟩ := (Date.isValid_iff first).mp hf
  obtain ⟨hyears, hmonth, -, hlength⟩ := (Date.isValid_iff last).mp hl
  have hbound := (monthLength_between last.year hmonth).2
  have hvalid : Date.isValid ⟨last.year, last.month, first.day⟩ :=
    (Date.isValid_iff _).mpr ⟨hyears, hmonth, hfirst, hday.trans hlength⟩
  have hnumber : Date.number ⟨last.year, last.month, first.day⟩ + last.day =
      last.number + first.day := by
    unfold Date.number
    dsimp only
    omega
  have hlow : first.number ≤ Date.number ⟨last.year, last.month, first.day⟩ := by
    rw [Date.number_le_iff hf hl] at h
    rw [Date.number_le_iff hf hvalid]
    unfold Date.monthIndex at h ⊢
    dsimp only
    omega
  refine ⟨_, ⟨hvalid, hlow, by omega, by omega⟩, ?_, ?_⟩
  · have hdays : ((last.day : Int) - first.day) =
        last.number - Date.number ⟨last.year, last.month, first.day⟩ := by omega
    rw [daysIgnoringMonths, if_pos hday, hdays]
    rfl
  · rw [Date.daysIn_monthIndex hvalid]
    exact (Nat.min_eq_left (hday.trans hlength)).symm

/-- Otherwise they are counted from the day of the first date in the month before, or from the last
day of that month. -/
theorem isAnchor_monthBefore (hf : first.isValid) (hl : last.isValid)
    (h : first.number ≤ last.number) (hday : last.day < first.day) :
    ∃ anchor, IsAnchor first last 30 anchor ∧
      daysIgnoringMonths first.day last.day last = .ok (daysBetween anchor last) ∧
      anchor.day = min first.day (daysIn anchor.monthIndex) := by
  obtain ⟨hyears, hmonth, -, hlength⟩ := (Date.isValid_iff first).mp hf
  obtain ⟨hyears', hmonth', hpos, -⟩ := (Date.isValid_iff last).mp hl
  have hbound := (monthLength_between first.year hmonth).2
  have hlater : first.monthIndex < last.monthIndex := by
    have := (Date.number_le_iff hf hl).mp h
    omega
  generalize hbefore : last.monthIndex + -1 = before
  have hin : InYears before := by
    unfold InYears
    unfold Date.monthIndex at hlater hbefore
    omega
  have hbetween := daysIn_between before
  generalize hk : min first.day (daysIn before) = k
  have hvalid := isValid_inMonth hin (show 1 ≤ k by omega) (by omega)
  have hindex := Date.monthIndex_inMonth (show 0 ≤ before by have := hin.le; omega) k
  -- the first of the last date's month comes as many days after that of the month before as it has
  have hnext := number_inMonth_succ hin.le
  have hlast := number_inMonth last.monthIndex last.day
  have hanchor := number_inMonth before k
  rw [show before + 1 = last.monthIndex by omega] at hnext
  rw [Date.inMonth_monthIndex hl] at hlast
  have hlow : first.number ≤ (inMonth before k).number := by
    rw [Date.number_le_iff hf hvalid, hindex]
    rcases eq_or_ne first.monthIndex before with heq | hne
    · rw [← Date.daysIn_monthIndex hf, heq] at hlength
      exact .inr ⟨heq, (Nat.min_eq_left hlength ▸ hk).le⟩
    · exact .inl (by omega)
  refine ⟨_, ⟨hvalid, hlow, by omega, by omega⟩, ?_, ?_⟩
  · rw [daysIgnoringMonths, if_neg (by omega), Date.shiftMonths?_eq hmonth'.1, hbefore, if_pos hin,
      hk]
  · rw [hindex, hk]
    rfl

/-- Without months, days are counted from the last day that has the number of the first date's day,
or that ends a month without this number. -/
theorem exists_monthAnchor (hf : first.isValid) (hl : last.isValid)
    (h : first.number ≤ last.number) :
    ∃ anchor, IsAnchor first last 30 anchor ∧
      daysIgnoringMonths first.day last.day last = .ok (daysBetween anchor last) ∧
      anchor.day = min first.day (daysIn anchor.monthIndex) := by
  rcases Nat.lt_or_ge last.day first.day with hday | hday
  · exact isAnchor_monthBefore hf hl h hday
  · exact isAnchor_sameMonth hf hl h hday

/-- Without years, days are counted from the last anniversary of the first date. -/
theorem exists_yearAnchor (hf : first.isValid) (hl : last.isValid)
    (h : first.number ≤ last.number) :
    ∃ anchor, IsAnchor first last 365 anchor ∧
      daysIgnoringYears first last = daysBetween anchor last ∧
      anchor.month = first.month ∧
      anchor.day = min first.day (monthLength anchor.year first.month) := by
  obtain ⟨⟨hpos, -⟩, hm, hday, -⟩ := (Date.isValid_iff first).mp hf
  obtain ⟨hyears, -⟩ := (Date.isValid_iff last).mp hl
  have hyear := Date.year_le_of_number_le hf hl h
  unfold daysIgnoringYears
  dsimp only
  by_cases hlater : last.number < (Date.clipped last.year first.month first.day).number
  · -- the first date lies in an earlier year, or this year's anniversary would be that date itself
    have hearlier : first.year < last.year := by
      refine Nat.lt_of_le_of_ne hyear fun heq => ?_
      rw [← heq, Date.clipped_self hf] at hlater
      omega
    have hvalid := Date.isValid_clipped
      (show 1 ≤ last.year - 1 ∧ last.year - 1 ≤ lastYear by omega) hm hday
    have hyears' : last.year - 1 + 1 = last.year := by omega
    have hspan := Date.number_clipped_succ_le (show 1 ≤ last.year - 1 by omega) hm first.day
    have hbefore := Date.number_lt_of_before hvalid hl
      (.inl (show last.year - 1 < last.year by omega))
    rw [hyears'] at hspan
    rw [if_pos hlater]
    exact ⟨_, ⟨hvalid, Date.number_le_clipped hf (by omega), hbefore.le, by omega⟩, rfl, rfl, rfl⟩
  · rw [if_neg hlater]
    have hvalid := Date.isValid_clipped hyears hm hday
    exact ⟨_, ⟨hvalid, Date.number_le_clipped hf ⟨hyear, hyears.2⟩, Nat.le_of_not_lt hlater,
      Date.number_le_of_year_eq hvalid hl rfl⟩, rfl, rfl, rfl⟩

end

end Dates

end SheetFormulas
