import Mathlib.Tactic
import SheetFormulas.Calendar.Gregorian

/-!
Day numbers and dates are two names for the same days: `Date.number` and `Calendar.dateOf` undo each
other, and the dates of the calendar are ordered by year, month and day as their day numbers are.
-/

namespace SheetFormulas.Calendar

/-- A year more adds the months of the year before. -/
theorem daysBeforeYear_succ (year : Nat) (h : 1 ≤ year) :
    daysBeforeYear (year + 1) = daysBeforeYear year + (monthLengths (isLeap year)).sum := by
  obtain ⟨past, rfl⟩ : ∃ past, year = past + 1 := ⟨year - 1, by omega⟩
  have below : past / 100 ≤ past / 4 := Nat.div_le_div_left (by decide) (by decide)
  have h4 : 100 ∣ past + 1 → 4 ∣ past + 1 := Nat.dvd_trans (by decide)
  have h100 : 400 ∣ past + 1 → 100 ∣ past + 1 := Nat.dvd_trans (by decide)
  simp only [daysBeforeYear, Nat.add_sub_cancel, Nat.succ_div]
  -- the three quotients step up exactly in the years that the leap rule names
  by_cases d4 : 4 ∣ past + 1 <;> by_cases d100 : 100 ∣ past + 1 <;>
    by_cases d400 : 400 ∣ past + 1 <;>
    simp_all [isLeap, ← Nat.dvd_iff_mod_eq_zero, monthLengths] <;> omega

theorem daysBeforeYear_le (year later : Nat) (h : 1 ≤ year) (hl : year ≤ later) :
    daysBeforeYear year ≤ daysBeforeYear later := by
  induction later, hl using Nat.le_induction with
  | base => exact Nat.le_refl _
  | succ later hl ih =>
    rw [daysBeforeYear_succ later (by omega)]
    exact Nat.le_trans ih (Nat.le_add_right _ _)

/-- The estimate from the average length of a year is off by one year at most. -/
theorem daysBeforeYear_estimate (days : Nat) :
    daysBeforeYear (days * 400 / 146097 + 1) ≤ days ∧
      days < daysBeforeYear (days * 400 / 146097 + 3) := by
  simp only [daysBeforeYear, Nat.add_sub_cancel,
    show days * 400 / 146097 + 3 - 1 = days * 400 / 146097 + 2 by omega]
  omega

/-- `yearAfter` finds the year that a day falls in. -/
theorem yearAfter_spec (days : Nat) :
    1 ≤ yearAfter days ∧ daysBeforeYear (yearAfter days) ≤ days ∧
      days < daysBeforeYear (yearAfter days + 1) := by
  obtain ⟨low, high⟩ := daysBeforeYear_estimate days
  unfold yearAfter
  dsimp only
  rw [if_neg (by omega)]
  split
  · exact ⟨by omega, by assumption, high⟩
  · exact ⟨by omega, low, by omega⟩

theorem yearAfter_eq (days year : Nat) (h : 1 ≤ year) (low : daysBeforeYear year ≤ days)
    (high : days < daysBeforeYear (year + 1)) : yearAfter days = year := by
  obtain ⟨hp, hl, hh⟩ := yearAfter_spec days
  rcases Nat.lt_trichotomy (yearAfter days) year with hlt | heq | hgt
  · have := daysBeforeYear_le (yearAfter days + 1) year (by omega) hlt
    omega
  · exact heq
  · have := daysBeforeYear_le (year + 1) (yearAfter days) (by omega) hgt
    omega

theorem daysBeforeMonth_eq_sum (year month : Nat) :
    daysBeforeMonth year month = ((monthLengths (isLeap year)).take (month - 1)).sum :=
  List.sum_eq_foldl_nat.symm

theorem length_monthLengths (leap : Bool) : (monthLengths leap).length = 12 := rfl

/-- The month and the day that `wholeMonths` finds add up to the days it was given. -/
theorem wholeMonths_spec (lengths : List Nat) (days : Nat) (h : days < lengths.sum) :
    (wholeMonths lengths days).1 < lengths.length ∧
      (wholeMonths lengths days).2 < lengths[(wholeMonths lengths days).1]?.getD 0 ∧
      (lengths.take (wholeMonths lengths days).1).sum + (wholeMonths lengths days).2 = days := by
  induction lengths generalizing days with
  | nil => simp at h
  | cons first rest ih =>
    rw [wholeMonths]
    split
    · simpa using ‹days < first›
    · obtain ⟨hm, hd, hsum⟩ := ih (days - first) (by rw [List.sum_cons] at h; omega)
      refine ⟨by simpa using hm, by simpa using hd, ?_⟩
      simp only [List.take_succ_cons, List.sum_cons]
      omega

theorem wholeMonths_eq (lengths : List Nat) (months left : Nat)
    (h : left < lengths[months]?.getD 0) :
    wholeMonths lengths ((lengths.take months).sum + left) = (months, left) := by
  induction lengths generalizing months with
  | nil => simp at h
  | cons first rest ih =>
    cases months with
    | zero => simpa [wholeMonths] using h
    | succ months =>
      have hr := ih months (by simpa using h)
      have hd : first + (rest.take months).sum + left - first = (rest.take months).sum + left := by
        omega
      simp only [List.take_succ_cons, List.sum_cons, wholeMonths, hd, hr]
      rw [if_neg (by omega)]

/-- The months up to one, its days included, fit into the months up to any later one. -/
theorem sum_take_add_le (lengths : List Nat) (months later : Nat) (h : months < later) :
    (lengths.take months).sum + lengths[months]?.getD 0 ≤ (lengths.take later).sum := by
  induction lengths generalizing months later with
  | nil => simp
  | cons first rest ih =>
    obtain ⟨later, rfl⟩ : ∃ n, later = n + 1 := ⟨later - 1, by omega⟩
    cases months with
    | zero => simp
    | succ months =>
      have := ih months later (by omega)
      simp only [List.take_succ_cons, List.sum_cons, List.getElem?_cons_succ]
      omega

end SheetFormulas.Calendar

namespace SheetFormulas.Date

open Calendar

theorem isValid_iff (d : Date) :
    d.isValid = true ↔ (1 ≤ d.year ∧ d.year ≤ lastYear) ∧ (1 ≤ d.month ∧ d.month ≤ 12) ∧
      1 ≤ d.day ∧ d.day ≤ monthLength d.year d.month := by
  simp [isValid, and_assoc]

/-- The day of the year of a valid date lies within the year. -/
theorem daysBeforeMonth_add_day_le {d : Date} (h : d.isValid) :
    daysBeforeMonth d.year d.month + d.day ≤ (monthLengths (isLeap d.year)).sum := by
  obtain ⟨-, ⟨hm1, hm2⟩, -, hd⟩ := (isValid_iff d).mp h
  have := sum_take_add_le (monthLengths (isLeap d.year)) (d.month - 1) 12 (by omega)
  rw [List.take_of_length_le (length_monthLengths _).le] at this
  rw [daysBeforeMonth_eq_sum]
  unfold monthLength at hd
  omega

theorem number_le {d : Date} (h : d.isValid) : d.number ≤ daysBeforeYear (d.year + 1) := by
  have := daysBeforeMonth_add_day_le h
  rw [daysBeforeYear_succ d.year ((isValid_iff d).mp h).1.1]
  unfold number
  omega

theorem number_le_lastDay {d : Date} (h : d.isValid) : d.number ≤ lastDay := by
  have hend : daysBeforeYear (lastYear + 1) = lastDay := by decide
  have hyear := daysBeforeYear_le (d.year + 1) (lastYear + 1) (by omega)
    (Nat.succ_le_succ ((isValid_iff d).mp h).1.2)
  have := number_le h
  omega

/-- The date of a valid date's day number is that date. -/
theorem dateOf_number {d : Date} (h : d.isValid) : dateOf d.number = d := by
  obtain ⟨⟨hy, -⟩, ⟨hm, -⟩, hd1, hd2⟩ := (isValid_iff d).mp h
  have hn := number_le h
  have hyear : yearAfter (d.number - 1) = d.year := by
    refine yearAfter_eq _ _ hy ?_ (by unfold number at hn ⊢; omega)
    unfold number
    omega
  have hleft : d.number - 1 - daysBeforeYear d.year =
      ((monthLengths (isLeap d.year)).take (d.month - 1)).sum + (d.day - 1) := by
    rw [← daysBeforeMonth_eq_sum]
    unfold number
    omega
  have hw := wholeMonths_eq (monthLengths (isLeap d.year)) (d.month - 1) (d.day - 1)
    (by unfold monthLength at hd2; omega)
  simp only [dateOf, hyear, hleft, hw]
  cases d
  simp only [Date.mk.injEq, true_and]
  dsimp only at hm hd1
  omega

end SheetFormulas.Date

namespace SheetFormulas.Calendar

theorem dateOf_year (n : Nat) : (dateOf n).year = yearAfter (n - 1) := rfl

/-- The month and the day of a day number lie within their year and their month. -/
theorem dateOf_spec (n : Nat) (h : 1 ≤ n) :
    (1 ≤ (dateOf n).month ∧ (dateOf n).month ≤ 12) ∧
      (1 ≤ (dateOf n).day ∧ (dateOf n).day ≤ monthLength (dateOf n).year (dateOf n).month) ∧
      (dateOf n).number = n := by
  obtain ⟨hy, low, high⟩ := yearAfter_spec (n - 1)
  rw [daysBeforeYear_succ _ hy] at high
  obtain ⟨hm, hd, hsum⟩ := wholeMonths_spec (monthLengths (isLeap (yearAfter (n - 1))))
    (n - 1 - daysBeforeYear (yearAfter (n - 1))) (by omega)
  rw [length_monthLengths] at hm
  unfold Date.number
  rw [daysBeforeMonth_eq_sum]
  simp only [dateOf, monthLength, Nat.add_sub_cancel]
  omega

/-- The day number of the date of a day number is that number. -/
theorem number_dateOf (n : Nat) (h : 1 ≤ n) : (dateOf n).number = n := (dateOf_spec n h).2.2

/-- Every day number of the calendar has a valid date. -/
theorem isValid_dateOf (n : Nat) (h : 1 ≤ n) (hl : n ≤ lastDay) : (dateOf n).isValid := by
  obtain ⟨hm, hd, -⟩ := dateOf_spec n h
  obtain ⟨hy, low, -⟩ := yearAfter_spec (n - 1)
  rw [Date.isValid_iff, dateOf_year]
  refine ⟨⟨hy, ?_⟩, hm, hd⟩
  by_contra hc
  have hend : daysBeforeYear (lastYear + 1) = lastDay := by decide
  have := daysBeforeYear_le (lastYear + 1) (yearAfter (n - 1)) (by decide) (by omega)
  omega

end SheetFormulas.Calendar

namespace SheetFormulas.Date

open Calendar

/-- Whether a date comes before another: by year, then by month, then by day of the month. -/
def Before (a b : Date) : Prop :=
  a.year < b.year ∨ a.year = b.year ∧ (a.month < b.month ∨ a.month = b.month ∧ a.day < b.day)

instance (a b : Date) : Decidable (a.Before b) := inferInstanceAs
  (Decidable (a.year < b.year ∨
    a.year = b.year ∧ (a.month < b.month ∨ a.month = b.month ∧ a.day < b.day)))

theorem Before.trans {a b c : Date} (hab : a.Before b) (hbc : b.Before c) : a.Before c := by
  unfold Before at *
  omega

theorem before_or_eq_or_before (a b : Date) : a.Before b ∨ a = b ∨ b.Before a := by
  cases a
  cases b
  simp only [Before, Date.mk.injEq]
  omega

/-- Among valid dates the earlier one has the smaller day number. -/
theorem number_lt_of_before {a b : Date} (ha : a.isValid) (hb : b.isValid) (h : a.Before b) :
    a.number < b.number := by
  obtain ⟨-, ⟨hm, -⟩, -, hd⟩ := (isValid_iff a).mp ha
  obtain ⟨-, -, hbd, -⟩ := (isValid_iff b).mp hb
  rcases h with hy | ⟨hy, hm' | ⟨hm', hd'⟩⟩
  · have hn := number_le ha
    have hl := daysBeforeYear_le (a.year + 1) b.year (by omega) hy
    unfold number at hn ⊢
    omega
  · have hs := sum_take_add_le (monthLengths (isLeap a.year)) (a.month - 1) (b.month - 1) (by omega)
    unfold monthLength at hd
    unfold number
    rw [daysBeforeMonth_eq_sum, daysBeforeMonth_eq_sum, ← hy]
    omega
  · unfold number
    rw [← hy, ← hm']
    omega

/-- Among valid dates the one with the smaller day number is the earlier one. -/
theorem before_of_number_lt {a b : Date} (ha : a.isValid) (hb : b.isValid)
    (h : a.number < b.number) : a.Before b := by
  rcases before_or_eq_or_before a b with hab | rfl | hba
  · exact hab
  · exact absurd h (Nat.lt_irrefl _)
  · exact absurd (number_lt_of_before hb ha hba) (by omega)

end SheetFormulas.Date
