import Mathlib.Algebra.BigOperators.Intervals
import SheetFormulas.Proofs.Calendar.DayNumber

/-!
Months without a first or a last one. In the calendar continued in both directions a month is the
number of months since January of the year zero, and its first day is found by adding up the lengths
of months, or taking them away. In the years of the calendar these are the months of its dates.
-/

namespace SheetFormulas.Calendar

/-- Whether a year, one before the first or after the last one too, has a February 29th. -/
def IsLeapYear (year : Int) : Prop := 4 ∣ year ∧ (100 ∣ year → 400 ∣ year)

instance (year : Int) : Decidable (IsLeapYear year) :=
  inferInstanceAs (Decidable (4 ∣ year ∧ (100 ∣ year → 400 ∣ year)))

/-- The number of days of a month. -/
def daysIn (month : Int) : Nat :=
  match month % 12 with
  | 1 => if IsLeapYear (month / 12) then 29 else 28
  | 3 | 5 | 8 | 10 => 30
  | _ => 31

/-- The day number of the first day of a month: the days of the months from January of the year one
up to it are added to that month's first day, or those of the months before taken away. -/
def firstDay (month : Int) : Int :=
  1 + ∑ i ∈ Finset.range (month - 12).toNat, (daysIn (12 + i) : Int) -
    ∑ i ∈ Finset.range (12 - month).toNat, (daysIn (month + i) : Int)

/-- Whether a month lies in a year of the calendar. -/
def InYears (month : Int) : Prop := 1 ≤ month / 12 ∧ month / 12 ≤ lastYear

instance (month : Int) : Decidable (InYears month) :=
  inferInstanceAs (Decidable (1 ≤ month / 12 ∧ month / 12 ≤ lastYear))

/-- A day of a month as a date. -/
def inMonth (month : Int) (day : Nat) : Date := ⟨(month / 12).toNat, (month % 12).toNat + 1, day⟩

theorem inMonth_eq {year month : Nat} (h : 1 ≤ month ∧ month ≤ 12) (day : Nat) :
    inMonth (year * 12 + ((month : Int) - 1)) day = ⟨year, month, day⟩ := by
  have hyear : (year * 12 + ((month : Int) - 1)) / 12 = year := by omega
  have hmonth : ((year * 12 + ((month : Int) - 1)) % 12).toNat + 1 = month := by omega
  rw [inMonth, hyear, hmonth, Int.toNat_natCast]

theorem isLeap_eq (year : Nat) : isLeap year = decide (IsLeapYear year) := by
  rw [Bool.eq_iff_iff, decide_eq_true_iff]
  unfold isLeap IsLeapYear
  simp only [Bool.and_eq_true, Bool.or_eq_true, beq_iff_eq, bne_iff_ne]
  omega

theorem daysIn_eq_monthLength {month : Int} (h : 0 ≤ month) (day : Nat) :
    daysIn month = monthLength (inMonth month day).year (inMonth month day).month := by
  have hyear : ((month / 12).toNat : Int) = month / 12 := by omega
  have hmonth : 0 ≤ month % 12 ∧ month % 12 < 12 := by omega
  unfold daysIn monthLength inMonth
  dsimp only
  rw [isLeap_eq, hyear]
  generalize month % 12 = place at hmonth
  obtain ⟨low, high⟩ := hmonth
  by_cases hleap : IsLeapYear (month / 12) <;> interval_cases place <;>
    simp [hleap, monthLengths]

theorem daysIn_between (month : Int) : 28 ≤ daysIn month ∧ daysIn month ≤ 31 := by
  unfold daysIn
  split
  · split <;> omega
  all_goals omega

/-- The first of the next month is as many days later as the month has. -/
theorem firstDay_succ (month : Int) : firstDay (month + 1) = firstDay month + daysIn month := by
  unfold firstDay
  -- from January of the year one on the first sum gains a month, before it the second one loses one
  rcases le_or_gt 12 month with h | h
  · have hcount : (month + 1 - 12).toNat = (month - 12).toNat + 1 := by omega
    have hlast : 12 + ((month - 12).toNat : Int) = month := by omega
    have hnone : (12 - month).toNat = 0 ∧ (12 - (month + 1)).toNat = 0 := by omega
    rw [hcount, Finset.sum_range_succ, hlast, hnone.1, hnone.2]
    simp only [Finset.sum_range_zero]
    omega
  · have hcount : (12 - month).toNat = (12 - (month + 1)).toNat + 1 := by omega
    have hnone : (month - 12).toNat = 0 ∧ (month + 1 - 12).toNat = 0 := by omega
    have hnext (i : Nat) : month + ((i + 1 : Nat) : Int) = month + 1 + i := by omega
    rw [hcount, Finset.sum_range_succ', hnone.1, hnone.2]
    simp only [hnext, Nat.cast_zero, add_zero]
    omega

theorem daysBeforeMonth_succ (year : Nat) {month : Nat} (h : 1 ≤ month) (hl : month ≤ 12) :
    daysBeforeMonth year (month + 1) = daysBeforeMonth year month + monthLength year month := by
  obtain ⟨past, rfl⟩ : ∃ past, month = past + 1 := ⟨month - 1, by omega⟩
  have hpast : past < (monthLengths (isLeap year)).length := hl
  rw [daysBeforeMonth_eq_sum, daysBeforeMonth_eq_sum, monthLength, Nat.add_sub_cancel,
    Nat.add_sub_cancel, List.sum_take_succ _ _ hpast, List.getElem?_eq_getElem hpast]
  rfl

theorem daysBeforeYear_next {year : Nat} (h : 1 ≤ year) :
    daysBeforeYear (year + 1) = daysBeforeYear year + daysBeforeMonth year 13 := by
  rw [daysBeforeYear_succ year h, daysBeforeMonth_eq_sum]
  rfl

/-- The first of the next month is as many days later, over the end of a year too. -/
theorem number_inMonth_succ {month : Int} (h : 12 ≤ month) :
    (inMonth (month + 1) 1).number = (inMonth month 1).number + daysIn month := by
  rw [daysIn_eq_monthLength (by omega) 1]
  unfold inMonth Date.number
  dsimp only
  -- only after December the year changes too
  by_cases hdecember : month % 12 = 11
  · have hyear : ((month + 1) / 12).toNat = (month / 12).toNat + 1 := by omega
    have hmonth : ((month + 1) % 12).toNat = 0 := by omega
    have hlast : daysBeforeMonth (month / 12).toNat 13 = _ :=
      daysBeforeMonth_succ _ (by decide) le_rfl
    have hjanuary (year : Nat) : daysBeforeMonth year (0 + 1) = 0 := rfl
    have htwelve : (month % 12).toNat + 1 = 12 := by omega
    rw [hyear, hmonth, htwelve, daysBeforeYear_next (by omega), hjanuary, hlast]
    omega
  · have hyear : (month + 1) / 12 = month / 12 := by omega
    have hmonth : ((month + 1) % 12).toNat = (month % 12).toNat + 1 := by omega
    have hstep := daysBeforeMonth_succ (month / 12).toNat
      (show 1 ≤ (month % 12).toNat + 1 by omega) (by omega)
    rw [hyear, hmonth, hstep]
    omega

/-- From the year one on, the first days of months have the day numbers of their dates. -/
theorem number_inMonth_one {month : Int} (h : 12 ≤ month) :
    ((inMonth month 1).number : Int) = firstDay month := by
  induction month, h using Int.leInduction with
  | base => rfl
  | succ month h ih =>
    rw [number_inMonth_succ h, firstDay_succ, ← ih, Nat.cast_add]

theorem InYears.le {month : Int} (h : InYears month) : 12 ≤ month := by
  have := h.1
  omega

theorem isValid_inMonth {month : Int} (h : InYears month) {day : Nat} (h1 : 1 ≤ day)
    (hd : day ≤ daysIn month) : (inMonth month day).isValid := by
  rw [daysIn_eq_monthLength (by have := h.le; omega) day] at hd
  obtain ⟨hfirst, hlast⟩ := h
  rw [Date.isValid_iff]
  refine ⟨?_, ?_, h1, hd⟩ <;> unfold inMonth <;> dsimp only <;> omega

end SheetFormulas.Calendar

namespace SheetFormulas.Date

open Calendar

/-- The months from January of the year zero to the month of a date. -/
def monthIndex (d : Date) : Int := d.year * 12 + ((d.month : Int) - 1)

theorem monthIndex_january (year day : Nat) : monthIndex ⟨year, 1, day⟩ = year * 12 := by
  unfold monthIndex
  dsimp only
  omega

/-- Some months after a date, or before it, lies the month that many months away, with the day that
was asked for or the last one of that month. -/
theorem shiftMonths?_eq {d : Date} (hm : 1 ≤ d.month) (months : Int) (day : Nat) :
    d.shiftMonths? months day =
      if InYears (d.monthIndex + months) then
        some (inMonth (d.monthIndex + months) (min day (daysIn (d.monthIndex + months))))
      else none := by
  have hindex : (d.year * 12 + (d.month - 1 : Nat) + months : Int) = d.monthIndex + months := by
    unfold monthIndex
    omega
  unfold shiftMonths? clipped
  dsimp only
  rw [hindex]
  refine ite_congr rfl (fun h => ?_) fun _ => rfl
  have hlow : 12 ≤ d.monthIndex + months := InYears.le h
  rw [daysIn_eq_monthLength (by omega) day]
  rfl

end SheetFormulas.Date
