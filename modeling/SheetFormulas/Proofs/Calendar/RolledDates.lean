import SheetFormulas.Proofs.Calendar.SerialParts
import SheetFormulas.Proofs.Catalog.Call

/-!
Dates with months and days outside their ranges. Such a date is the day that the calendar comes to
when months are counted from the year's first one and days from that month's first one, as long as
that month lies in the years of the calendar. From any other month there is no date, not even for
days that lead back into the calendar.
-/

namespace SheetFormulas.Dates

open Calendar

/-- The day number of a day of a month, where the months are counted from January of a year and the
days from the first of that month. -/
def rolledDay (year month day : Int) : Int := firstDay (year * 12 + (month - 1)) + (day - 1)

/-- The answer for a day: the days from December 31st, 1899 to it, one more from March 1st, 1900 on,
and no number for a day before these or after the year 9999. -/
def serialAnswer (day : Int) : Value :=
  if (Date.number ⟨1899, 12, 31⟩ : Int) ≤ day ∧ day ≤ Date.number ⟨9999, 12, 31⟩ then
    .ofInt (day - Date.number ⟨1899, 12, 31⟩ + if Date.number ⟨1900, 3, 1⟩ ≤ day then 1 else 0)
  else .error .badNumber

/-- The 13th month of a year is January of the next one. -/
theorem rolledDay_thirteen (year : Nat) (h : 1 ≤ year) (day : Int) :
    rolledDay year 13 day = Date.number ⟨year + 1, 1, 1⟩ + (day - 1) := by
  have hmonth : (year : Int) * 12 + (13 - 1) =
      ((year + 1 : Nat) : Int) * 12 + (((1 : Nat) : Int) - 1) := by omega
  unfold rolledDay
  rw [hmonth, ← number_inMonth_one (by omega), inMonth_eq (by decide)]

/-- A date some days away answers with its serial. -/
theorem answer_addDays? (d : Date) (days : Int) :
    Value.answer (Answer.toValue <$> serialOfDate? (d.addDays? days)) =
      .ok (serialAnswer (d.number + days)) := by
  have hfirst : Date.number ⟨1899, 12, 31⟩ = Serial.epoch + 1 := by decide
  have hmarch : Date.number ⟨1900, 3, 1⟩ = Serial.epoch + Serial.phantom + 1 := by decide
  have hlast : Date.number ⟨9999, 12, 31⟩ = lastDay := by decide
  unfold Date.addDays? serialAnswer
  dsimp only
  rw [hfirst, hmarch, hlast]
  -- a day may lie outside the calendar, in it but before day zero, or among the serials
  by_cases hcalendar : 1 ≤ (d.number : Int) + days ∧ (d.number : Int) + days ≤ lastDay
  · rw [if_pos hcalendar]
    obtain ⟨number, hnumber⟩ := Int.eq_ofNat_of_zero_le (by omega : 0 ≤ (d.number : Int) + days)
    rw [hnumber] at hcalendar ⊢
    rw [Int.toNat_natCast]
    unfold serialOfDate?
    dsimp only
    by_cases hepoch : Serial.epoch < number
    · have hrange : ((Serial.epoch + 1 : Nat) : Int) ≤ number ∧ (number : Int) ≤ lastDay := by
        omega
      rw [Serial.ofDate_dateOf hepoch, if_pos hrange]
      refine congrArg (fun n => Except.ok (Value.ofInt n)) ?_
      split_ifs <;> omega
    · have hbefore : (dateOf number).number ≤ Serial.epoch := by
        rw [number_dateOf number (by omega)]
        omega
      rw [Serial.ofDate_of_le hbefore, if_neg (by omega)]
      rfl
  · rw [if_neg hcalendar, if_neg (by unfold Serial.epoch; omega)]
    rfl

/-- A year, a month and a day of any size answer with the serial of the day that the calendar rolls
over to if the month that is rolled over to lies in the calendar. Otherwise the answer is an error
value, whatever the day is. -/
theorem date_rolls_over_unless_month_outside (context : Context) {year month day : Int}
    (hy : 1900 ≤ year ∧ year ≤ 9999) (hm : (Number.int month).hasDouble = true)
    (hd : (Number.int day).hasDouble = true) :
    (InYears (year * 12 + (month - 1)) →
      (Catalog.standard.call context "DATE" [.ofInt year, .ofInt month, .ofInt day] []).Yields
        (.ok (serialAnswer (rolledDay year month day))) []) ∧
    (¬ InYears (year * 12 + (month - 1)) →
      (Catalog.standard.call context "DATE" [.ofInt year, .ofInt month, .ofInt day] []).Yields
        (.ok (.error .badNumber)) []) := by
  have hcall : (Catalog.standard.call context "DATE"
      [.ofInt year, .ofInt month, .ofInt day] []).Yields _ [] :=
    Catalog.standard_call_yields_answer rfl rfl rfl rfl
  have hcast : ((year.toNat : Nat) : Int) = year := Int.toNat_of_nonneg (by omega)
  rw [date_ofInt hy hm hd, rolledDate?_eq_addDays?, hcast] at hcall
  constructor
  · intro hmonth
    have hday : ((inMonth (year * 12 + (month - 1)) 1).number : Int) + (day - 1) =
        rolledDay year month day := by
      rw [number_inMonth_one hmonth.le]
      rfl
    rwa [if_pos hmonth, answer_addDays?, hday] at hcall
  · intro hmonth
    rwa [if_neg hmonth] at hcall

/-- The 13th month of 2024 is January of the next year. The day before the first one of the 13th
month of 9999 is December 31st of that year, but there is no such month and so no date. -/
theorem date_rolls_over_unless_month_outside_at_last_day :
    let context : Context := ⟨⟨⟨2024, 1, 15⟩, .midnight⟩, fun _ => fail .arguments⟩
    ((Number.int 13).hasDouble = true ∧ (Number.int 1).hasDouble = true ∧
      (Number.int 0).hasDouble = true) ∧
    (InYears (2024 * 12 + (13 - 1)) ∧
      (Catalog.standard.call context "DATE" [.ofInt 2024, .ofInt 13, .ofInt 1] []).Yields
        (.ok (.ofInt 45658)) []) ∧
    ¬ InYears (9999 * 12 + (13 - 1)) ∧
      rolledDay 9999 13 0 = Date.number ⟨9999, 12, 31⟩ ∧
      serialAnswer (rolledDay 9999 13 0) = .ofInt 2958465 ∧
      (Catalog.standard.call context "DATE" [.ofInt 9999, .ofInt 13, .ofInt 0] []).Yields
        (.ok (.error .badNumber)) [] := by
  intro context
  have hdouble (n : Int) (hn : n.natAbs < 20) : (Number.int n).hasDouble = true :=
    Number.hasDouble_int_of_lt (by omega)
  have hthirteen := hdouble 13 (by decide)
  have hone := hdouble 1 (by decide)
  have hzero := hdouble 0 (by decide)
  have hjanuary : rolledDay 2024 13 1 = Date.number ⟨2025, 1, 1⟩ :=
    (rolledDay_thirteen 2024 (by decide) 1).trans (by decide)
  have hdecember : rolledDay 9999 13 0 = Date.number ⟨9999, 12, 31⟩ :=
    (rolledDay_thirteen 9999 (by decide) 0).trans (by decide)
  have hinside : InYears (2024 * 12 + (13 - 1)) := by decide
  have houtside : ¬ InYears (9999 * 12 + (13 - 1)) := by decide
  have hyear : (1900 : Int) ≤ 2024 ∧ (2024 : Int) ≤ 9999 := by decide
  have hlastYear : (1900 : Int) ≤ 9999 ∧ (9999 : Int) ≤ 9999 := by decide
  have hnext :=
    (date_rolls_over_unless_month_outside context hyear hthirteen hone).1 hinside
  have hlast :=
    (date_rolls_over_unless_month_outside context hlastYear hthirteen hzero).2 houtside
  rw [hjanuary] at hnext
  refine ⟨⟨hthirteen, hone, hzero⟩, ⟨hinside, hnext⟩, houtside, hdecember, ?_, hlast⟩
  rw [hdecember]
  rfl

end SheetFormulas.Dates
