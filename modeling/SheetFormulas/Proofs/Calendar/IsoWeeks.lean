import SheetFormulas.Proofs.Calendar.WeekNumbers

/-!
Weeks that belong to the year of their Thursday against days of the week. In the calendar the number
of such a week changes exactly on Mondays, over the ends of years too. The serials up to the phantom
day are called by the day of the week before, so there it changes on the day that is called Sunday.
-/

namespace SheetFormulas

namespace Calendar

/-- The week of the year of the day after `days` days, where the year begins with week one. -/
def weekAfterDays (days : Nat) : Nat := (days - daysBeforeYear (yearAfter days)) / 7 + 1

/-- A week later the week is the next one, or the first one after a year of 52 weeks at least. -/
theorem weekAfterDays_add_seven (days : Nat) :
    weekAfterDays (days + 7) = weekAfterDays days + 1 ∨
      weekAfterDays (days + 7) = 1 ∧ 52 ≤ weekAfterDays days := by
  obtain ⟨hpos, hlow, hhigh⟩ := yearAfter_spec days
  obtain ⟨-, hlow', hhigh'⟩ := yearAfter_spec (days + 7)
  unfold weekAfterDays
  rcases lt_trichotomy (yearAfter (days + 7)) (yearAfter days) with hlt | heq | hgt
  · have := daysBeforeYear_le (yearAfter (days + 7) + 1) (yearAfter days) (by omega) hlt
    omega
  · rw [heq] at hlow' ⊢
    omega
  · -- the new year began less than a week ago, and the old one lasted 365 days at least
    have hnext := daysBeforeYear_le (yearAfter days + 1) (yearAfter (days + 7)) (by omega) hgt
    have hlength := daysBeforeYear_succ (yearAfter days) hpos
    have hyear : 365 ≤ (monthLengths (isLeap (yearAfter days))).sum := by
      cases isLeap (yearAfter days) <;> decide
    omega

/-- A day lies in the week of the Thursday that comes after the last Monday. -/
theorem isoWeek_dateOf {n : Nat} (h : 1 ≤ n) :
    (dateOf n).isoWeek = weekAfterDays ((n - 1) / 7 * 7 + 3) := by
  have hthursday : n - (n + 6) % 7 + 3 - 1 = (n - 1) / 7 * 7 + 3 := by omega
  unfold Date.isoWeek Date.weekday weekAfterDays
  dsimp only
  rw [number_dateOf n h, hthursday]

theorem weekday_dateOf {n : Nat} (h : 1 ≤ n) : (dateOf n).weekday = (n + 6) % 7 := by
  rw [Date.weekday, number_dateOf n h]

/-- From one day to the next the week changes exactly if the next day is a Monday. -/
theorem isoWeek_succ_ne_iff {n : Nat} (h : 1 ≤ n) :
    (dateOf (n + 1)).isoWeek ≠ (dateOf n).isoWeek ↔ (dateOf (n + 1)).weekday = 0 := by
  rw [isoWeek_dateOf h, isoWeek_dateOf (by omega), weekday_dateOf (by omega), Nat.add_sub_cancel]
  by_cases hmonday : (n + 1 + 6) % 7 = 0
  · have hweek : n / 7 * 7 + 3 = (n - 1) / 7 * 7 + 3 + 7 := by omega
    have := weekAfterDays_add_seven ((n - 1) / 7 * 7 + 3)
    rw [hweek]
    omega
  · have hweek : n / 7 * 7 + 3 = (n - 1) / 7 * 7 + 3 := by omega
    rw [hweek]
    omega

end Calendar

namespace Dates

open Calendar

/-- The day of the week of a serial where weeks start on Monday, Monday being one. -/
def weekdayFromMonday (serial : Nat) : Nat := (serial + 5) % 7 + 1

/-- From one serial to the next the week changes on the day called Sunday before the phantom day,
and from then on on the day called Monday. -/
theorem isoWeek_serial_succ_ne_iff {serial : Nat} (h : 1 ≤ serial) :
    (dateOf (Serial.dayNumber (serial + 1))).isoWeek ≠ (dateOf (Serial.dayNumber serial)).isoWeek ↔
      weekdayFromMonday (serial + 1) = if serial + 1 < 60 then 7 else 1 := by
  unfold weekdayFromMonday
  by_cases hphantom : serial = Serial.phantom
  · -- the phantom day is read as the day after it
    subst hphantom
    decide
  · have hpos := Serial.lt_dayNumber h
    have hnext : Serial.dayNumber (serial + 1) = Serial.dayNumber serial + 1 := by
      unfold Serial.dayNumber Serial.phantom at *
      split_ifs <;> omega
    rw [hnext, isoWeek_succ_ne_iff (by omega), weekday_dateOf (by omega)]
    unfold Serial.dayNumber Serial.epoch Serial.phantom at *
    split_ifs <;> omega

section Calls

variable (context : Context) {serial : Nat}

theorem call_weekday_monday_yields (hl : serial ≤ Serial.last) :
    (Catalog.standard.call context "WEEKDAY" [.ofNat serial, .ofInt 2] []).Yields
      (.ok (.ofNat (weekdayFromMonday serial))) [] := by
  have hcall := call_weekday_yields context hl (Number.hasDouble_int_of_lt (by decide))
    (show weekStart? 2 = some 1 from rfl) (by decide)
  have hday : daysInto 1 (Serial.dayOfWeek serial) + 1 = weekdayFromMonday serial := by
    rw [Serial.dayOfWeek_natCast]
    unfold daysInto weekdayFromMonday
    omega
  rwa [hday] at hcall

theorem call_isoWeek_yields (h : 1 ≤ serial) (hl : serial ≤ Serial.last) :
    (Catalog.standard.call context "WEEKNUM" [.ofNat serial, .ofInt 21] []).Yields
      (.ok (.ofNat (dateOf (Serial.dayNumber serial)).isoWeek)) [] := by
  have htype : (Value.ofInt 21).toInt = .ok 21 :=
    Value.toInt_ofInt_of_hasDouble (Number.hasDouble_int_of_lt (by decide))
  have hweek : weekNumber context.now (.ofNat serial) (.ofInt 21) =
      .ok (dateOf (Serial.dayNumber serial)).isoWeek := by
    rw [weekNumber, dayOf_ofNat hl, htype, Outcome.ok_bind, Outcome.ok_bind, weekNumberOf,
      if_pos rfl, Serial.date_of_pos (by omega)]
    rfl
  exact Catalog.standard_call_yields_ok rfl rfl rfl rfl hweek

/-- From one serial to the next the week by Thursdays changes exactly on the day that is called
Monday from the phantom day on, and on the one that is called Sunday before it. -/
theorem iso_week_changes_on_monday (h : 1 ≤ serial) (hl : serial < 2958465) :
    ∃ day week next : Nat,
      (Catalog.standard.call context "WEEKDAY" [.ofNat (serial + 1), .ofInt 2] []).Yields
        (.ok (.ofNat day)) [] ∧
      (Catalog.standard.call context "WEEKNUM" [.ofNat serial, .ofInt 21] []).Yields
        (.ok (.ofNat week)) [] ∧
      (Catalog.standard.call context "WEEKNUM" [.ofNat (serial + 1), .ofInt 21] []).Yields
        (.ok (.ofNat next)) [] ∧
      (next ≠ week ↔ day = if serial + 1 < 60 then 7 else 1) :=
  ⟨_, _, _, call_weekday_monday_yields context hl, call_isoWeek_yields context h (Nat.le_of_lt hl),
    call_isoWeek_yields context (Nat.le_add_left 1 serial) hl, isoWeek_serial_succ_ne_iff h⟩

end Calls

/-- The last day of 2023 is called Sunday, and the day after it begins a week. -/
theorem iso_week_changes_on_monday_of_new_year :
    let context : Context := ⟨⟨⟨2024, 1, 15⟩, .midnight⟩, fun _ => fail .arguments⟩
    (1 ≤ 45291 ∧ 45291 < 2958465) ∧
    ∃ day week next : Nat,
      (Catalog.standard.call context "WEEKDAY" [.ofNat 45292, .ofInt 2] []).Yields
        (.ok (.ofNat day)) [] ∧
      (Catalog.standard.call context "WEEKNUM" [.ofNat 45291, .ofInt 21] []).Yields
        (.ok (.ofNat week)) [] ∧
      (Catalog.standard.call context "WEEKNUM" [.ofNat 45292, .ofInt 21] []).Yields
        (.ok (.ofNat next)) [] ∧
      (next ≠ week ↔ day = 1) := by
  intro context
  have hrange : 1 ≤ 45291 ∧ 45291 < 2958465 := by decide
  exact ⟨hrange, iso_week_changes_on_monday context hrange.1 hrange.2⟩

/-- The week does not change on the day called Monday throughout: the second day of January 1900 is
called so, and lies in the week of the day before. -/
theorem iso_week_kept_on_first_monday :
    let context : Context := ⟨⟨⟨2024, 1, 15⟩, .midnight⟩, fun _ => fail .arguments⟩
    ¬ ∀ serial : Nat, 1 ≤ serial → serial < 2958465 → ∃ day week next : Nat,
      (Catalog.standard.call context "WEEKDAY" [.ofNat (serial + 1), .ofInt 2] []).Yields
        (.ok (.ofNat day)) [] ∧
      (Catalog.standard.call context "WEEKNUM" [.ofNat serial, .ofInt 21] []).Yields
        (.ok (.ofNat week)) [] ∧
      (Catalog.standard.call context "WEEKNUM" [.ofNat (serial + 1), .ofInt 21] []).Yields
        (.ok (.ofNat next)) [] ∧
      (next ≠ week ↔ day = 1) := by
  intro context h
  obtain ⟨day, week, next, hday, hweek, hnext, hchange⟩ := h 1 (by decide) (by decide)
  have hmonday := call_weekday_monday_yields context (show 2 ≤ Serial.last by decide)
  have hfirst := call_isoWeek_yields context le_rfl (show 1 ≤ Serial.last by decide)
  have hsecond :=
    call_isoWeek_yields context (show 1 ≤ 2 by decide) (show 2 ≤ Serial.last by decide)
  have hone : weekdayFromMonday 2 = 1 := rfl
  have hsame : (dateOf (Serial.dayNumber 2)).isoWeek = (dateOf (Serial.dayNumber 1)).isoWeek := by
    decide
  rw [hone] at hmonday
  rw [hsame] at hsecond
  obtain rfl := Value.ofNat_injective (Except.ok.inj (hday.unique hmonday).1)
  obtain rfl := Value.ofNat_injective (Except.ok.inj (hweek.unique hfirst).1)
  obtain rfl := Value.ofNat_injective (Except.ok.inj (hnext.unique hsecond).1)
  exact hchange.mpr rfl rfl

end Dates

end SheetFormulas
