import SheetFormulas.Proofs.Calendar.EverySerial

/-!
Weeks of the year against days of the week. From one day to the next in the same year the number of
the week goes up exactly on the day that the week starts with, and January 1st is in week one.
-/

namespace SheetFormulas

theorem Date.isValid_january {year : Nat} (h : 1 ≤ year ∧ year ≤ Calendar.lastYear) :
    (⟨year, 1, 1⟩ : Date).isValid := by
  have hlength : Calendar.monthLength year 1 = 31 := rfl
  rw [Date.isValid_iff]
  exact ⟨h, by simp, le_rfl, by dsimp only; omega⟩

namespace Serial

open Calendar

/-- Every serial shows a year of the calendar from 1900 on and a month; only day zero shows no day. -/
theorem parts_spec {serial : Nat} (h : serial ≤ last) :
    (1900 ≤ (parts serial).year ∧ (parts serial).year ≤ lastYear) ∧ 1 ≤ (parts serial).month ∧
      (serial ≠ 0 → 1 ≤ (parts serial).day) := by
  rcases Nat.eq_zero_or_pos serial with rfl | hpos
  · decide
  by_cases hp : serial = phantom
  · subst hp
    decide
  · have hday := lt_dayNumber hpos
    obtain ⟨⟨hmonth, -⟩, ⟨hfirst, -⟩, -⟩ := dateOf_spec (dayNumber serial) (by omega)
    rw [parts_of_ne hpos hp]
    exact ⟨year_between hpos.ne' h, hmonth, fun _ => hfirst⟩

/-- January 1st of the year of a serial is not after it, day zero excepted. -/
theorem exists_januaryFirst {serial : Nat} (h : serial ≤ last) :
    ∃ first, ofDate ⟨(parts serial).year, 1, 1⟩ = .ok first ∧ first ≤ serial + 1 := by
  obtain ⟨⟨hlow, hhigh⟩, -⟩ := parts_spec h
  obtain ⟨first, ⟨-, hl, -⟩, hfirst, hparts⟩ :=
    exists_ofDate_eq (Date.isValid_january ⟨by omega, hhigh⟩) hlow
  refine ⟨first, hfirst, ?_⟩
  by_contra hlater
  -- the next serial would come before January 1st of a year that it is not before
  obtain ⟨-, hmonth, hday⟩ := parts_spec (show serial + 1 ≤ last by omega)
  have hnext := parts_before (show serial < serial + 1 by omega) (by omega)
  have hbefore := parts_before (show serial + 1 < first by omega) hl
  have hone := hday (Nat.succ_ne_zero serial)
  rw [hparts] at hbefore
  unfold Date.Before at hnext hbefore
  dsimp only at hbefore
  omega

end Serial

namespace Dates

open Calendar

theorem weekStart?_isSome {type : Int} (h : type ∈ [1, 2, 11, 12, 13, 14, 15, 16, 17]) :
    ∃ start < 7, weekStart? type = some start ∧ type ≠ 3 ∧ type ≠ 21 := by
  simp only [List.mem_cons, List.not_mem_nil, or_false] at h
  rcases h with rfl | rfl | rfl | rfl | rfl | rfl | rfl | rfl | rfl <;>
    exact ⟨_, by decide, rfl, by decide, by decide⟩

/-- The week goes up with the day that starts it, from the day before January 1st on. -/
theorem weekAfter_succ {start first serial : Nat} (hs : start < 7) (hf : first ≤ serial + 1) :
    weekAfter start first (serial + 1) =
      if daysInto start (Serial.dayOfWeek (serial + 1 : Nat)) + 1 = 1 then
        weekAfter start first serial + 1
      else weekAfter start first serial := by
  unfold weekAfter daysInto
  rw [Serial.dayOfWeek_natCast, Serial.dayOfWeek_natCast]
  split <;> omega

theorem weekAfter_self {start : Nat} (first : Nat) : weekAfter start first first = 1 := by
  unfold weekAfter daysInto
  omega

section Calls

variable (context : Context) {type : Int} {start serial : Nat}

theorem call_weekday_yields (hl : serial ≤ Serial.last) (ht : (Number.int type).hasDouble = true)
    (hs : weekStart? type = some start) (h3 : type ≠ 3) :
    (Catalog.standard.call context "WEEKDAY" [.ofNat serial, .ofInt type] []).Yields
      (.ok (.ofNat (daysInto start (Serial.dayOfWeek serial) + 1))) [] := by
  have hday : weekday context.now (.ofNat serial) (.ofInt type) =
      .ok (daysInto start (Serial.dayOfWeek serial) + 1) := by
    rw [weekday, dayOf_ofNat hl, Value.toInt_ofInt_of_hasDouble ht, Outcome.ok_bind,
      Outcome.ok_bind, weekdayOf, if_neg h3, hs]
  exact Catalog.standard_call_yields_ok rfl rfl rfl rfl hday

theorem call_weekNumber_yields (hl : serial ≤ Serial.last)
    (ht : (Number.int type).hasDouble = true) (hs : weekStart? type = some start)
    (h21 : type ≠ 21) {first : Nat}
    (hf : Serial.ofDate ⟨(Serial.parts serial).year, 1, 1⟩ = .ok first) :
    (Catalog.standard.call context "WEEKNUM" [.ofNat serial, .ofInt type] []).Yields
      (.ok (.ofNat (weekAfter start first serial))) [] := by
  have hweek : weekNumber context.now (.ofNat serial) (.ofInt type) =
      .ok (weekAfter start first serial) := by
    rw [weekNumber, dayOf_ofNat hl, Value.toInt_ofInt_of_hasDouble ht, Outcome.ok_bind,
      Outcome.ok_bind, weekNumberOf, if_neg h21, hs]
    dsimp only
    rw [hf]
    rfl
  exact Catalog.standard_call_yields_ok rfl rfl rfl rfl hweek

end Calls

theorem year_ofNat (now : Moment) {serial : Nat} (h : serial ≤ Serial.last) :
    year now (.ofNat serial) = .ok (Serial.parts serial).year := by
  rw [year, dayOf_ofNat h]
  rfl

/-- For each type that has a first day of the week, from one serial to the next of the same year the
week goes up exactly on that day, and January 1st of each year lies in week one. -/
theorem week_advances_on_first_weekday (context : Context) {type : Int}
    (ht : type ∈ [1, 2, 11, 12, 13, 14, 15, 16, 17]) :
    (∀ serial : Nat, serial < 2958465 →
      year context.now (.ofNat serial) = year context.now (.ofNat (serial + 1)) →
      ∃ day week : Nat,
        (Catalog.standard.call context "WEEKDAY" [.ofNat (serial + 1), .ofInt type] []).Yields
          (.ok (.ofNat day)) [] ∧
        (Catalog.standard.call context "WEEKNUM" [.ofNat serial, .ofInt type] []).Yields
          (.ok (.ofNat week)) [] ∧
        (Catalog.standard.call context "WEEKNUM" [.ofNat (serial + 1), .ofInt type] []).Yields
          (.ok (.ofNat (if day = 1 then week + 1 else week))) []) ∧
    ∀ year : Nat, 1900 ≤ year → year ≤ 9999 →
      ∃ serial : Nat,
        (Catalog.standard.call context "DATE" [.ofNat year, .ofNat 1, .ofNat 1] []).Yields
          (.ok (.ofNat serial)) [] ∧
        (Catalog.standard.call context "WEEKNUM" [.ofNat serial, .ofInt type] []).Yields
          (.ok (.ofNat 1)) [] := by
  obtain ⟨start, hstart, hs, h3, h21⟩ := weekStart?_isSome ht
  have hdouble : (Number.int type).hasDouble = true := by
    refine Number.hasDouble_int_of_lt ?_
    simp only [List.mem_cons, List.not_mem_nil, or_false] at ht
    omega
  constructor
  · intro serial hserial hyear
    have hl : serial + 1 ≤ Serial.last := hserial
    obtain ⟨first, hfirst, hle⟩ := Serial.exists_januaryFirst (Nat.le_of_succ_le hl)
    rw [year_ofNat _ (Nat.le_of_succ_le hl), year_ofNat _ hl] at hyear
    have hfirst' := hfirst
    rw [Except.ok.inj hyear] at hfirst'
    have hday := call_weekday_yields context hl hdouble hs h3
    have hweek := call_weekNumber_yields context (Nat.le_of_succ_le hl) hdouble hs h21 hfirst
    have hnext := call_weekNumber_yields context hl hdouble hs h21 hfirst'
    rw [weekAfter_succ hstart hle] at hnext
    exact ⟨_, _, hday, hweek, hnext⟩
  · intro year hlow hhigh
    obtain ⟨serial, ⟨-, hl, -⟩, hserial, hparts⟩ :=
      Serial.exists_ofDate_eq (Date.isValid_january ⟨by omega, hhigh⟩) hlow
    have hdate := date_ofDate (Date.isValid_january ⟨by omega, hhigh⟩) hlow
    rw [hserial] at hdate
    have hfirst : Serial.ofDate ⟨(Serial.parts serial).year, 1, 1⟩ = .ok serial := by
      rw [hparts]
      exact hserial
    have hweek := call_weekNumber_yields context hl hdouble hs h21 hfirst
    rw [weekAfter_self] at hweek
    exact ⟨serial, Catalog.standard_call_yields_ok rfl rfl rfl rfl hdate, hweek⟩

/-- With weeks from Monday on, from Sunday, January 7th, 2024 to the day after. -/
theorem week_advances_on_first_weekday_monday :
    let context : Context := ⟨⟨⟨2024, 1, 15⟩, .midnight⟩, fun _ => fail .arguments⟩
    ((2 : Int) ∈ [1, 2, 11, 12, 13, 14, 15, 16, 17] ∧
      year context.now (.ofNat 45298) = year context.now (.ofNat 45299)) ∧
    ∃ day week : Nat,
      (Catalog.standard.call context "WEEKDAY" [.ofNat 45299, .ofInt 2] []).Yields
        (.ok (.ofNat day)) [] ∧
      (Catalog.standard.call context "WEEKNUM" [.ofNat 45298, .ofInt 2] []).Yields
        (.ok (.ofNat week)) [] ∧
      (Catalog.standard.call context "WEEKNUM" [.ofNat 45299, .ofInt 2] []).Yields
        (.ok (.ofNat (if day = 1 then week + 1 else week))) [] := by
  intro context
  have htype : (2 : Int) ∈ [1, 2, 11, 12, 13, 14, 15, 16, 17] := by decide
  have hyear : year context.now (.ofNat 45298) = year context.now (.ofNat 45299) := by
    rw [year_ofNat _ (by decide), year_ofNat _ (by decide)]
    decide
  exact ⟨⟨htype, hyear⟩, (week_advances_on_first_weekday context htype).1 45298 (by decide) hyear⟩

end Dates

end SheetFormulas
