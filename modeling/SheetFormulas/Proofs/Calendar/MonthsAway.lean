import SheetFormulas.Proofs.Calendar.EverySerial

/-!
Dates some months away. The answer is a serial of the month that the calendar has so many months
away, with the day of the start or the last one of that month. December 31st, 1899 is day zero, and
a date before it or beyond the calendar is no date.
-/

namespace SheetFormulas.Dates

open Calendar

variable (context : Context)

/-- Whether year, month and day of a value are those of a date. -/
def ShowsDate (v : Value) (d : Date) : Prop :=
  (Catalog.standard.call context "YEAR" [v] []).Yields (.ok (.ofNat d.year)) [] ∧
    (Catalog.standard.call context "MONTH" [v] []).Yields (.ok (.ofNat d.month)) [] ∧
    (Catalog.standard.call context "DAY" [v] []).Yields (.ok (.ofNat d.day)) []

/-- Whether an answer is the serial of a day of a month. From January 1900 to the end of the
calendar it is one that shows this day, the last day before is day zero, and for all other days it
is an error value. -/
def IsDayOf (month : Int) (day : Nat) (v : Value) : Prop :=
  if 1900 * 12 ≤ month ∧ month < 10000 * 12 then
    ∃ serial : Nat, v = .ofNat serial ∧ ShowsDate context v (inMonth month day)
  else if month = 1899 * 12 + 11 ∧ day = 31 then v = .ofNat 0
  else v = .error .badNumber

theorem showsDate_number {s : Number} (h : Serial.InRange s) :
    ShowsDate context (.number s) (Serial.parts s.truncate.toNat) := by
  obtain ⟨hyear, hmonth, hday⟩ := hasParts_number context.now h
  exact ⟨Catalog.standard_call_yields_ok rfl rfl rfl rfl hyear,
    Catalog.standard_call_yields_ok rfl rfl rfl rfl hmonth,
    Catalog.standard_call_yields_ok rfl rfl rfl rfl hday⟩

theorem showsDate_ofDate {serial : Nat} {d : Date} (hl : serial ≤ Serial.last)
    (hd : Serial.parts serial = d) : ShowsDate context (.ofNat serial) d := by
  have hshown := showsDate_number context (Serial.inRange_ofNat hl)
  rwa [Number.truncate_int, Int.toNat_natCast, hd] at hshown

theorem isDayOf_serial {month : Int} {day serial : Nat}
    (h : 1900 * 12 ≤ month ∧ month < 10000 * 12) (hl : serial ≤ Serial.last)
    (hd : Serial.parts serial = inMonth month day) : IsDayOf context month day (.ofNat serial) := by
  unfold IsDayOf
  rw [if_pos h]
  exact ⟨serial, rfl, showsDate_ofDate context hl hd⟩

theorem isDayOf_error {month : Int} {day : Nat} (h : ¬ (1900 * 12 ≤ month ∧ month < 10000 * 12))
    (hl : ¬ (month = 1899 * 12 + 11 ∧ day = 31)) :
    IsDayOf context month day (.error .badNumber) := by
  unfold IsDayOf
  rw [if_neg h, if_neg hl]

/-- Dates of months before December 1899 lie before day zero. -/
theorem number_inMonth_le_epoch {month : Int} (h : InYears month) (hl : month < 1899 * 12 + 11)
    {day : Nat} (h1 : 1 ≤ day) (hd : day ≤ daysIn month) :
    (inMonth month day).number ≤ Serial.epoch := by
  have hnext : Date.number ⟨1899, 12, 1⟩ ≤ Serial.epoch := by decide
  have hvalid := isValid_inMonth h h1 hd
  have hbefore : (inMonth month day).Before ⟨1899, 12, 1⟩ := by
    unfold Date.Before inMonth
    dsimp only
    omega
  exact (Date.number_lt_of_before hvalid (by decide) hbefore).le.trans hnext

/-- Of December 1899 only the last day has a serial, which is zero. -/
theorem number_december_le_epoch_iff (day : Nat) :
    Date.number ⟨1899, 12, day⟩ ≤ Serial.epoch ↔ day ≤ 30 := by
  have hbefore : daysBeforeYear 1899 + daysBeforeMonth 1899 12 = Serial.epoch - 30 := by decide
  have hlarge : 30 ≤ Serial.epoch := by decide
  unfold Date.number
  dsimp only
  omega

/-- The serial of a day of a month in a year of the calendar. -/
theorem isDayOf_inMonth {month : Int} (h : InYears month) {day : Nat} (h1 : 1 ≤ day)
    (hd : day ≤ daysIn month) :
    ∃ v, Value.answer (Answer.toValue <$> Serial.ofDate (inMonth month day)) = .ok v ∧
      IsDayOf context month day v := by
  have hend : month < 10000 * 12 := by
    have hyear : month / 12 ≤ 9999 := h.2
    omega
  -- December 1899 lies across the border: its last day is day zero, the others have no serial
  rcases lt_trichotomy month (1899 * 12 + 11) with hlt | rfl | hgt
  · rw [Serial.ofDate_of_le (number_inMonth_le_epoch h hlt h1 hd)]
    exact ⟨_, rfl, isDayOf_error context (by omega) (by omega)⟩
  · have hdecember : inMonth (1899 * 12 + 11) day = ⟨1899, 12, day⟩ := rfl
    have hlength : daysIn (1899 * 12 + 11) = 31 := by decide
    rw [hdecember]
    rcases Nat.lt_or_eq_of_le (hd.trans hlength.le) with hlt | rfl
    · rw [Serial.ofDate_of_le ((number_december_le_epoch_iff day).mpr (by omega))]
      exact ⟨_, rfl, isDayOf_error context (by omega) (by omega)⟩
    · exact ⟨.ofNat 0, rfl, rfl⟩
  · have hyear : 1900 ≤ (inMonth month day).year := by
      unfold inMonth
      dsimp only
      omega
    obtain ⟨serial, ⟨-, hl, -⟩, hserial, hparts⟩ :=
      Serial.exists_ofDate_eq (isValid_inMonth h h1 hd) hyear
    rw [hserial]
    exact ⟨.ofNat serial, rfl, isDayOf_serial context ⟨by omega, hend⟩ hl hparts⟩

/-- The serial of the date some months away, if there is one. -/
theorem isDayOf_shiftMonths? {d : Date} (hm : 1 ≤ d.month) (months : Int) {day : Nat}
    (h1 : 1 ≤ day) :
    ∃ v, Value.answer (Answer.toValue <$> serialOfDate? (d.shiftMonths? months day)) = .ok v ∧
      IsDayOf context (d.monthIndex + months)
        (min day (daysIn (d.monthIndex + months))) v := by
  have hlength := (daysIn_between (d.monthIndex + months)).1
  rw [Date.shiftMonths?_eq hm]
  by_cases h : InYears (d.monthIndex + months)
  · rw [if_pos h]
    exact isDayOf_inMonth context h (by omega) (Nat.min_le_right _ _)
  · rw [if_neg h]
    unfold InYears lastYear at h
    exact ⟨_, rfl, isDayOf_error context (by omega) (by omega)⟩

/-- The dates some months away from a serial that is the serial of a date lie in the month so many
months away: with the same day or the last one of that month, and with the last one. -/
theorem dates_months_away_lie_in_month {s : Number} (hl : (Number.int 1).le s = true)
    (hh : s.lt (.int 2958466) = true) (hp : s.truncate ≠ 60) {months : Int}
    (hm : (Number.int months).hasDouble = true) :
    let start := Serial.parts s.truncate.toNat
    let month := start.monthIndex + months
    ShowsDate context (.number s) start ∧
      (∃ v, (Catalog.standard.call context "EDATE" [.number s, .ofInt months] []).Yields
        (.ok v) [] ∧ IsDayOf context month (min start.day (daysIn month)) v) ∧
      ∃ v, (Catalog.standard.call context "EOMONTH" [.number s, .ofInt months] []).Yields
        (.ok v) [] ∧ IsDayOf context month (daysIn month) v := by
  intro start month
  obtain ⟨hone, -⟩ := Number.truncate_between (by decide) hl hh
  have hs : Serial.InRange s := ⟨Number.int_le_of_le (by decide) hl, hh⟩
  have hpos : 1 ≤ s.truncate.toNat := by omega
  have hphantom : s.truncate.toNat ≠ Serial.phantom := by
    unfold Serial.phantom
    omega
  have hday := Serial.lt_dayNumber hpos
  have hstart : start = dateOf (Serial.dayNumber s.truncate.toNat) :=
    Serial.parts_of_ne hpos hphantom
  have hdate : Serial.date s.truncate.toNat = .ok start := by
    rw [Serial.date_of_pos (by omega), hstart]
  obtain ⟨⟨hmonth, -⟩, ⟨hfirst, -⟩, -⟩ := dateOf_spec (Serial.dayNumber s.truncate.toNat) (by omega)
  rw [← hstart] at hmonth hfirst
  refine ⟨showsDate_number context hs, ?_, ?_⟩
  · obtain ⟨v, hv, hof⟩ := isDayOf_shiftMonths? context hmonth months hfirst
    have hcall : (Catalog.standard.call context "EDATE" [.number s, .ofInt months] []).Yields
        _ [] := Catalog.standard_call_yields_answer rfl rfl rfl rfl
    have hmoved := months_eq context.now hs hm fun date months => date.shiftMonths? months date.day
    rw [hdate, Outcome.ok_bind] at hmoved
    rw [monthsAway, hmoved, hv] at hcall
    exact ⟨v, hcall, hof⟩
  · obtain ⟨v, hv, hof⟩ := isDayOf_shiftMonths? context hmonth months (show 1 ≤ 31 by decide)
    have hcall : (Catalog.standard.call context "EOMONTH" [.number s, .ofInt months] []).Yields
        _ [] := Catalog.standard_call_yields_answer rfl rfl rfl rfl
    have hmoved := months_eq context.now hs hm fun date months => date.shiftMonths? months 31
    rw [hdate, Outcome.ok_bind] at hmoved
    rw [Nat.min_eq_right (daysIn_between _).2] at hof
    rw [monthEnd, hmoved, hv] at hcall
    exact ⟨v, hcall, hof⟩

/-- One month after January 31st, 2024 lies February 29th, and one month before January 31st, 1900
lies day zero. -/
theorem dates_months_away_lie_in_month_of_thirty_first :
    let context : Context := ⟨⟨⟨2024, 1, 15⟩, .midnight⟩, fun _ => fail .arguments⟩
    ((Number.int 1).le (.int 45322) = true ∧ (Number.int 45322).lt (.int 2958466) = true ∧
      (Number.int 1).hasDouble = true) ∧
    ((Number.int 1).le (.int 31) = true ∧ (Number.int 31).lt (.int 2958466) = true ∧
      (Number.int (-1)).hasDouble = true) ∧
    (∃ v, (Catalog.standard.call context "EDATE" [.ofInt 45322, .ofInt 1] []).Yields (.ok v) [] ∧
      ShowsDate context v ⟨2024, 2, 29⟩) ∧
    (Catalog.standard.call context "EDATE" [.ofInt 31, .ofInt (-1)] []).Yields
      (.ok (.ofInt 0)) [] := by
  intro context
  have hlow : (Number.int 1).le (.int 45322) = true := by decide +kernel
  have hhigh : (Number.int 45322).lt (.int 2958466) = true := by decide +kernel
  have hlow' : (Number.int 1).le (.int 31) = true := by decide +kernel
  have hhigh' : (Number.int 31).lt (.int 2958466) = true := by decide +kernel
  have hdouble (n : Int) (hn : n.natAbs < 2) : (Number.int n).hasDouble = true :=
    Number.hasDouble_int_of_lt (by omega)
  have hone := hdouble 1 (by decide)
  have hminus := hdouble (-1) (by decide)
  have hleap : Serial.parts 45322 = ⟨2024, 1, 31⟩ := by decide
  have hfirst : Serial.parts 31 = ⟨1900, 1, 31⟩ := by decide
  obtain ⟨-, ⟨v, hv, hof⟩, -⟩ :=
    dates_months_away_lie_in_month context hlow hhigh (by decide) hone
  obtain ⟨-, ⟨w, hw, hzero⟩, -⟩ :=
    dates_months_away_lie_in_month context hlow' hhigh' (by decide) hminus
  rw [show (Number.int 45322).truncate.toNat = 45322 from rfl, hleap] at hof
  rw [show (Number.int 31).truncate.toNat = 31 from rfl, hfirst] at hzero
  obtain ⟨serial, -, hshown⟩ := hof
  cases hzero
  exact ⟨⟨hlow, hhigh, hone⟩, ⟨hlow', hhigh', hminus⟩, ⟨v, hv, hshown⟩, hw⟩

end SheetFormulas.Dates
