import SheetFormulas.Dates.Clock
import SheetFormulas.Proofs.Calendar.Months
import SheetFormulas.Proofs.Value.WholeNumber

/-!
Serials and their parts. Year, month and day lead back to the serial they were taken from, and they
grow with it, the two days that the calendar does not have included.
-/

namespace SheetFormulas.Serial

open Calendar

/-- Whether a number is a serial: at least zero and before the end of the calendar. -/
def InRange (s : Number) : Prop := (Number.int 0).le s = true ∧ s.lt (.int 2958466) = true

theorem inRange_int {n : Int} (h : 0 ≤ n) (hl : n < 2958466) : InRange (.int n) := by
  have hpos := Number.unitsPerOne_pos
  constructor
  · rw [Number.le_iff]
    refine ⟨_, _, Number.exactValue?_int 0, Number.exactValue?_int n, ?_⟩
    rw [Prod.Lex.toLex_le_toLex]
    exact Or.inr ⟨rfl, Int.mul_le_mul_of_nonneg_right h hpos.le⟩
  · rw [Number.lt_iff]
    refine ⟨_, _, Number.exactValue?_int n, Number.exactValue?_int 2958466, ?_⟩
    rw [Prod.Lex.toLex_lt_toLex]
    exact Or.inr ⟨rfl, Int.mul_lt_mul_of_pos_right hl hpos⟩

theorem inRange_ofNat {serial : Nat} (h : serial ≤ last) : InRange (.int serial) := by
  unfold last at h
  exact inRange_int (by omega) (by omega)

theorem InRange.truncate {s : Number} (h : InRange s) :
    0 ≤ s.truncate ∧ s.truncate ≤ (last : Int) := by
  have := Number.truncate_between le_rfl h.1 h.2
  unfold last
  omega

theorem InRange.check {s : Number} (h : InRange s) : check s = .ok s := by
  have hfinite := Number.isFinite_of_between h.1 h.2 (Number.lt_two_pow (by decide) (by decide))
    (Number.lt_two_pow (by decide) (by decide))
  have hlow := Number.lt_eq_false_of_le h.1
  have hhigh : (Number.int (last + 1)).le s = false := Number.le_eq_false_of_lt h.2
  simp [Serial.check, hfinite, hlow, hhigh]

theorem dayOfWeek_natCast (serial : Nat) : dayOfWeek serial = (serial + 6) % 7 := by
  unfold dayOfWeek
  omega

theorem dayNumber_le {serial : Nat} (h : serial ≤ last) : dayNumber serial ≤ lastDay := by
  unfold dayNumber phantom epoch lastDay
  unfold last at h
  split <;> omega

theorem lt_dayNumber {serial : Nat} (h : 1 ≤ serial) : epoch + 1 < dayNumber serial := by
  unfold dayNumber phantom epoch
  split <;> omega

/-- The days from serial one on lie in the year 1900 or later. -/
theorem le_year_dateOf {n : Nat} (h : epoch + 1 < n) : 1900 ≤ (dateOf n).year := by
  obtain ⟨hy, -, high⟩ := yearAfter_spec (n - 1)
  have hstart : daysBeforeYear 1900 = epoch + 1 := by decide
  rw [dateOf_year]
  by_contra hc
  have := daysBeforeYear_le (yearAfter (n - 1) + 1) 1900 (by omega) (by omega)
  omega

theorem ofDate_of_le {d : Date} (h : d.number ≤ epoch) :
    ofDate d = refuse (.beforeCalendar d.text) := if_pos h

theorem ofDate_dateOf {n : Nat} (h : epoch < n) :
    ofDate (dateOf n) = .ok (if n - epoch ≤ phantom then n - epoch - 1 else n - epoch) := by
  have hn := number_dateOf n (by omega)
  unfold ofDate daysSinceEpoch
  rw [hn, if_neg (by omega)]

/-- The serial of a date is the one that the date was taken from. -/
theorem ofDate_dateOf_dayNumber {serial : Nat} (h : 1 ≤ serial) (hp : serial ≠ phantom) :
    ofDate (dateOf (dayNumber serial)) = .ok serial := by
  have hd := lt_dayNumber h
  rw [ofDate_dateOf (by omega)]
  apply congrArg Except.ok
  unfold dayNumber phantom epoch at *
  split_ifs <;> omega

theorem parts_of_ne {serial : Nat} (h : 1 ≤ serial) (hp : serial ≠ phantom) :
    parts serial = dateOf (dayNumber serial) := by
  unfold parts
  rw [if_neg (by omega), if_neg hp]

/-- From March 1st, 1900 on serials are a plain count of days. -/
theorem number_parts {serial : Nat} (h : phantom < serial) :
    (parts serial).number = epoch + serial := by
  have hday : dayNumber serial = epoch + serial := if_neg (by omega)
  rw [parts_of_ne (by omega) h.ne', hday, number_dateOf _ (by omega)]

theorem isValid_parts {serial : Nat} (h : phantom < serial) (hl : serial ≤ last) :
    (parts serial).isValid := by
  have hday := lt_dayNumber (show 1 ≤ serial by omega)
  rw [parts_of_ne (by omega) h.ne']
  exact isValid_dateOf _ (by omega) (dayNumber_le hl)

theorem parts_of_number {serial : Nat} {d : Date} (hd : d.isValid)
    (h : d.number = epoch + serial) (hs : phantom < serial) : parts serial = d := by
  have hday : dayNumber serial = epoch + serial := if_neg (by omega)
  rw [parts_of_ne (by omega) hs.ne', hday, ← h, Date.dateOf_number hd]

theorem month_parts_between (serial : Nat) :
    1 ≤ (parts serial).month ∧ (parts serial).month ≤ 12 := by
  rcases Nat.eq_zero_or_pos serial with rfl | hpos
  · decide
  by_cases hp : serial = phantom
  · subst hp
    decide
  · have hday := lt_dayNumber hpos
    rw [parts_of_ne hpos hp]
    exact (dateOf_spec _ (by omega)).1

/-- The serial of a date after December 31st, 1899 stands for the date's day. -/
theorem dayNumber_daysSinceEpoch {d : Date} (h : epoch + 1 < d.number) :
    dayNumber (daysSinceEpoch d) = d.number ∧ 1 ≤ daysSinceEpoch d ∧
      daysSinceEpoch d ≠ phantom := by
  unfold daysSinceEpoch dayNumber phantom epoch at *
  dsimp only
  split_ifs <;> omega

theorem daysSinceEpoch_le {d : Date} (h : d.number ≤ lastDay) : daysSinceEpoch d ≤ last := by
  have hspan : lastDay = epoch + last := rfl
  unfold daysSinceEpoch
  dsimp only
  split_ifs <;> omega

/-- A date from January 1st, 1900 on has a serial, whose parts are those of the date. -/
theorem exists_ofDate_eq {d : Date} (hv : d.isValid) (hy : 1900 ≤ d.year) :
    ∃ serial, (1 ≤ serial ∧ serial ≤ last ∧ serial ≠ phantom) ∧ ofDate d = .ok serial ∧
      parts serial = d := by
  have hstart : daysBeforeYear 1900 = epoch + 1 := by decide
  have hfirst := daysBeforeYear_le 1900 d.year (by decide) hy
  have hday := ((Date.isValid_iff d).mp hv).2.2.1
  have hlow : epoch + 1 < d.number := by
    unfold Date.number
    omega
  obtain ⟨hnumber, hpos, hne⟩ := dayNumber_daysSinceEpoch hlow
  have hlast := daysSinceEpoch_le (Date.number_le_lastDay hv)
  refine ⟨_, ⟨hpos, hlast, hne⟩, if_neg (by omega), ?_⟩
  rw [parts_of_ne hpos hne, hnumber, Date.dateOf_number hv]

/-- The parts of serials that are dates grow with the serials. -/
theorem dateOf_dayNumber_before {s t : Nat} (hs : 1 ≤ s) (hst : s < t) (ht : t ≤ last)
    (hp : s ≠ phantom) : (dateOf (dayNumber s)).Before (dateOf (dayNumber t)) := by
  have hds := lt_dayNumber hs
  have hdt := lt_dayNumber (show 1 ≤ t by omega)
  apply Date.before_of_number_lt
  · exact isValid_dateOf _ (by omega) (dayNumber_le (by omega))
  · exact isValid_dateOf _ (by omega) (dayNumber_le ht)
  · rw [number_dateOf _ (by omega), number_dateOf _ (by omega)]
    unfold dayNumber phantom at *
    split_ifs <;> omega

theorem zero_before {serial : Nat} (h : 1 ≤ serial) (hl : serial ≤ last) :
    (⟨1900, 1, 0⟩ : Date).Before (parts serial) := by
  by_cases hp : serial = phantom
  · subst hp
    decide
  · rw [parts_of_ne h hp]
    have hd := lt_dayNumber h
    have hy := le_year_dateOf hd
    obtain ⟨hm, hday, -⟩ := dateOf_spec (dayNumber serial) (by omega)
    unfold Date.Before
    dsimp only
    omega

/-- The parts of serials grow with the serials. -/
theorem parts_before {s t : Nat} (hst : s < t) (ht : t ≤ last) : (parts s).Before (parts t) := by
  have february : parts 59 = ⟨1900, 2, 28⟩ := by decide
  have march : parts 61 = ⟨1900, 3, 1⟩ := by decide
  rcases Nat.eq_zero_or_pos s with rfl | hs
  · exact zero_before hst ht
  by_cases hp : s = phantom
  · -- the phantom day comes before March 1st, and so before all later days
    have first : (parts s).Before (parts 61) := by
      rw [hp, march]
      decide
    rcases Nat.eq_or_lt_of_le (show 61 ≤ t by unfold phantom at hp; omega) with rfl | hlt
    · exact first
    · apply first.trans
      rw [parts_of_ne (by decide) (by decide), parts_of_ne (by omega) (by unfold phantom; omega)]
      exact dateOf_dayNumber_before (by decide) hlt ht (by decide)
  by_cases hq : t = phantom
  · -- the phantom day comes after February 28th, and so after all earlier days
    have final : (parts 59).Before (parts t) := by
      rw [hq, february]
      decide
    rcases Nat.eq_or_lt_of_le (show s ≤ 59 by unfold phantom at hq; omega) with rfl | hlt
    · exact final
    · refine Date.Before.trans ?_ final
      rw [parts_of_ne hs hp, parts_of_ne (by decide) (by decide)]
      exact dateOf_dayNumber_before hs hlt (by decide) hp
  · rw [parts_of_ne hs hp, parts_of_ne (by omega) hq]
    exact dateOf_dayNumber_before hs hst ht hp

end SheetFormulas.Serial

namespace SheetFormulas.Dates

open Calendar

/-- Days are counted from the first of the month that the months lead to, if there is one. -/
theorem rolledDate?_eq_addDays? (year : Nat) (month day : Int) :
    rolledDate? year month day =
      if InYears (year * 12 + (month - 1)) then
        (inMonth (year * 12 + (month - 1)) 1).addDays? (day - 1)
      else none := by
  unfold rolledDate?
  rw [Date.shiftMonths?_eq le_rfl, Date.monthIndex_january]
  split
  · have hone : min 1 (daysIn (year * 12 + (month - 1))) = 1 := by
      have := daysIn_between (year * 12 + (month - 1))
      omega
    rw [hone, Option.bind_some]
  · rfl

/-- A day of a month, counted from the first, is the date of its day number. -/
theorem rolledDate?_eq {year month : Nat} (day : Int) (hy : 1 ≤ year ∧ year ≤ lastYear)
    (hm : 1 ≤ month ∧ month ≤ 12) :
    rolledDate? year month day =
      if 1 ≤ (daysBeforeYear year + daysBeforeMonth year month : Nat) + day ∧
          (daysBeforeYear year + daysBeforeMonth year month : Nat) + day ≤ lastDay then
        some (dateOf ((daysBeforeYear year + daysBeforeMonth year month : Nat) + day).toNat)
      else none := by
  have hyears : InYears (year * 12 + ((month : Int) - 1)) := by
    unfold InYears
    omega
  have hnumber : ((daysBeforeYear year + daysBeforeMonth year month + 1 : Nat) : Int) + (day - 1) =
      (daysBeforeYear year + daysBeforeMonth year month : Nat) + day := by omega
  rw [rolledDate?_eq_addDays?, if_pos hyears, inMonth_eq hm]
  unfold Date.addDays? Date.number
  dsimp only
  rw [hnumber]

theorem date_ofInt {year month day : Int} (hy : 1900 ≤ year ∧ year ≤ 9999)
    (hm : (Number.int month).hasDouble = true) (hd : (Number.int day).hasDouble = true) :
    date (.ofInt year) (.ofInt month) (.ofInt day) =
      serialOfDate? (rolledDate? year.toNat month day) := by
  have hyear : (Number.int year).hasDouble = true := Number.hasDouble_int_of_lt (by omega)
  unfold date
  rw [Value.toInt_ofInt_of_hasDouble hyear, Value.toInt_ofInt_of_hasDouble hm,
    Value.toInt_ofInt_of_hasDouble hd]
  simp only [Outcome.ok_bind]
  rw [if_neg (by omega), if_neg (by omega)]

theorem date_ofNat {year month day : Nat} (hy : 1900 ≤ year ∧ year ≤ lastYear)
    (hm : 1 ≤ month ∧ month ≤ 12) (hd : day ≤ lastDay) :
    date (.ofNat year) (.ofNat month) (.ofNat day) =
      serialOfDate? (rolledDate? year month day) := by
  unfold lastYear at hy
  unfold lastDay at hd
  exact date_ofInt ⟨by omega, by omega⟩ (Number.hasDouble_int_of_lt (by omega))
    (Number.hasDouble_int_of_lt (by omega))

/-- A date from January 1st, 1900 on has the serial of its year, month and day. -/
theorem date_ofDate {d : Date} (h : d.isValid) (hy : 1900 ≤ d.year) :
    date (.ofNat d.year) (.ofNat d.month) (.ofNat d.day) = Serial.ofDate d := by
  obtain ⟨hyears, hm, hd, hlength⟩ := (Date.isValid_iff d).mp h
  have hlast := Date.number_le_lastDay h
  have hnumber : ((daysBeforeYear d.year + daysBeforeMonth d.year d.month : Nat) : Int) + d.day =
      d.number := rfl
  have hday : d.day ≤ d.number := Nat.le_add_left _ _
  rw [date_ofNat ⟨hy, hyears.2⟩ hm (hday.trans hlast), rolledDate?_eq _ hyears hm, hnumber,
    if_pos (by omega), Int.toNat_natCast, Date.dateOf_number h]
  rfl

theorem serialOf_number (now : Moment) {s : Number} (h : Serial.InRange s) :
    serialOf now (.number s) = .ok s := by
  have hnan : s.isNaN = false := by
    obtain ⟨units, hu, -⟩ := Number.exactValue?_of_between h.1 h.2
    rw [← Bool.not_eq_true, ← Number.exactValue?_eq_none_iff, hu]
    exact Option.some_ne_none _
  unfold serialOf
  rw [Value.toNumber_number hnan]
  exact h.check

theorem dayOf_number (now : Moment) {s : Number} (h : Serial.InRange s) :
    dayOf now (.number s) = .ok s.truncate.toNat := by
  rw [dayOf, serialOf_number now h]
  rfl

/-- Whether year, month and day of a number are those of a date. -/
def HasParts (now : Moment) (s : Number) (d : Date) : Prop :=
  year now (.number s) = .ok d.year ∧ month now (.number s) = .ok d.month ∧
    day now (.number s) = .ok d.day

/-- The parts of a serial are those of its whole part. -/
theorem hasParts_number (now : Moment) {s : Number} (h : Serial.InRange s) :
    HasParts now s (Serial.parts s.truncate.toNat) := by
  unfold HasParts year month day
  rw [dayOf_number now h]
  exact ⟨rfl, rfl, rfl⟩

/-- The date with the parts of a serial is that serial again. -/
theorem date_parts {serial : Nat} (hl : serial ≤ Serial.last) (hp : serial ≠ Serial.phantom) :
    date (.ofNat (Serial.parts serial).year) (.ofNat (Serial.parts serial).month)
      (.ofNat (Serial.parts serial).day) = .ok serial := by
  rcases Nat.eq_zero_or_pos serial with rfl | hs
  · -- January 0th is rolled back to December 31st of the year before
    have hzero : Serial.parts 0 = ⟨1900, 1, 0⟩ := rfl
    have hbefore : daysBeforeYear 1900 + daysBeforeMonth 1900 1 = Serial.epoch + 1 := by decide
    rw [hzero, date_ofNat (by decide) (by decide) (by decide),
      rolledDate?_eq _ (by decide) (by decide), hbefore, if_pos (by decide)]
    show Serial.ofDate (dateOf (Serial.epoch + 1)) = .ok 0
    rw [Serial.ofDate_dateOf (by decide)]
    rfl
  · have hn := Serial.lt_dayNumber hs
    have hvalid := isValid_dateOf (Serial.dayNumber serial) (by omega) (Serial.dayNumber_le hl)
    rw [Serial.parts_of_ne hs hp, date_ofDate hvalid (Serial.le_year_dateOf hn)]
    exact Serial.ofDate_dateOf_dayNumber hs hp

/-- Year, month and day lead back to the whole part of a serial, the phantom day excepted, and they
grow with the whole part, the phantom day and day zero included. -/
theorem date_of_parts_and_parts_increase (now : Moment) :
    (∀ s : Number, Serial.InRange s → s.truncate ≠ 60 →
      ∃ (d : Date) (serial : Nat), HasParts now s d ∧
        date (.ofNat d.year) (.ofNat d.month) (.ofNat d.day) = .ok serial ∧
        (serial : Int) = s.truncate) ∧
    ∀ s t : Number, Serial.InRange s → Serial.InRange t → s.truncate < t.truncate →
      ∃ a b : Date, HasParts now s a ∧ HasParts now t b ∧ a.Before b := by
  constructor
  · intro s hs hp
    have ht := hs.truncate
    have hd := @date_parts s.truncate.toNat (by omega) (by unfold Serial.phantom; omega)
    exact ⟨_, _, hasParts_number now hs, hd, by omega⟩
  · intro s t hs ht hlt
    have hs' := hs.truncate
    have ht' := ht.truncate
    exact ⟨_, _, hasParts_number now hs, hasParts_number now ht,
      Serial.parts_before (by omega) (by omega)⟩

/-- Midday of March 1st, 1900, and the phantom day before it. -/
theorem date_of_parts_and_parts_increase_midday :
    (Serial.InRange (.float (Float.ofBits 0x404ec00000000000)) ∧
      (Number.float (Float.ofBits 0x404ec00000000000)).truncate ≠ 60 ∧
      Serial.InRange (.int 60) ∧
      (Number.int 60).truncate < (Number.float (Float.ofBits 0x404ec00000000000)).truncate) ∧
    (∃ (d : Date) (serial : Nat),
      HasParts ⟨⟨2024, 1, 15⟩, .midnight⟩ (.float (Float.ofBits 0x404ec00000000000)) d ∧
        date (.ofNat d.year) (.ofNat d.month) (.ofNat d.day) = .ok serial ∧
        (serial : Int) = (Number.float (Float.ofBits 0x404ec00000000000)).truncate) ∧
    ∃ a b : Date, HasParts ⟨⟨2024, 1, 15⟩, .midnight⟩ (.int 60) a ∧
      HasParts ⟨⟨2024, 1, 15⟩, .midnight⟩ (.float (Float.ofBits 0x404ec00000000000)) b ∧
      a.Before b := by
  have hnoon : Serial.InRange (.float (Float.ofBits 0x404ec00000000000)) := by
    constructor <;> decide +kernel
  have hphantom : Serial.InRange (.int 60) := Serial.inRange_int (by decide) (by decide)
  have hne : (Number.float (Float.ofBits 0x404ec00000000000)).truncate ≠ 60 := by decide +kernel
  have hlt : (Number.int 60).truncate <
      (Number.float (Float.ofBits 0x404ec00000000000)).truncate := by decide +kernel
  obtain ⟨round, increase⟩ := date_of_parts_and_parts_increase ⟨⟨2024, 1, 15⟩, .midnight⟩
  exact ⟨⟨hnoon, hne, hphantom, hlt⟩, round _ hnoon hne, increase _ _ hphantom hnoon hlt⟩

end SheetFormulas.Dates
