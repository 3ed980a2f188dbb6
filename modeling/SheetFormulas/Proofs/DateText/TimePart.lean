import SheetFormulas.Dates.Week
import SheetFormulas.Proofs.Calendar.DayFractions
import SheetFormulas.Proofs.Calendar.WorkingDays
import SheetFormulas.Proofs.DateText.ThisYear

/-!
Date texts with a time of the day. The text as a date has no fraction, and the text as a serial has
one, which is added to its day. So both stand for the same day unless the sum rounds up.
-/

namespace SheetFormulas

attribute [local irreducible] Binary64.unitsPerOne

open Binary64

namespace DateText

open Calendar

theorem reader_bind_eq_ok_iff {α β : Type} {x : Reader α} {f : α → Reader β} {b : β} :
    x >>= f = .ok b ↔ ∃ a, x = .ok a ∧ f a = .ok b := by
  cases x with
  | error flaw =>
    constructor
    · rintro ⟨⟩
    · rintro ⟨_, ⟨⟩, -⟩
  | ok a =>
    constructor
    · exact fun h => ⟨a, rfl, h⟩
    · rintro ⟨_, ⟨⟩, h⟩
      exact h

theorem isValid_of_required_addDays? {d date : Date} {days : Int}
    (h : required (d.addDays? days) = .ok date) : date.isValid := by
  unfold Date.addDays? at h
  dsimp only at h
  split_ifs at h with hrange
  · cases h
    exact isValid_dateOf _ (by omega) (by omega)
  · cases h

/-- The date of a text exists. -/
theorem isValid_of_date {f : Fields} {d : DayFields} {default date : Date}
    (h : f.date d default = .ok date) : date.isValid := by
  unfold Fields.date at h
  dsimp only at h
  generalize (⟨d.year.getD default.year, d.month.getD default.month, d.day.getD default.day⟩ : Date) =
    filled at h
  cases hvalid : filled.isValid with
  | false =>
    rw [hvalid] at h
    cases h
  | true =>
    rw [hvalid] at h
    split at h
    · contradiction
    · split at h
      · exact isValid_of_required_addDays? h
      · cases h
        exact hvalid

/-- What is read twice are two dates and a time that exist. -/
theorem isValid_of_readTwice {currentYear : Nat} {text : List Char} {first second : Date}
    {time : TimeOfDay} (h : readTwice currentYear text = .ok (first, second, time)) :
    first.isValid ∧ time.isValid := by
  unfold readTwice at h
  obtain ⟨f, -, h⟩ := reader_bind_eq_ok_iff.mp h
  obtain ⟨d, -, h⟩ := reader_bind_eq_ok_iff.mp h
  dsimp only at h
  split at h
  · cases h
  · split at h
    · cases h
    · obtain ⟨date, hdate, h⟩ := reader_bind_eq_ok_iff.mp h
      obtain ⟨other, -, h⟩ := reader_bind_eq_ok_iff.mp h
      split at h
      · cases h
      · rename_i hvalid
        cases h
        rw [Bool.or_eq_true, not_or, Bool.not_eq_true', Bool.not_eq_false] at hvalid
        exact ⟨isValid_of_date hdate, hvalid.1⟩

/-- What is read of a text: the fraction is that of a time that exists, and so does the date. -/
theorem exists_readTwice_of_read {now : Moment} {text : String} {reading : Reading}
    (h : DateText.read now text = .ok reading) :
    ∃ first second time, readTwice now.date.year text.toList = .ok (first, second, time) ∧
      time.isValid ∧ reading.fraction = Serial.fractionOf time ∧
      ∀ date, reading.date = some date → date.isValid := by
  unfold DateText.read at h
  split at h
  · cases h
  · split at h
    · cases h
    · cases h
    · cases h
    · rename_i first second time htwice
      obtain ⟨hfirst, htime⟩ := isValid_of_readTwice htwice
      refine ⟨first, second, time, htwice, htime, ?_⟩
      dsimp only at h
      split_ifs at h with hnone hyear hthisYear
      · cases h
        exact ⟨rfl, fun date hdate => by cases hdate⟩
      · cases h
        exact ⟨rfl, fun date hdate => by cases hdate; exact hfirst⟩
      · cases h
        exact ⟨rfl, fun date hdate => by cases hdate; exact hthisYear⟩
      · cases h

end DateText

namespace Dates

open DateText

variable {now : Moment} {text : String}

theorem toNumber_of_not_numeric (h : isNumeric text = .ok false) :
    ∃ cause, (Value.text text).toNumber = .error (.refusal (.coercion cause)) := by
  unfold isNumeric at h
  split at h
  · cases h
  · rename_i cause hnumber
    cases cause with
    | coercion cause => exact ⟨cause, hnumber⟩
    | _ => cases h
  · cases h

/-- The whole serial of a reading. -/
def daysOf (reading : Reading) : Outcome Nat :=
  match reading.date with
  | some date => Serial.ofDate date
  | none => .ok 0

/-- A text that is read as a date is no numeral and has a reading, whose days are the answer. -/
theorem exists_reading_of_dateValue {day : Nat} (h : dateValue now (.text text) = .ok day) :
    ∃ reading, isNumeric text = .ok false ∧ DateText.read now text = .ok reading ∧
      daysOf reading = .ok day := by
  unfold dateValue at h
  obtain ⟨⟨said, reading⟩, hread, h⟩ := Outcome.bind_eq_ok_iff.mp h
  unfold readText at hread
  obtain ⟨numeric, hnumeric, hread⟩ := Outcome.bind_eq_ok_iff.mp hread
  cases numeric with
  | true => cases hread
  | false =>
    obtain ⟨reading', hreading, hread⟩ := Outcome.bind_eq_ok_iff.mp hread
    cases hread
    refine ⟨reading, hnumeric, hreading, ?_⟩
    unfold daysOf
    dsimp only at h
    cases hdate : reading.date with
    | none =>
      rw [hdate] at h
      exact h
    | some date =>
      rw [hdate] at h
      dsimp only at h ⊢
      split_ifs at h
      · cases h
      · exact h

theorem daysOf_le {reading : Reading} {day : Nat}
    (hv : ∀ date, reading.date = some date → date.isValid) (h : daysOf reading = .ok day) :
    day ≤ Serial.last := by
  unfold daysOf at h
  cases hdate : reading.date with
  | none =>
    rw [hdate] at h
    cases h
    exact Nat.zero_le _
  | some date =>
    rw [hdate] at h
    dsimp only at h
    unfold Serial.ofDate at h
    split_ifs at h
    · cases h
    · rw [← Except.ok.inj h]
      exact Serial.daysSinceEpoch_le (Date.number_le_lastDay (hv date hdate))

theorem serialOfText_eq (now : Moment) (text : String) :
    serialOfText now text = (do
      let reading ← DateText.read now text
      let days ← daysOf reading
      Serial.check (← (Number.int days).add (.float reading.fraction))) := by
  unfold serialOfText daysOf
  refine Outcome.bind_congr fun reading _ => ?_
  cases reading.date <;> rfl

/-- A date text as a serial is the sum of its day and its fraction. -/
theorem serialOf_text {reading : Reading} {day : Nat} (hn : isNumeric text = .ok false)
    (hr : DateText.read now text = .ok reading) (hd : daysOf reading = .ok day)
    (hday : day ≤ Serial.last) :
    serialOf now (.text text) = Serial.check (.float (ofInt day + reading.fraction)) := by
  obtain ⟨cause, hcause⟩ := toNumber_of_not_numeric hn
  have hfloat : (Number.int day).toFloat = .ok (ofInt day) :=
    Number.toFloat_int_of_hasDouble
      (Number.hasDouble_int_of_lt (by unfold Serial.last at hday; omega))
  unfold serialOf
  rw [hcause]
  dsimp only
  rw [serialOfText_eq, hr, Outcome.ok_bind, hd, Outcome.ok_bind, Number.add_float hfloat,
    Outcome.ok_bind]

/-- Whether two computations of a day give the same day, or both a serial outside the calendar. -/
def SameDay (a b : Outcome Nat) : Prop :=
  (∃ day, a = .ok day ∧ b = .ok day) ∨
    ∃ said said', a = refuse (.serialOutOfRange said) ∧ b = refuse (.serialOutOfRange said')

/-- What is asked of the same day has the same answer. -/
theorem SameDay.answer_eq {a b : Outcome Nat} (h : SameDay a b) (part : Nat → Outcome Nat) :
    Value.answer (Answer.toValue <$> (a >>= part)) =
      Value.answer (Answer.toValue <$> (b >>= part)) := by
  obtain ⟨day, rfl, rfl⟩ | ⟨said, said', rfl, rfl⟩ := h <;> rfl

/-- A number from the day after the last one on is refused as a serial. -/
theorem check_of_last_lt {s : Number} {said : String} (hs : s.IsDatum) (hsaid : s.shown = .ok said)
    (h : (Number.int (Serial.last + 1)).le s = true) :
    Serial.check s = refuse (.serialOutOfRange said) := by
  have hfinite : s.isFinite = .ok true := hs.isExact.isFinite
  unfold Serial.check
  rw [hfinite, Outcome.ok_bind, h, Bool.or_true, if_pos rfl, hsaid]
  rfl

theorem shown_last_succ :
    (Number.int (Serial.last + 1)).shown = .ok (Int.repr (Serial.last + 1)) := by
  have hlt : (Serial.last + 1 : Int).natAbs < tenTo Number.digitLimit :=
    Nat.lt_of_lt_of_le (show (Serial.last + 1 : Int).natAbs < tenTo 7 by decide)
      (tenTo_le_tenTo (by decide))
  rw [Number.shown, Number.intText, if_pos hlt]

theorem isDatum_last_succ : (Number.int (Serial.last + 1)).IsDatum :=
  show (Serial.last + 1 : Int).natAbs ≤ 2 ^ 53 by decide

/-- There is no day after the last one. -/
theorem dayOf_last_succ (now : Moment) :
    dayOf now (.ofNat (Serial.last + 1)) =
      refuse (.serialOutOfRange (Int.repr (Serial.last + 1))) := by
  have hle : (Number.int (Serial.last + 1)).le (.int (Serial.last + 1)) = true :=
    (isDatum_last_succ.isExact.le_iff isDatum_last_succ.isExact).mpr le_rfl
  have hcheck := check_of_last_lt isDatum_last_succ shown_last_succ hle
  have hserial : serialOf now (.ofNat (Serial.last + 1)) = _ := hcheck
  rw [dayOf, hserial]
  rfl

/-- A date text and the day that it rounds to have the same day. -/
theorem sameDay_text {reading : Reading} {day : Nat} {time : TimeOfDay}
    (hn : isNumeric text = .ok false) (hr : DateText.read now text = .ok reading)
    (hd : daysOf reading = .ok day) (hday : day ≤ Serial.last)
    (hf : reading.fraction = Serial.fractionOf time) (ht : time.isValid) :
    SameDay (dayOf now (.text text))
      (dayOf now (.ofNat (if Serial.RoundsUp day time then day + 1 else day))) := by
  have hfloor := Serial.floor_day_add hday ht
  obtain ⟨hfinite, h0, -⟩ := Serial.value_fractionOf ht
  obtain ⟨hsum, hle, -⟩ := Serial.value_day_add hday hfinite h0 (Serial.value_fractionOf_lt_one ht).le
  have hserial := serialOf_text hn hr hd hday
  rw [hf] at hserial
  obtain ⟨reached, hreached⟩ : ∃ reached, reached = if Serial.RoundsUp day time then day + 1 else day :=
    ⟨_, rfl⟩
  rw [← hreached] at hfloor ⊢
  generalize ofInt day + Serial.fractionOf time = serial at *
  have hserial0 := (Nat.cast_nonneg day).trans hle
  have hbounds := Int.floor_eq_iff.mp hfloor
  rw [Int.cast_natCast] at hbounds
  rcases Nat.lt_or_ge Serial.last reached with hlt | hge
  · have hlast : reached = Serial.last + 1 := by
      split_ifs at hreached <;> omega
    subst hlast
    have hbeyond : (Number.int (Serial.last + 1)).le (.float serial) = true := by
      rw [isDatum_last_succ.isExact.le_iff (Number.isExact_float hsum)]
      show (Serial.last + 1 : Int) * unitsPerOne ≤ signedUnits serial
      have hunits := hbounds.1
      rw [value, le_div_iff₀ unitsPerOne_rat_pos] at hunits
      exact_mod_cast hunits
    have hdatum : (Number.float serial).IsDatum := hsum
    rw [dayOf_last_succ, dayOf, hserial, check_of_last_lt hdatum rfl hbeyond]
    exact .inr ⟨_, _, rfl, rfl⟩
  · have hlast : (reached : ℚ) + 1 ≤ 2958466 := by
      unfold Serial.last at hge
      exact_mod_cast Nat.succ_le_succ hge
    have hrange := Serial.inRange_float hsum hserial0 (hbounds.2.trans_le hlast)
    refine .inl ⟨reached, ?_, dayOf_ofNat hge⟩
    rw [dayOf, hserial, hrange.check, Outcome.ok_bind, Serial.truncate_float hserial0, hfloor]
    rfl

/-- Calls that ask a serial for its day: for its year, month or day, and for its day of the week, after
which a type may stand. -/
inductive DayCall : String → List Value → Prop
  | part {name : String} : name ∈ ["YEAR", "MONTH", "DAY"] → DayCall name []
  | weekday {types : List Value} : types.length ≤ 1 → DayCall "WEEKDAY" types

/-- Such a call answers by the day of its serial only. -/
theorem DayCall.exists_part (context : Context) {name : String} {types : List Value}
    (h : DayCall name types) : ∃ part : Nat → Outcome Nat, ∀ serial : Value,
      (Catalog.standard.call context name (serial :: types) []).Yields
        (Entry.guarded (serial :: types)
          (Answer.toValue <$> (dayOf context.now serial >>= part))) [] := by
  cases h with
  | part hname =>
    simp only [List.mem_cons, List.not_mem_nil, or_false] at hname
    obtain rfl | rfl | rfl := hname
    · exact ⟨fun day => .ok (Serial.parts day).year, fun serial =>
        Catalog.standard_call_yields_guarded rfl rfl
          (show _ = answer (year context.now serial) from rfl)⟩
    · exact ⟨fun day => .ok (Serial.parts day).month, fun serial =>
        Catalog.standard_call_yields_guarded rfl rfl
          (show _ = answer (month context.now serial) from rfl)⟩
    · exact ⟨fun day => .ok (Serial.parts day).day, fun serial =>
        Catalog.standard_call_yields_guarded rfl rfl
          (show _ = answer (Dates.day context.now serial) from rfl)⟩
  | weekday htypes =>
    refine ⟨fun day => do weekdayOf day (← (types.getD 0 (.ofInt 1)).toInt), fun serial =>
      Catalog.standard_call_yields_guarded rfl rfl
        (show _ = answer (Dates.weekday context.now serial _) from ?_)⟩
    exact Body.apply_one_optional _ htypes

/-- The answers of such calls for two serials of the same day are the same. -/
theorem DayCall.same_outcome (context : Context) {name : String} {types : List Value}
    (h : DayCall name types) {a b : Value} (ha : a.error? = none) (hb : b.error? = none)
    (hday : SameDay (dayOf context.now a) (dayOf context.now b)) :
    ∃ outcome, (Catalog.standard.call context name (a :: types) []).Yields outcome [] ∧
      (Catalog.standard.call context name (b :: types) []).Yields outcome [] := by
  obtain ⟨part, hpart⟩ := h.exists_part context
  have hguarded : Entry.guarded (a :: types)
        (Answer.toValue <$> (dayOf context.now a >>= part)) =
      Entry.guarded (b :: types) (Answer.toValue <$> (dayOf context.now b >>= part)) := by
    rw [Entry.guarded, Entry.guarded, Entry.firstErrorOf_cons, Entry.firstErrorOf_cons, ha, hb,
      hday.answer_eq part]
  exact ⟨_, hpart a, hguarded ▸ hpart b⟩

theorem dateValue_of_yields {context : Context} {text : String} {answer : Number}
    (h : (Catalog.standard.call context "DATEVALUE" [.text text] []).Yields
      (.ok (.number answer)) []) :
    ∃ day : Nat, answer = .int day ∧ dateValue context.now (.text text) = .ok day := by
  have hcall : (Catalog.standard.call context "DATEVALUE" [.text text] []).Yields
      (Value.answer (Answer.toValue <$> dateValue context.now (.text text))) [] :=
    Catalog.standard_call_yields_answer rfl rfl rfl rfl
  have hanswer := (hcall.unique h).1
  cases hvalue : dateValue context.now (.text text) with
  | ok day =>
    rw [hvalue] at hanswer
    cases hanswer
    exact ⟨day, rfl, rfl⟩
  | error fault =>
    rw [hvalue] at hanswer
    cases fault <;> cases hanswer

/-- A time of the day in a date text does not move its day, but for the last microseconds before
midnight: there the text stands for the next day. -/
theorem time_part_keeps_day_unless_rounded (context : Context) {text : String} {answer : Number}
    (h : (Catalog.standard.call context "DATEVALUE" [.text text] []).Yields
      (.ok (.number answer)) []) :
    ∃ (day : Nat) (first second : Date) (time : TimeOfDay),
      answer = .int day ∧
      readTwice context.now.date.year text.toList = .ok (first, second, time) ∧
      (Catalog.standard.call context "TIMEVALUE" [.text text] []).Yields
        (.ok (.ofFloat (Serial.fractionOf time))) [] ∧
      ∀ name types, DayCall name types → ∃ outcome,
        (Catalog.standard.call context name (.text text :: types) []).Yields outcome [] ∧
        (Catalog.standard.call context name
          (.ofNat (if Serial.RoundsUp day time then day + 1 else day) :: types) []).Yields
            outcome [] := by
  obtain ⟨day, rfl, hvalue⟩ := dateValue_of_yields h
  obtain ⟨reading, hnumeric, hreading, hdays⟩ := exists_reading_of_dateValue hvalue
  obtain ⟨first, second, time, htwice, htime, hfraction, hvalid⟩ :=
    exists_readTwice_of_read hreading
  have hsame := sameDay_text hnumeric hreading hdays (daysOf_le hvalid hdays) hfraction htime
  have htimeValue : timeValue context.now (.text text) = .ok (Serial.fractionOf time) := by
    rw [timeValue, readText, hnumeric, Outcome.ok_bind, if_neg Bool.false_ne_true, hreading,
      ← hfraction]
    rfl
  exact ⟨day, first, second, time, rfl, htwice,
    Catalog.standard_call_yields_ok rfl rfl rfl rfl htimeValue,
    fun name types hcall => hcall.same_outcome context rfl rfl hsame⟩

/-- A date with slashes that holds its year is read as its serial. -/
theorem dateValue_of_readTwice {first second : Date} {time : TimeOfDay}
    (hslash : '/' ∈ text.toList)
    (h : readTwice now.date.year text.toList = .ok (first, second, time))
    (hmonth : first.month = second.month) (hyear : first.year = second.year)
    (hearly : ¬ first.year < 1900) :
    dateValue now (.text text) = Serial.ofDate first := by
  have hempty := List.isEmpty_eq_false_iff.mpr (Text.trim_ne_nil_of_mem hslash (by decide))
  have hread : DateText.read now text = .ok ⟨some first, Serial.fractionOf time⟩ := by
    unfold DateText.read
    rw [if_neg (by rw [hempty]; exact Bool.false_ne_true), h]
    dsimp only
    rw [if_neg (fun hc => hc.1 hmonth), if_pos hyear]
  rw [dateValue, readText, isNumeric_of_slash hslash, Outcome.ok_bind, if_neg Bool.false_ne_true,
    hread]
  exact if_neg hearly

/-- The evening of January 1st, 2300 belongs to that day, and its last microsecond to the next. -/
theorem time_part_keeps_day_unless_rounded_at_last_microsecond :
    let context : Context := ⟨⟨⟨2024, 1, 15⟩, .midnight⟩, fun _ => fail .arguments⟩
    ((Catalog.standard.call context "DATEVALUE" [.text "1/1/2300 18:30"] []).Yields
        (.ok (.ofNat 146099)) [] ∧
      (Catalog.standard.call context "DATEVALUE" [.text "1/1/2300 23:59:59.999999"] []).Yields
        (.ok (.ofNat 146099)) []) ∧
    (∃ outcome,
      (Catalog.standard.call context "DAY" [.text "1/1/2300 18:30"] []).Yields outcome [] ∧
      (Catalog.standard.call context "DAY" [.ofNat 146099] []).Yields outcome []) ∧
    ∃ outcome,
      (Catalog.standard.call context "DAY" [.text "1/1/2300 23:59:59.999999"] []).Yields
        outcome [] ∧
      (Catalog.standard.call context "DAY" [.ofNat 146100] []).Yields outcome [] := by
  intro context
  have hevening : readTwice 2024 "1/1/2300 18:30".toList =
      .ok (⟨2300, 1, 1⟩, ⟨2300, 1, 1⟩, ⟨18, 30, 0, 0⟩) := by decide +kernel
  have hlast : readTwice 2024 "1/1/2300 23:59:59.999999".toList =
      .ok (⟨2300, 1, 1⟩, ⟨2300, 1, 1⟩, ⟨23, 59, 59, 999999⟩) := by decide +kernel
  have hserial : Serial.ofDate ⟨2300, 1, 1⟩ = .ok 146099 := by decide
  have hvalue : (Catalog.standard.call context "DATEVALUE" [.text "1/1/2300 18:30"] []).Yields
      (.ok (.ofNat 146099)) [] :=
    Catalog.standard_call_yields_ok rfl rfl rfl rfl
      ((dateValue_of_readTwice (by decide) hevening rfl rfl (by decide)).trans hserial)
  have hvalue' : (Catalog.standard.call context "DATEVALUE"
      [.text "1/1/2300 23:59:59.999999"] []).Yields (.ok (.ofNat 146099)) [] :=
    Catalog.standard_call_yields_ok rfl rfl rfl rfl
      ((dateValue_of_readTwice (by decide) hlast rfl rfl (by decide)).trans hserial)
  refine ⟨⟨hvalue, hvalue'⟩, ?_, ?_⟩
  · obtain ⟨day, first, second, time, hday, htwice, -, hcalls⟩ :=
      time_part_keeps_day_unless_rounded context hvalue
    cases hday
    cases hevening.symm.trans htwice
    exact hcalls "DAY" [] (.part (by decide))
  · obtain ⟨day, first, second, time, hday, htwice, -, hcalls⟩ :=
      time_part_keeps_day_unless_rounded context hvalue'
    cases hday
    cases hlast.symm.trans htwice
    exact hcalls "DAY" [] (.part (by decide))

end Dates

end SheetFormulas
