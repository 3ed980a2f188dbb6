import SheetFormulas.Proofs.Calendar.WorkingDays
import SheetFormulas.Proofs.Run.Answers

/-!
Calls of the date functions on serials in range. Each of them answers with a number or an error
value, unless it asks for the calendar date of a serial below one, which is a bare time.
-/

namespace SheetFormulas

/-- Whether a value is a number or an error value. -/
def Value.IsNumberOrError : Value → Prop
  | .number _ | .error _ => True
  | _ => False

namespace Serial

open Calendar Outcome

theorem date_of_pos {serial : Nat} (h : serial ≠ 0) :
    date serial = .ok (dateOf (dayNumber serial)) := if_neg h

theorem date_eq_parts {serial : Nat} (h : phantom < serial) : date serial = .ok (parts serial) := by
  rw [date_of_pos (by omega), parts_of_ne (by omega) h.ne']

theorem date_zero : date 0 = fail .timeOnly := rfl

theorem ofDate_answers (d : Date) : (ofDate d).Answers fun _ => True :=
  answers_ite (fun _ => answers_refuse _) fun _ => answers_ok trivial

/-- The dates of serials from one on lie in the years of the calendar, the first year excepted. -/
theorem year_between {serial : Nat} (h : serial ≠ 0) (hl : serial ≤ last) :
    1900 ≤ (dateOf (dayNumber serial)).year ∧
      (dateOf (dayNumber serial)).year ≤ lastYear := by
  have hday := lt_dayNumber (Nat.one_le_iff_ne_zero.mpr h)
  have hvalid := isValid_dateOf (dayNumber serial) (by omega) (dayNumber_le hl)
  exact ⟨le_year_dateOf hday, ((Date.isValid_iff _).mp hvalid).1.2⟩

end Serial

/-- The month before a date in the calendar's later years is in the calendar. -/
theorem Date.exists_monthBefore {d : Date} (h : 1900 ≤ d.year ∧ d.year ≤ Calendar.lastYear)
    (hm : d.month ≤ 12) (day : Nat) : ∃ before, d.shiftMonths? (-1) day = some before := by
  refine ⟨_, if_pos ?_⟩
  omega

namespace Dates

open Calendar Outcome

/-- Whether an outcome is the failure of a date that is a bare time, in some case, and no failure
otherwise. -/
def AnswersUnless {α : Type} (lost : Prop) (outcome : Outcome α) : Prop :=
  (lost → outcome = fail .timeOnly) ∧ (¬ lost → outcome.Answers fun _ => True)

theorem AnswersUnless.of_answers {α : Type} {outcome : Outcome α}
    (h : outcome.Answers fun _ => True) : AnswersUnless False outcome :=
  ⟨False.elim, fun _ => h⟩

/-- What asks for the date of a serial fails at zero. -/
theorem answersUnless_date {α : Type} {serial : Nat} {f : Date → Outcome α}
    (h : serial ≠ 0 → (f (dateOf (Serial.dayNumber serial))).Answers fun _ => True) :
    AnswersUnless (serial = 0) (Serial.date serial >>= f) := by
  constructor
  · rintro rfl
    rw [Serial.date_zero]
    rfl
  · intro hne
    rw [Serial.date_of_pos hne, ok_bind]
    exact h hne

theorem serialOfDate?_answers (d : Option Date) : (serialOfDate? d).Answers fun _ => True := by
  cases d with
  | none => exact answers_refuse _
  | some d => exact Serial.ofDate_answers d

theorem monthCount_ofInt {months : Int} (h : (Number.int months).hasDouble = true) :
    monthCount (.ofInt months) = .ok months := by
  rw [monthCount, Value.toInt_ofInt_of_hasDouble h]

theorem weekdayOf_answers (serial : Nat) (type : Int) :
    (weekdayOf serial type).Answers fun _ => True := by
  unfold weekdayOf
  refine answers_ite (fun _ => answers_ok trivial) fun _ => ?_
  cases weekStart? type with
  | none => exact answers_refuse _
  | some start => exact answers_ok trivial

theorem weekNumberOf_answersUnless (serial : Nat) (type : Int) :
    AnswersUnless (serial = 0 ∧ type = 21) (weekNumberOf serial type) := by
  unfold weekNumberOf
  by_cases htype : type = 21
  · simp only [htype, and_true, if_true]
    exact answersUnless_date fun _ => answers_ok trivial
  · simp only [htype, and_false, if_false]
    refine .of_answers ?_
    cases weekStart? type with
    | none => exact answers_refuse _
    | some start => exact (Serial.ofDate_answers _).bind fun _ _ => answers_ok trivial

theorem daysIgnoringMonths_answers (startDay endDay : Nat) {serial : Nat} (h : serial ≠ 0)
    (hl : serial ≤ Serial.last) :
    (daysIgnoringMonths startDay endDay (dateOf (Serial.dayNumber serial))).Answers
      fun _ => True := by
  have hday := Serial.lt_dayNumber (Nat.one_le_iff_ne_zero.mpr h)
  obtain ⟨⟨-, hmonth⟩, -⟩ := dateOf_spec (Serial.dayNumber serial) (by omega)
  obtain ⟨before, hbefore⟩ := Date.exists_monthBefore (Serial.year_between h hl) hmonth startDay
  unfold daysIgnoringMonths
  refine answers_ite (fun _ => answers_ok trivial) fun _ => ?_
  rw [hbefore]
  exact answers_ok trivial

/-- Whether the difference in a unit asks for the date of a serial that is a bare time. -/
def LosesDate (unit : String) (start finish : Nat) : Prop :=
  unit ∉ ["Y", "M", "D", "YM"] ∧ (finish = 0 ∨ unit = "YD" ∧ start = 0)

theorem differenceIn_answersUnless (unit : String) {start finish : Nat}
    (hl : finish ≤ Serial.last) :
    AnswersUnless (LosesDate unit start finish) (differenceIn unit start finish) := by
  by_cases hparts : unit ∈ ["Y", "M", "D", "YM"]
  · simp only [LosesDate, hparts, not_true, false_and]
    simp only [List.mem_cons, List.not_mem_nil, or_false] at hparts
    refine .of_answers ?_
    rcases hparts with rfl | rfl | rfl | rfl <;> exact answers_ok trivial
  · simp only [LosesDate, hparts, not_false_eq_true, true_and]
    simp only [List.mem_cons, List.not_mem_nil, or_false, not_or] at hparts
    obtain ⟨hy, hm, hd, hym⟩ := hparts
    unfold differenceIn
    dsimp only
    rw [if_neg hy, if_neg hm, if_neg hd, if_neg hym]
    by_cases hfinish : finish = 0
    · subst hfinish
      exact ⟨fun _ => rfl, fun h => absurd (Or.inl rfl) h⟩
    · rw [Serial.date_of_pos hfinish, ok_bind]
      simp only [hfinish, false_or]
      by_cases hmd : unit = "MD"
      · subst hmd
        exact ⟨fun h => absurd h.1 (by decide),
          fun _ => daysIgnoringMonths_answers _ _ hfinish hl⟩
      · rw [if_neg hmd]
        by_cases hyd : unit = "YD"
        · simp only [hyd, true_and, if_true]
          exact answersUnless_date fun _ => answers_ok trivial
        · simp only [hyd, false_and, if_false]
          exact .of_answers (answers_refuse _)

theorem walk_answers (isWorking : Nat → Bool) (day : Nat) (days : Int) :
    (walk isWorking day days).Answers fun _ => True := by
  unfold walk
  refine answers_ite (fun _ => ?_) fun _ => ?_
  · cases walkUp isWorking (Serial.last - day) day days.toNat with
    | none => exact answers_refuse _
    | some reached => exact answers_ok trivial
  · cases walkDown isWorking day (-days).toNat with
    | none => exact answers_refuse _
    | some reached => exact answers_ok trivial

/-- A unit in upper case. -/
def unitCode (unit : String) : String := String.ofList (Text.upper unit.toList)

section Functions

variable (now : Moment) {s start finish : Number} {holidays : Value}

theorem weekday_answers (hs : Serial.InRange s) {type : Int}
    (ht : (Number.int type).hasDouble = true) :
    (weekday now (.number s) (.ofInt type)).Answers fun _ => True := by
  unfold weekday
  rw [dayOf_number now hs, Value.toInt_ofInt_of_hasDouble ht]
  exact weekdayOf_answers _ _

theorem weekNumber_answersUnless (hs : Serial.InRange s) {type : Int}
    (ht : (Number.int type).hasDouble = true) :
    AnswersUnless (s.truncate = 0 ∧ type = 21) (weekNumber now (.number s) (.ofInt type)) := by
  have hrange := hs.truncate
  have hzero : s.truncate = 0 ↔ s.truncate.toNat = 0 := by omega
  unfold weekNumber
  rw [dayOf_number now hs, Value.toInt_ofInt_of_hasDouble ht, hzero]
  exact weekNumberOf_answersUnless _ _

theorem secondsOf_answers (hs : Serial.InRange s) :
    (secondsOf now (.number s)).Answers fun _ => True := by
  rw [secondsOf, serialOf_number now hs]
  exact answers_ok trivial

/-- What starts from the date of a serial and a count of months. -/
theorem months_eq (hs : Serial.InRange s) {months : Int}
    (hm : (Number.int months).hasDouble = true) (target : Date → Int → Option Date) :
    (do
      let date ← Serial.date (← dayOf now (.number s))
      let months ← monthCount (.ofInt months)
      serialOfDate? (target date months)) =
    (do
      let date ← Serial.date s.truncate.toNat
      serialOfDate? (target date months)) := by
  rw [dayOf_number now hs, ok_bind, monthCount_ofInt hm]
  rfl

theorem months_answersUnless (hs : Serial.InRange s) {months : Int}
    (hm : (Number.int months).hasDouble = true) (target : Date → Int → Option Date) :
    AnswersUnless (s.truncate = 0) (do
      let date ← Serial.date (← dayOf now (.number s))
      let months ← monthCount (.ofInt months)
      serialOfDate? (target date months)) := by
  have hrange := hs.truncate
  have hzero : s.truncate = 0 ↔ s.truncate.toNat = 0 := by omega
  rw [months_eq now hs hm, hzero]
  exact answersUnless_date fun _ => serialOfDate?_answers _

theorem difference_answersUnless (hs : Serial.InRange start) (hf : Serial.InRange finish)
    (unit : String) :
    AnswersUnless (start.truncate ≤ finish.truncate ∧
        LosesDate (unitCode unit) start.truncate.toNat finish.truncate.toNat)
      (difference now (.number start) (.number finish) (.text unit)) := by
  have hstart := hs.truncate
  have hfinish := hf.truncate
  have horder : start.truncate ≤ finish.truncate ↔
      ¬ finish.truncate.toNat < start.truncate.toNat := by omega
  unfold difference
  rw [dayOf_number now hs, dayOf_number now hf, horder]
  simp only [Value.toText, ok_bind]
  by_cases hlt : finish.truncate.toNat < start.truncate.toNat
  · simp only [hlt, not_true, false_and, if_true]
    exact .of_answers (answers_refuse _)
  · simp only [hlt, not_false_eq_true, true_and, if_false]
    exact differenceIn_answersUnless _ (by omega)

theorem days_answers (hf : Serial.InRange finish) (hs : Serial.InRange start) :
    (days now (.number finish) (.number start)).Answers fun _ => True := by
  unfold days
  rw [dayOf_number now hf, dayOf_number now hs]
  exact answers_ok trivial

theorem workdaysBetween_answers (hs : Serial.InRange start) (hf : Serial.InRange finish)
    (h : AreSerials holidays) :
    (workdaysBetween now (.number start) (.number finish) holidays).Answers fun _ => True := by
  rw [workdaysBetween_number now h hs hf]
  exact answers_ok trivial

theorem workday_answers (hs : Serial.InRange start) {days : Int}
    (hd : (Number.int days).hasDouble = true) (h : AreSerials holidays) :
    (workday now (.number start) (.ofInt days) holidays).Answers fun _ => True := by
  rw [workday_eq h hs hd]
  exact walk_answers _ _ _

end Functions

/-- Calls of the date functions with serials in range, counts and types that a double holds, any
unit and holidays in range, and in which case the call asks for the date of a bare time. -/
inductive DateCall : String → List Value → Prop → Prop where
  | part {name : String} {s : Number} :
      name ∈ ["YEAR", "MONTH", "DAY", "HOUR", "MINUTE", "SECOND"] → Serial.InRange s →
      DateCall name [.number s] False
  | weekday {s : Number} : Serial.InRange s → DateCall "WEEKDAY" [.number s] False
  | weekdayOfType {s : Number} {type : Int} :
      Serial.InRange s → (Number.int type).hasDouble = true →
      DateCall "WEEKDAY" [.number s, .ofInt type] False
  | weekNumber {s : Number} : Serial.InRange s → DateCall "WEEKNUM" [.number s] False
  | weekNumberOfType {s : Number} {type : Int} :
      Serial.InRange s → (Number.int type).hasDouble = true →
      DateCall "WEEKNUM" [.number s, .ofInt type] (s.truncate = 0 ∧ type = 21)
  | months {name : String} {s : Number} {months : Int} :
      name ∈ ["EDATE", "EOMONTH"] → Serial.InRange s → (Number.int months).hasDouble = true →
      DateCall name [.number s, .ofInt months] (s.truncate = 0)
  | difference {start finish : Number} (unit : String) :
      Serial.InRange start → Serial.InRange finish →
      DateCall "DATEDIF" [.number start, .number finish, .text unit]
        (start.truncate ≤ finish.truncate ∧
          LosesDate (unitCode unit) start.truncate.toNat finish.truncate.toNat)
  | days {finish start : Number} :
      Serial.InRange finish → Serial.InRange start →
      DateCall "DAYS" [.number finish, .number start] False
  | workdaysBetween {start finish : Number} :
      Serial.InRange start → Serial.InRange finish →
      DateCall "NETWORKDAYS" [.number start, .number finish] False
  | workdaysBetweenUnder {start finish : Number} {holidays : Value} :
      Serial.InRange start → Serial.InRange finish → AreSerials holidays →
      DateCall "NETWORKDAYS" [.number start, .number finish, holidays] False
  | workday {start : Number} {days : Int} :
      Serial.InRange start → (Number.int days).hasDouble = true →
      DateCall "WORKDAY" [.number start, .ofInt days] False
  | workdayUnder {start : Number} {days : Int} {holidays : Value} :
      Serial.InRange start → (Number.int days).hasDouble = true → AreSerials holidays →
      DateCall "WORKDAY" [.number start, .ofInt days, holidays] False

section Calls

variable {context : Context} {name : String} {entry : Entry} {arguments : List Value}
  {lost : Prop} {α : Type} [Answer α] {result : Outcome α}

/-- A call answers as the function does that its entry evaluates. -/
theorem call_of_result (hnumber : ∀ a : α, (Answer.toValue a).IsNumberOrError)
    (h : Catalog.standard.find? name = some entry) (hs : entry.propagates = true)
    (hb : entry.body context arguments [] = answer result)
    (hn : Entry.firstErrorOf arguments [] = none) (hr : AnswersUnless lost result) :
    (lost → (Catalog.standard.call context name arguments []).Yields (fail .timeOnly) []) ∧
    (¬ lost → ∃ v, (Catalog.standard.call context name arguments []).Yields (.ok v) [] ∧
      v.IsNumberOrError) := by
  refine ⟨fun hl => Catalog.standard_call_fails h hs hb (hr.1 hl) hn, fun hl => ?_⟩
  exact Catalog.standard_call_answers h hs hb ((hr.2 hl).mono fun a _ => hnumber a)
    fun _ => trivial

theorem areSerials_empty : AreSerials .empty := by
  intro v hv
  exact .inl (List.mem_singleton.mp hv)

theorem firstErrorOf_holidays {holidays : Value} (a b : Number) (h : AreSerials holidays) :
    Entry.firstErrorOf [.number a, .number b, holidays] [] = none := by
  have herror : holidays.error? = none := by
    cases holidays with
    | error kind => exact absurd (h _ (List.mem_singleton.mpr rfl)) (by simp)
    | _ => rfl
  rw [Entry.firstErrorOf_eq_none_iff]
  simpa [Value.error?] using herror

end Calls

/-- A call of a date function on serials in range answers with a number or an error value, unless it
asks for the date of a serial below one: then the call fails. -/
theorem date_call_answers_unless_lost (context : Context) {name : String} {arguments : List Value}
    {lost : Prop} (h : DateCall name arguments lost) :
    (lost → (Catalog.standard.call context name arguments []).Yields (fail .timeOnly) []) ∧
    (¬ lost → ∃ v, (Catalog.standard.call context name arguments []).Yields (.ok v) [] ∧
      v.IsNumberOrError) := by
  have hone : (Number.int 1).hasDouble = true :=
    Number.hasDouble_int_of_lt (by decide)
  have nat (n : Nat) : (Answer.toValue n).IsNumberOrError := trivial
  have int (n : Int) : (Answer.toValue n).IsNumberOrError := trivial
  cases h with
  | part hname hs =>
    obtain ⟨hyear, hmonth, hday⟩ := hasParts_number context.now hs
    have hseconds (unit : Nat → Nat) :
        (secondsOf context.now (.number _) >>= fun n => pure (unit n)).Answers fun _ => True :=
      (secondsOf_answers context.now hs).bind fun _ _ => answers_ok trivial
    simp only [List.mem_cons, List.not_mem_nil, or_false] at hname
    rcases hname with rfl | rfl | rfl | rfl | rfl | rfl
    · exact call_of_result nat rfl rfl rfl rfl (.of_answers (hyear ▸ answers_ok trivial))
    · exact call_of_result nat rfl rfl rfl rfl (.of_answers (hmonth ▸ answers_ok trivial))
    · exact call_of_result nat rfl rfl rfl rfl (.of_answers (hday ▸ answers_ok trivial))
    · exact call_of_result nat rfl rfl rfl rfl (.of_answers (hseconds (· / 3600)))
    · exact call_of_result nat rfl rfl rfl rfl (.of_answers (hseconds (· / 60 % 60)))
    · exact call_of_result nat rfl rfl rfl rfl (.of_answers (hseconds (· % 60)))
  | weekday hs =>
    exact call_of_result nat rfl rfl rfl rfl (.of_answers (weekday_answers _ hs hone))
  | weekdayOfType hs ht =>
    exact call_of_result nat rfl rfl rfl rfl (.of_answers (weekday_answers _ hs ht))
  | weekNumber hs =>
    have hweek := weekNumber_answersUnless context.now hs hone
    simp only [show ¬ ((1 : Int) = 21) by decide, and_false] at hweek
    exact call_of_result nat rfl rfl rfl rfl hweek
  | weekNumberOfType hs ht =>
    exact call_of_result nat rfl rfl rfl rfl (weekNumber_answersUnless _ hs ht)
  | months hname hs hm =>
    simp only [List.mem_cons, List.not_mem_nil, or_false] at hname
    rcases hname with rfl | rfl
    · exact call_of_result nat rfl rfl rfl rfl
        (months_answersUnless _ hs hm fun date months => date.shiftMonths? months date.day)
    · exact call_of_result nat rfl rfl rfl rfl
        (months_answersUnless _ hs hm fun date months => date.shiftMonths? months 31)
  | difference unit hs hf =>
    exact call_of_result int rfl rfl rfl rfl (difference_answersUnless _ hs hf unit)
  | days hf hs =>
    exact call_of_result int rfl rfl rfl rfl (.of_answers (days_answers _ hf hs))
  | workdaysBetween hs hf =>
    exact call_of_result int rfl rfl rfl rfl
      (.of_answers (workdaysBetween_answers _ hs hf areSerials_empty))
  | workdaysBetweenUnder hs hf hh =>
    exact call_of_result int rfl rfl rfl (firstErrorOf_holidays _ _ hh)
      (.of_answers (workdaysBetween_answers _ hs hf hh))
  | workday hs hd =>
    exact call_of_result nat rfl rfl rfl rfl
      (.of_answers (workday_answers _ hs hd areSerials_empty))
  | workdayUnder hs hd hh =>
    exact call_of_result nat rfl rfl rfl (firstErrorOf_holidays _ _ hh)
      (.of_answers (workday_answers _ hs hd hh))

/-- From midday of day zero to the day after, in days that ignore the years, and the same number of
months later: both calls ask for the date of day zero. In days the difference is a number. -/
theorem date_call_answers_unless_lost_on_day_zero :
    let noon : Value := .ofFloat (Float.ofBits 0x3fe0000000000000)
    let context : Context := ⟨⟨⟨2024, 1, 15⟩, .midnight⟩, fun _ => fail .arguments⟩
    (Serial.InRange (.float (Float.ofBits 0x3fe0000000000000)) ∧ Serial.InRange (.int 1)) ∧
    (Catalog.standard.call context "DATEDIF" [noon, .ofInt 1, .text "yd"] []).Yields
      (fail .timeOnly) [] ∧
    (Catalog.standard.call context "EDATE" [noon, .ofInt 0] []).Yields (fail .timeOnly) [] ∧
    ∃ v, (Catalog.standard.call context "DATEDIF" [noon, .ofInt 1, .text "d"] []).Yields
      (.ok v) [] ∧ v.IsNumberOrError := by
  intro noon context
  have hnoon : Serial.InRange (.float (Float.ofBits 0x3fe0000000000000)) := by
    constructor <;> decide +kernel
  have hone : Serial.InRange (.int 1) := Serial.inRange_int (by decide) (by decide)
  have hwhole : (Number.float (Float.ofBits 0x3fe0000000000000)).truncate = 0 := by decide +kernel
  have hzero : (Number.int 0).hasDouble = true :=
    Number.hasDouble_int_of_lt (by decide)
  refine ⟨⟨hnoon, hone⟩, ?_, ?_, ?_⟩
  · refine (date_call_answers_unless_lost context (.difference "yd" hnoon hone)).1 ?_
    rw [hwhole]
    exact ⟨by decide, by decide, .inr ⟨by decide, rfl⟩⟩
  · exact (date_call_answers_unless_lost context (.months (by decide) hnoon hzero)).1 hwhole
  · refine (date_call_answers_unless_lost context (.difference "d" hnoon hone)).2 fun h => ?_
    exact h.2.1 (by decide)

end Dates

end SheetFormulas
