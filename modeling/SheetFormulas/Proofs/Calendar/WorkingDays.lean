import SheetFormulas.Proofs.Calendar.SerialParts
import SheetFormulas.Proofs.Calendar.WorkdayWalk

/-!
Working days under the holidays of an argument. The date a number of working days away and the
number of working days between two dates undo each other, as long as the calendar holds enough
working days.
-/

namespace SheetFormulas

namespace Dates

open Value

variable {now : Moment} {holidays : Value}

/-- Whether every value in an argument, in nested arrays too, is empty or a serial. -/
def AreSerials (holidays : Value) : Prop :=
  ∀ v ∈ holidays.leaves, v = .empty ∨ ∃ s, v = .number s ∧ Serial.InRange s

/-- Whether a value is a number with this whole part. -/
def isOnDay (serial : Nat) : Value → Bool
  | .number s => s.truncate == serial
  | _ => false

/-- Whether a serial is a day from Monday to Friday and on no holiday of an argument. -/
def isWorkdayUnder (holidays : Value) (serial : Nat) : Bool :=
  isWeekday serial && !holidays.leaves.any (isOnDay serial)

/-- The whole part of a serial, or zero. -/
def wholePart : Value → Nat
  | .number s => s.truncate.toNat
  | _ => 0

theorem holidaySerials_eq (h : AreSerials holidays) :
    holidaySerials now holidays =
      .ok ((holidays.leaves.filter (!·.isEmpty)).map wholePart) := by
  unfold holidaySerials
  rw [flatten_singleton]
  refine Outcome.mapM_eq_ok_map fun v hv => ?_
  obtain ⟨hv, hne⟩ := List.mem_filter.mp hv
  rcases h v hv with rfl | ⟨s, rfl, hs⟩
  · cases hne
  · exact dayOf_number now hs

/-- The working days under the holidays that were read are those under the argument. -/
theorem isWorkday_eq (now : Moment) (h : AreSerials holidays) :
    ∃ read, holidaysOf now holidays = .ok read ∧ isWorkday read = isWorkdayUnder holidays := by
  refine ⟨_, by rw [holidaysOf, holidaySerials_eq h]; rfl, funext fun serial => ?_⟩
  unfold isWorkday isWorkdayUnder
  congr 2
  rw [Std.HashSet.contains_ofList, Bool.eq_iff_iff, List.contains_iff_mem, List.any_eq_true]
  constructor
  · intro hmem
    obtain ⟨v, hv, hday⟩ := List.mem_map.mp hmem
    obtain ⟨hv, hne⟩ := List.mem_filter.mp hv
    rcases h v hv with rfl | ⟨s, rfl, hs⟩
    · cases hne
    · have hnonneg := hs.truncate.1
      have hpart : s.truncate.toNat = serial := hday
      exact ⟨_, hv, beq_iff_eq.mpr (by omega)⟩
  · rintro ⟨v, hv, hday⟩
    refine List.mem_map.mpr ⟨v, List.mem_filter.mpr ⟨hv, ?_⟩, ?_⟩
    · cases v <;> first | rfl | cases hday
    · cases v with
      | number s => rw [wholePart, beq_iff_eq.mp hday, Int.toNat_natCast]
      | _ => cases hday

/-- The working days after one serial and up to another. -/
def workdaysAfter (holidays : Value) (first last : Nat) : Finset Nat :=
  (Finset.Ioc first last).filter fun day => isWorkdayUnder holidays day = true

/-- The working days before a serial. -/
def workdaysBefore (holidays : Value) (last : Nat) : Finset Nat :=
  (Finset.range last).filter fun day => isWorkdayUnder holidays day = true

theorem dayOf_ofNat {day : Nat} (h : day ≤ Serial.last) : dayOf now (ofNat day) = .ok day :=
  dayOf_number now (Serial.inRange_ofNat h)

/-- The number of working days between two serials, counted from the earlier one to the later. -/
theorem workdaysBetween_number (now : Moment) (h : AreSerials holidays) {start finish : Number}
    (hs : Serial.InRange start) (hf : Serial.InRange finish) :
    workdaysBetween now (.number start) (.number finish) holidays =
      .ok (if start.truncate.toNat ≤ finish.truncate.toNat then
        countWorkdays (isWorkdayUnder holidays) 0 start.truncate.toNat
          (finish.truncate.toNat + 1 - start.truncate.toNat)
      else
        -(countWorkdays (isWorkdayUnder holidays) 0 finish.truncate.toNat
          (start.truncate.toNat + 1 - finish.truncate.toNat) : Int)) := by
  obtain ⟨read, hread, hworking⟩ := isWorkday_eq now h
  unfold workdaysBetween
  rw [dayOf_number now hs, dayOf_number now hf, hread]
  simp only [Outcome.ok_bind]
  rw [hworking]
  split <;> rfl

/-- Working days from one serial to another are counted as the counts from zero differ. -/
theorem countWorkdays_add_daysBelow {isWorking : Nat → Bool} {first last : Nat}
    (hle : first ≤ last) :
    countWorkdays isWorking 0 first (last + 1 - first) + daysBelow isWorking first =
      daysBelow isWorking (last + 1) := by
  rw [countWorkdays_add, Nat.zero_add, Nat.add_sub_cancel' (Nat.le_succ_of_le hle)]

/-- The number of working days between two serials is a difference of counts from zero. -/
theorem workdaysBetween_eq (now : Moment) (h : AreSerials holidays) {first last : Nat}
    (hle : first ≤ last) (hl : last ≤ Serial.last) :
    ∃ count : Nat, workdaysBetween now (ofNat first) (ofNat last) holidays = .ok count ∧
      count + daysBelow (isWorkdayUnder holidays) first =
        daysBelow (isWorkdayUnder holidays) (last + 1) := by
  have hbetween := workdaysBetween_number now h (Serial.inRange_ofNat (hle.trans hl))
    (Serial.inRange_ofNat hl)
  have hwhole : (Number.int first).truncate.toNat ≤ (Number.int last).truncate.toNat := hle
  rw [if_pos hwhole] at hbetween
  exact ⟨_, hbetween, countWorkdays_add_daysBelow hle⟩

theorem workday_eq (h : AreSerials holidays) {start : Number} (hs : Serial.InRange start)
    {days : Int} (hd : (Number.int days).hasDouble = true) :
    workday now (.number start) (.ofInt days) holidays =
      walk (isWorkdayUnder holidays) start.truncate.toNat days := by
  obtain ⟨read, hread, hworking⟩ := isWorkday_eq now h
  unfold workday
  rw [dayOf_number now hs, toInt_ofInt_of_hasDouble hd, hread]
  simp only [Outcome.ok_bind]
  rw [hworking]

/-- The date no working days away is the start itself. The date some working days away is the
working day up to which as many are counted, from the day after the start or to the day before it;
where the calendar has too few working days on that side, there is none. -/
theorem workday_inverts_workdaysBetween (now : Moment) {holidays : Value}
    (h : AreSerials holidays) {start : Number} (hs : Serial.InRange start) :
    workday now (.number start) (.ofInt 0) holidays = .ok start.truncate.toNat ∧
    (∀ days : Int, 0 < days → (Number.int days).hasDouble = true →
      if days ≤ (workdaysAfter holidays start.truncate.toNat Serial.last).card then
        ∃ day, workday now (.number start) (.ofInt days) holidays = .ok day ∧
          (start.truncate.toNat < day ∧ day ≤ Serial.last ∧ isWorkdayUnder holidays day = true) ∧
          workdaysBetween now (ofNat (start.truncate.toNat + 1)) (ofNat day) holidays = .ok days
      else
        ∃ cause, workday now (.number start) (.ofInt days) holidays = refuse cause ∧
          cause.kind = .badNumber) ∧
    ∀ days : Int, days < 0 → (Number.int days).hasDouble = true →
      if -days ≤ (workdaysBefore holidays start.truncate.toNat).card then
        ∃ day, workday now (.number start) (.ofInt days) holidays = .ok day ∧
          (day < start.truncate.toNat ∧ isWorkdayUnder holidays day = true) ∧
          workdaysBetween now (ofNat day) (ofNat (start.truncate.toNat - 1)) holidays = .ok (-days)
      else
        ∃ cause, workday now (.number start) (.ofInt days) holidays = refuse cause ∧
          cause.kind = .badNumber := by
  have hrange := hs.truncate
  refine ⟨?_, fun days hpos hd => ?_, fun days hneg hd => ?_⟩
  · have hzero : (Number.int 0).hasDouble = true := Number.hasDouble_int_of_lt (by decide)
    rw [workday_eq h hs hzero, walk_zero]
  · have hplace : start.truncate.toNat ≤ Serial.last := by omega
    have hwalk := walk_of_pos (isWorkdayUnder holidays) hplace hpos
    rw [workday_eq h hs hd, workdaysAfter]
    split
    · next henough =>
      rw [if_pos henough] at hwalk
      obtain ⟨day, hday, hplace, hcount⟩ := hwalk
      obtain ⟨count, hbetween, hc⟩ := workdaysBetween_eq now h
        (show start.truncate.toNat + 1 ≤ day from hplace.1) hplace.2.1
      exact ⟨day, hday, hplace, by rw [hbetween]; congr 1; omega⟩
    · next hfew => rwa [if_neg hfew] at hwalk
  · have hwalk := walk_of_neg (isWorkdayUnder holidays) start.truncate.toNat hneg
    rw [workday_eq h hs hd, workdaysBefore]
    split
    · next henough =>
      rw [if_pos henough] at hwalk
      obtain ⟨day, hday, hplace, hcount⟩ := hwalk
      obtain ⟨count, hbetween, hc⟩ := workdaysBetween_eq now h
        (show day ≤ start.truncate.toNat - 1 by omega) (by omega)
      rw [Nat.sub_add_cancel (by omega)] at hc
      exact ⟨day, hday, hplace, by rw [hbetween]; congr 1; omega⟩
    · next hfew => rwa [if_neg hfew] at hwalk

/-- From midday two days before the end of the calendar, with the day between a holiday: one working
day away lies the last day of the calendar, and two working days away there is no date. -/
theorem workday_inverts_workdaysBetween_at_end :
    (AreSerials (.array [.array [.ofInt 2958464], .empty]) ∧
      Serial.InRange (.float (Float.ofBits 0x4146923fc0000000))) ∧
    (workday ⟨⟨2024, 1, 15⟩, .midnight⟩ (.number (.float (Float.ofBits 0x4146923fc0000000)))
          (.ofInt 1) (.array [.array [.ofInt 2958464], .empty]) = .ok 2958465 ∧
      workdaysBetween ⟨⟨2024, 1, 15⟩, .midnight⟩ (ofNat 2958464) (ofNat 2958465)
          (.array [.array [.ofInt 2958464], .empty]) = .ok 1) ∧
    ∃ cause, workday ⟨⟨2024, 1, 15⟩, .midnight⟩
        (.number (.float (Float.ofBits 0x4146923fc0000000))) (.ofInt 2)
        (.array [.array [.ofInt 2958464], .empty]) = refuse cause ∧ cause.kind = .badNumber := by
  have hserials : AreSerials (.array [.array [.ofInt 2958464], .empty]) := by
    intro v hv
    have hv' : v ∈ [Value.ofInt 2958464, .empty] := hv
    simp only [List.mem_cons, List.not_mem_nil, or_false] at hv'
    rcases hv' with rfl | rfl
    · exact .inr ⟨_, rfl, Serial.inRange_int (by decide) (by decide)⟩
    · exact .inl rfl
  have hnoon : Serial.InRange (.float (Float.ofBits 0x4146923fc0000000)) := by
    constructor <;> decide +kernel
  have hwhole : (Number.float (Float.ofBits 0x4146923fc0000000)).truncate.toNat = 2958463 := by
    decide +kernel
  have hafter : workdaysAfter (.array [.array [.ofInt 2958464], .empty]) 2958463 Serial.last =
      {2958465} := by decide +kernel
  have hdouble (n : Int) (hn : n.natAbs < 3) : (Number.int n).hasDouble = true :=
    Number.hasDouble_int_of_lt (by omega)
  obtain ⟨-, hup, -⟩ := workday_inverts_workdaysBetween ⟨⟨2024, 1, 15⟩, .midnight⟩ hserials hnoon
  rw [hwhole, hafter, Finset.card_singleton] at hup
  have hone := hup 1 (by decide) (hdouble 1 (by decide))
  have htwo := hup 2 (by decide) (hdouble 2 (by decide))
  rw [if_pos (by decide)] at hone
  rw [if_neg (by decide)] at htwo
  obtain ⟨day, hday, ⟨hlt, hle, hworking⟩, hbetween⟩ := hone
  have hlast : day = 2958465 := by
    have hmem : day ∈ workdaysAfter (.array [.array [.ofInt 2958464], .empty]) 2958463 Serial.last :=
      Finset.mem_filter.mpr ⟨Finset.mem_Ioc.mpr ⟨hlt, hle⟩, hworking⟩
    rwa [hafter, Finset.mem_singleton] at hmem
  subst hlast
  exact ⟨⟨hserials, hnoon⟩, ⟨hday, hbetween⟩, htwo⟩

end Dates

end SheetFormulas
