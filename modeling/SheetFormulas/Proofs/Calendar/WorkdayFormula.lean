import SheetFormulas.Dates.Week
import SheetFormulas.Proofs.Calendar.EverySerial

/-!
The number of working days as a formula. Up to a serial there are five days from Monday to Friday
for each whole week and those of the week that has begun; from them the holidays that fall on such
days are taken away, each one once.
-/

namespace SheetFormulas.Dates

open Value

/-- The number of days from Monday to Friday among the serials from zero up to one. -/
def weekdaysThrough (serial : Int) : Int :=
  if serial < 0 then 0 else 5 * (serial / 7) + max 0 (min 5 (serial % 7 - 1))

/-- Whether a serial is one of the first five days of a week that starts on Monday. -/
def isMondayToFriday (serial : Nat) : Bool :=
  match weekdayOf serial 2 with
  | .ok day => day ≤ 5
  | .error _ => false

/-- The holidays of an argument between two serials, both included, that are days from Monday to
Friday. -/
def weekdayHolidays (holidays : Value) (first last : Nat) : Finset Nat :=
  (Finset.Icc first last).filter fun serial =>
    (isMondayToFriday serial && holidays.leaves.any (isOnDay serial)) = true

theorem isWeekday_eq (serial : Nat) : isWeekday serial = decide (2 ≤ serial % 7) := by
  rw [Bool.eq_iff_iff, decide_eq_true_iff]
  unfold isWeekday
  rw [Serial.dayOfWeek_natCast]
  simp only [Bool.and_eq_true, bne_iff_ne]
  omega

theorem isMondayToFriday_eq (serial : Nat) : isMondayToFriday serial = isWeekday serial := by
  have hday : weekdayOf serial 2 = .ok (daysInto 1 (Serial.dayOfWeek serial) + 1) := rfl
  unfold isMondayToFriday daysInto at *
  rw [hday, isWeekday_eq, Serial.dayOfWeek_natCast]
  refine decide_eq_decide.mpr ?_
  omega

theorem weekdaysThrough_succ (serial : Nat) :
    weekdaysThrough serial =
      weekdaysThrough ((serial : Int) - 1) + if 2 ≤ serial % 7 then 1 else 0 := by
  unfold weekdaysThrough
  rw [if_neg (by omega)]
  rcases Nat.eq_zero_or_pos serial with rfl | hpos
  · rfl
  · rw [if_neg (by omega)]
    -- the serial before lies in the same week, or it ends the week before
    have hweek : (serial : Int) % 7 = ((serial : Int) - 1) % 7 + 1 ∧
          (serial : Int) / 7 = ((serial : Int) - 1) / 7 ∨
        (serial : Int) % 7 = 0 ∧ ((serial : Int) - 1) % 7 = 6 ∧
          (serial : Int) / 7 = ((serial : Int) - 1) / 7 + 1 := by omega
    split <;> omega

/-- The days from Monday to Friday below a serial, counted one by one, follow the formula. -/
theorem daysBelow_isWeekday (serial : Nat) :
    (daysBelow isWeekday serial : Int) = weekdaysThrough ((serial : Int) - 1) := by
  induction serial with
  | zero => rfl
  | succ serial ih =>
    have hcast : ((serial + 1 : Nat) : Int) - 1 = serial := by omega
    rw [hcast, weekdaysThrough_succ, ← ih, daysBelow_succ]
    simp only [isWeekday_eq, decide_eq_true_iff]
    split <;> rfl

/-- Days with one property are those with a second one too and those without it. -/
theorem daysBelow_and (p q : Nat → Bool) (serial : Nat) :
    daysBelow (fun day => p day && !q day) serial + daysBelow (fun day => p day && q day) serial =
      daysBelow p serial := by
  induction serial with
  | zero => rfl
  | succ serial ih =>
    rw [daysBelow_succ, daysBelow_succ, daysBelow_succ, ← ih]
    cases p serial <;> cases q serial <;> simp <;> omega

/-- The working days between two serials are the days from Monday to Friday less the holidays on
such days. -/
theorem countWorkdays_eq (holidays : Value) {first last : Nat} (h : first ≤ last) :
    (countWorkdays (isWorkdayUnder holidays) 0 first (last + 1 - first) : Int) =
      weekdaysThrough last - weekdaysThrough ((first : Int) - 1) -
        (weekdayHolidays holidays first last).card := by
  -- every count is one from zero, where the two kinds of days add up day by day
  have hsplit (serial : Nat) :
      daysBelow (isWorkdayUnder holidays) serial +
        daysBelow (fun day => isMondayToFriday day && holidays.leaves.any (isOnDay day)) serial =
      daysBelow isWeekday serial := by
    simp only [isMondayToFriday_eq]
    exact daysBelow_and isWeekday _ serial
  have hcount : countWorkdays (isWorkdayUnder holidays) 0 first (last + 1 - first) + _ = _ :=
    countWorkdays_add_daysBelow h
  have hcard : (weekdayHolidays holidays first last).card + _ = _ :=
    card_filter_Icc_add
      (fun day => isMondayToFriday day && holidays.leaves.any (isOnDay day)) h
  have hfirst := hsplit first
  have hlast := hsplit (last + 1)
  have hbefore := daysBelow_isWeekday first
  have hthrough := daysBelow_isWeekday (last + 1)
  have hcast : ((last + 1 : Nat) : Int) - 1 = last := by omega
  rw [hcast] at hthrough
  omega

theorem call_workdaysBetween_yields (context : Context) {start finish : Number}
    (hs : Serial.InRange start) (hf : Serial.InRange finish) {holidays : Value}
    (h : AreSerials holidays) :
    (Catalog.standard.call context "NETWORKDAYS"
        [.number start, .number finish, holidays] []).Yields
      (.ok (.ofInt (if start.truncate.toNat ≤ finish.truncate.toNat then
        countWorkdays (isWorkdayUnder holidays) 0 start.truncate.toNat
          (finish.truncate.toNat + 1 - start.truncate.toNat)
      else
        -(countWorkdays (isWorkdayUnder holidays) 0 finish.truncate.toNat
          (start.truncate.toNat + 1 - finish.truncate.toNat) : Int)))) [] :=
  Catalog.standard_call_yields_ok rfl rfl rfl (firstErrorOf_holidays start finish h)
    (workdaysBetween_number context.now h hs hf)

/-- The working days from one serial to a later one, both included, are the days from Monday to
Friday up to the later one, less those before the earlier one and the holidays on such days. If the
first serial is the later one, the number is the opposite of the one with the serials exchanged. -/
theorem workdays_between_follow_formula (context : Context) {start finish : Number}
    (hs : Serial.InRange start) (hf : Serial.InRange finish) {holidays : Value}
    (h : AreSerials holidays) :
    (start.truncate ≤ finish.truncate →
      (Catalog.standard.call context "NETWORKDAYS"
          [.number start, .number finish, holidays] []).Yields
        (.ok (.ofInt (weekdaysThrough finish.truncate - weekdaysThrough (start.truncate - 1) -
          (weekdayHolidays holidays start.truncate.toNat finish.truncate.toNat).card))) []) ∧
    (finish.truncate < start.truncate →
      ∃ count : Int,
        (Catalog.standard.call context "NETWORKDAYS"
          [.number finish, .number start, holidays] []).Yields (.ok (.ofInt count)) [] ∧
        (Catalog.standard.call context "NETWORKDAYS"
          [.number start, .number finish, holidays] []).Yields (.ok (.ofInt (-count))) []) := by
  have hstart := hs.truncate
  have hfinish := hf.truncate
  have hyields := call_workdaysBetween_yields context hs hf h
  constructor
  · intro hle
    rw [if_pos (by omega), countWorkdays_eq holidays (by omega), Int.toNat_of_nonneg hstart.1,
      Int.toNat_of_nonneg hfinish.1] at hyields
    exact hyields
  · intro hlt
    have hback := call_workdaysBetween_yields context hf hs h
    rw [if_pos (by omega)] at hback
    rw [if_neg (by omega)] at hyields
    exact ⟨_, hback, hyields⟩

/-- From Friday, January 5th, 2024 to the Monday after, with the Monday twice among the holidays and
the Saturday once: only the Friday is a working day. -/
theorem workdays_between_follow_formula_over_weekend :
    let context : Context := ⟨⟨⟨2024, 1, 15⟩, .midnight⟩, fun _ => fail .arguments⟩
    let holidays : Value :=
      .array [.array [.ofInt 45299, .ofInt 45297], .empty, .ofInt 45299]
    (Serial.InRange (.int 45296) ∧ Serial.InRange (.int 45299) ∧ AreSerials holidays) ∧
    (Catalog.standard.call context "NETWORKDAYS"
      [.ofInt 45296, .ofInt 45299, holidays] []).Yields (.ok (.ofInt 1)) [] ∧
    (Catalog.standard.call context "NETWORKDAYS"
      [.ofInt 45299, .ofInt 45296, holidays] []).Yields (.ok (.ofInt (-1))) [] := by
  intro context holidays
  have hfriday : Serial.InRange (.int 45296) := Serial.inRange_int (by decide) (by decide)
  have hmonday : Serial.InRange (.int 45299) := Serial.inRange_int (by decide) (by decide)
  have hholidays : AreSerials holidays := by
    intro v hv
    have hv' : v ∈ [Value.ofInt 45299, .ofInt 45297, .empty, .ofInt 45299] := hv
    simp only [List.mem_cons, List.not_mem_nil, or_false] at hv'
    rcases hv' with rfl | rfl | rfl | rfl
    · exact .inr ⟨_, rfl, hmonday⟩
    · exact .inr ⟨_, rfl, Serial.inRange_int (by decide) (by decide)⟩
    · exact .inl rfl
    · exact .inr ⟨_, rfl, hmonday⟩
  have hcount : weekdaysThrough (Number.int 45299).truncate -
      weekdaysThrough ((Number.int 45296).truncate - 1) -
      (weekdayHolidays holidays (Number.int 45296).truncate.toNat
        (Number.int 45299).truncate.toNat).card = 1 := by decide +kernel
  have hforward := (workdays_between_follow_formula context hfriday hmonday hholidays).1 (by decide)
  rw [hcount] at hforward
  obtain ⟨count, hone, hback⟩ :=
    (workdays_between_follow_formula context hmonday hfriday hholidays).2 (by decide)
  obtain ⟨hsame, -⟩ := hone.unique hforward
  cases hsame
  exact ⟨⟨hfriday, hmonday, hholidays⟩, hforward, hback⟩

end SheetFormulas.Dates
