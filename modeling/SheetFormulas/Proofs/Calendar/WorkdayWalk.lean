import Mathlib.Algebra.BigOperators.Intervals
import Mathlib.Data.Nat.Count
import SheetFormulas.Dates.Workdays

/-!
Walks over working days against counts of working days. Days are counted from zero with `Nat.count`;
what a walk has passed over and what lies between two serials are differences of such counts.
-/

namespace SheetFormulas.Dates

variable {isWorking : Nat → Bool}

/-- The number of days below a serial that satisfy a test. -/
abbrev daysBelow (isWorking : Nat → Bool) (serial : Nat) : Nat :=
  Nat.count (fun day => isWorking day = true) serial

theorem daysBelow_succ (isWorking : Nat → Bool) (serial : Nat) :
    daysBelow isWorking (serial + 1) =
      daysBelow isWorking serial + if isWorking serial then 1 else 0 :=
  Nat.count_succ _ _

theorem daysBelow_succ_of_pos {serial : Nat} (h : isWorking serial = true) :
    daysBelow isWorking (serial + 1) = daysBelow isWorking serial + 1 := by
  rw [daysBelow_succ, if_pos h]

theorem daysBelow_succ_of_neg {serial : Nat} (h : ¬ isWorking serial = true) :
    daysBelow isWorking (serial + 1) = daysBelow isWorking serial := by
  rw [daysBelow_succ, if_neg h, Nat.add_zero]

theorem countWorkdays_add (found first length : Nat) :
    countWorkdays isWorking found first length + daysBelow isWorking first =
      found + daysBelow isWorking (first + length) := by
  induction length generalizing found first with
  | zero => rfl
  | succ length ih =>
    have hstep := ih (if isWorking first then found + 1 else found) (first + 1)
    rw [countWorkdays]
    rw [Nat.add_right_comm, Nat.add_assoc] at hstep
    by_cases hw : isWorking first = true
    · rw [if_pos hw, daysBelow_succ_of_pos hw] at hstep
      rw [if_pos hw]
      omega
    · rw [if_neg hw, daysBelow_succ_of_neg hw] at hstep
      rw [if_neg hw]
      omega

theorem walkUp_zero (room day : Nat) : walkUp isWorking room day 0 = some day := by
  cases room <;> rfl

theorem walkDown_zero (day : Nat) : walkDown isWorking day 0 = some day := by
  cases day <;> rfl

/-- A walk upward passes over as many working days as were asked for and ends on the last of them. -/
theorem walkUp_eq_some {room day remaining reached : Nat}
    (h : walkUp isWorking room day remaining = some reached) :
    daysBelow isWorking (reached + 1) = daysBelow isWorking (day + 1) + remaining ∧
      reached ≤ day + room ∧ (0 < remaining → day < reached ∧ isWorking reached = true) := by
  fun_induction walkUp isWorking room day remaining with
  | case1 room day =>
    cases h
    exact ⟨rfl, Nat.le_add_right _ _, fun hpos => absurd hpos (Nat.lt_irrefl 0)⟩
  | case2 => cases h
  | case3 room day remaining hw ih =>
    obtain ⟨hcount, hroom, hlast⟩ := ih h
    rw [daysBelow_succ_of_pos hw] at hcount
    refine ⟨by omega, by omega, fun _ => ?_⟩
    rcases Nat.eq_zero_or_pos remaining with rfl | hpos
    · rw [walkUp_zero] at h
      cases h
      exact ⟨Nat.lt_succ_self _, hw⟩
    · exact ⟨Nat.lt_of_succ_lt (hlast hpos).1, (hlast hpos).2⟩
  | case4 room day remaining hw ih =>
    obtain ⟨hcount, hroom, hlast⟩ := ih h
    rw [daysBelow_succ_of_neg hw] at hcount
    obtain ⟨hlt, hr⟩ := hlast (Nat.succ_pos _)
    exact ⟨hcount, by omega, fun _ => ⟨Nat.lt_of_succ_lt hlt, hr⟩⟩

/-- A walk upward finds no end only if there are too few working days in its room. -/
theorem walkUp_eq_none {room day remaining : Nat} (h : walkUp isWorking room day remaining = none) :
    daysBelow isWorking (day + room + 1) < daysBelow isWorking (day + 1) + remaining := by
  fun_induction walkUp isWorking room day remaining with
  | case1 => cases h
  | case2 => exact Nat.lt_add_of_pos_right (Nat.succ_pos _)
  | case3 room day remaining hw ih =>
    have hless := ih h
    rw [daysBelow_succ_of_pos hw, Nat.succ_add_eq_add_succ] at hless
    omega
  | case4 room day remaining hw ih =>
    have hless := ih h
    rwa [daysBelow_succ_of_neg hw, Nat.succ_add_eq_add_succ] at hless

/-- A walk downward passes over as many working days as were asked for and ends on the first of
them. -/
theorem walkDown_eq_some {day remaining reached : Nat}
    (h : walkDown isWorking day remaining = some reached) :
    daysBelow isWorking reached + remaining = daysBelow isWorking day ∧
      (0 < remaining → reached < day ∧ isWorking reached = true) := by
  fun_induction walkDown isWorking day remaining with
  | case1 day =>
    cases h
    exact ⟨rfl, fun hpos => absurd hpos (Nat.lt_irrefl 0)⟩
  | case2 => cases h
  | case3 day remaining hw ih =>
    obtain ⟨hcount, hlast⟩ := ih h
    rw [daysBelow_succ_of_pos hw]
    refine ⟨by omega, fun _ => ?_⟩
    rcases Nat.eq_zero_or_pos remaining with rfl | hpos
    · rw [walkDown_zero] at h
      cases h
      exact ⟨Nat.lt_succ_self _, hw⟩
    · exact ⟨Nat.lt_succ_of_lt (hlast hpos).1, (hlast hpos).2⟩
  | case4 day remaining hw ih =>
    obtain ⟨hcount, hlast⟩ := ih h
    rw [daysBelow_succ_of_neg hw]
    obtain ⟨hlt, hr⟩ := hlast (Nat.succ_pos _)
    exact ⟨hcount, fun _ => ⟨Nat.lt_succ_of_lt hlt, hr⟩⟩

/-- A walk downward finds no end only if there are too few working days before its start. -/
theorem walkDown_eq_none {day remaining : Nat} (h : walkDown isWorking day remaining = none) :
    daysBelow isWorking day < remaining := by
  fun_induction walkDown isWorking day remaining with
  | case1 => cases h
  | case2 => exact Nat.succ_pos _
  | case3 day remaining hw ih =>
    rw [daysBelow_succ_of_pos hw]
    exact Nat.succ_lt_succ (ih h)
  | case4 day remaining hw ih =>
    rw [daysBelow_succ_of_neg hw]
    exact ih h

/-- The days from one serial up to another that satisfy a test, as a set, are as many as the counts
below the two differ by. -/
theorem card_filter_Ico_add (isWorking : Nat → Bool) {first stop : Nat} (h : first ≤ stop) :
    ((Finset.Ico first stop).filter (fun day => isWorking day = true)).card +
        daysBelow isWorking first =
      daysBelow isWorking stop := by
  induction stop, h using Nat.le_induction with
  | base => rw [Finset.Ico_self, Finset.filter_empty, Finset.card_empty, Nat.zero_add]
  | succ stop h ih =>
    rw [Finset.card_filter, Finset.sum_Ico_succ_top h, ← Finset.card_filter, daysBelow_succ, ← ih,
      Nat.add_right_comm]

theorem card_filter_Ioc_add (isWorking : Nat → Bool) {first last : Nat} (h : first ≤ last) :
    ((Finset.Ioc first last).filter (fun day => isWorking day = true)).card +
        daysBelow isWorking (first + 1) =
      daysBelow isWorking (last + 1) := by
  rw [← Finset.Ico_add_one_add_one_eq_Ioc]
  exact card_filter_Ico_add isWorking (Nat.succ_le_succ h)

theorem card_filter_Icc_add (isWorking : Nat → Bool) {first last : Nat} (h : first ≤ last) :
    ((Finset.Icc first last).filter (fun day => isWorking day = true)).card +
        daysBelow isWorking first =
      daysBelow isWorking (last + 1) := by
  rw [← Finset.Ico_add_one_right_eq_Icc]
  exact card_filter_Ico_add isWorking (Nat.le_succ_of_le h)

/-- A walk upward ends on a working day if the calendar has enough of them after its start. -/
theorem walk_of_pos (isWorking : Nat → Bool) {day : Nat} {days : Int} (hday : day ≤ Serial.last)
    (hpos : 0 < days) :
    if days ≤ ((Finset.Ioc day Serial.last).filter (fun d => isWorking d = true)).card then
      ∃ reached, walk isWorking day days = .ok reached ∧
        (day < reached ∧ reached ≤ Serial.last ∧ isWorking reached = true) ∧
        (daysBelow isWorking (reached + 1) : Int) = daysBelow isWorking (day + 1) + days
    else ∃ cause, walk isWorking day days = refuse cause ∧ cause.kind = .badNumber := by
  have hcard := card_filter_Ioc_add isWorking hday
  unfold walk
  rw [if_pos hpos.le]
  cases hw : walkUp isWorking (Serial.last - day) day days.toNat with
  | some reached =>
    obtain ⟨hcount, hroom, hlast⟩ := walkUp_eq_some hw
    obtain ⟨hlt, hworking⟩ := hlast (by omega)
    rw [Nat.add_sub_cancel' hday] at hroom
    have hmono : daysBelow isWorking (reached + 1) ≤ daysBelow isWorking (Serial.last + 1) :=
      Nat.count_monotone _ (Nat.succ_le_succ hroom)
    rw [if_pos (by omega)]
    exact ⟨reached, rfl, ⟨hlt, hroom, hworking⟩, by omega⟩
  | none =>
    have hless := walkUp_eq_none hw
    rw [Nat.add_sub_cancel' hday] at hless
    rw [if_neg (by omega)]
    exact ⟨_, rfl, rfl⟩

/-- A walk downward ends on a working day if there are enough of them before its start. -/
theorem walk_of_neg (isWorking : Nat → Bool) (day : Nat) {days : Int} (hneg : days < 0) :
    if -days ≤ ((Finset.range day).filter (fun d => isWorking d = true)).card then
      ∃ reached, walk isWorking day days = .ok reached ∧
        (reached < day ∧ isWorking reached = true) ∧
        (daysBelow isWorking reached : Int) - days = daysBelow isWorking day
    else ∃ cause, walk isWorking day days = refuse cause ∧ cause.kind = .badNumber := by
  have hcard : daysBelow isWorking day = _ := Nat.count_eq_card_filter_range _ day
  unfold walk
  rw [if_neg (not_le.mpr hneg)]
  cases hw : walkDown isWorking day (-days).toNat with
  | some reached =>
    obtain ⟨hcount, hlast⟩ := walkDown_eq_some hw
    rw [if_pos (by omega)]
    exact ⟨reached, rfl, hlast (by omega), by omega⟩
  | none =>
    have hless := walkDown_eq_none hw
    rw [if_neg (by omega)]
    exact ⟨_, rfl, rfl⟩

theorem walk_zero (day : Nat) : walk isWorking day 0 = .ok day := by
  unfold walk
  rw [if_pos le_rfl, Int.toNat_zero, walkUp_zero]

end SheetFormulas.Dates
