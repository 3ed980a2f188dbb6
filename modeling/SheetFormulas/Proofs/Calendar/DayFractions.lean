import SheetFormulas.Proofs.Binary64.RoundingError
import SheetFormulas.Proofs.Calendar.SerialParts

/-!
Days with a fraction, added in double arithmetic. The sum stays on its day but for the last
microseconds before midnight, where it rounds up to the next one: later days have doubles that are
further apart.
-/

namespace SheetFormulas

attribute [local irreducible] Binary64.unitsPerOne

open Binary64

namespace TimeOfDay

/-- The microseconds since midnight. -/
def microseconds (t : TimeOfDay) : Nat := t.seconds * 1000000 + t.microsecond

/-- The microseconds that are left of the day. -/
def untilMidnight (t : TimeOfDay) : Nat := 86400000000 - t.microseconds

theorem isValid_iff (t : TimeOfDay) :
    t.isValid = true ↔ t.hour < 24 ∧ t.minute < 60 ∧ t.second < 60 ∧ t.microsecond < 1000000 := by
  simp [isValid, and_assoc]

theorem seconds_lt {t : TimeOfDay} (h : t.isValid) : t.seconds < 86400 := by
  rw [isValid_iff] at h
  unfold seconds
  omega

theorem untilMidnight_spec {t : TimeOfDay} (h : t.isValid) :
    1 ≤ t.untilMidnight ∧ t.untilMidnight + t.microseconds = 86400000000 := by
  have hs := seconds_lt h
  rw [isValid_iff] at h
  unfold untilMidnight microseconds
  omega

end TimeOfDay

namespace Serial

section Doubles

variable {x : Float}

/-- A finite double is a serial if its value is in range. -/
theorem inRange_float (hx : x.isFinite = true) (h : 0 ≤ value x) (hl : value x < 2958466) :
    InRange (.float x) := by
  have hexact := Number.isExact_float hx
  have hlast : (Number.int 2958466).IsExact :=
    Number.IsDatum.isExact (show (2958466 : Int).natAbs ≤ 2 ^ 53 by decide)
  constructor
  · rw [Number.isExact_zero.le_iff hexact, Number.signedUnits_zero]
    exact (value_nonneg_iff x).mp h
  · rw [hexact.lt_iff hlast]
    show signedUnits x < 2958466 * (unitsPerOne : Int)
    rw [value, div_lt_iff₀ unitsPerOne_rat_pos] at hl
    exact_mod_cast hl

/-- The whole part of a double that is not negative. -/
theorem truncate_float (h : 0 ≤ value x) : (Number.float x).truncate = ⌊value x⌋ := by
  rw [← floor_eq, Number.truncate, Binary64.truncate, floor,
    Int.tdiv_eq_ediv_of_nonneg ((value_nonneg_iff x).mp h)]

end Doubles

/-- A day with a fraction of it, in doubles. -/
theorem value_day_add {day : Nat} {fraction : Float} (hd : day ≤ last)
    (hf : fraction.isFinite = true) (h0 : 0 ≤ value fraction) (h1 : value fraction ≤ 1) :
    (ofInt day + fraction).isFinite = true ∧ (day : ℚ) ≤ value (ofInt day + fraction) ∧
      |value (ofInt day + fraction) - (day + value fraction)| ≤ 2 ^ (-32 : ℤ) := by
  unfold last at hd
  have hd' : (day : ℚ) ≤ 2958465 := by exact_mod_cast hd
  obtain ⟨hfinite, hday⟩ := value_ofInt (n := day) (by omega)
  rw [Int.cast_natCast] at hday
  have hsize : |value (ofInt day) + value fraction| < 2 ^ (22 : ℤ) := by
    rw [hday, abs_of_nonneg (by positivity)]
    calc (day : ℚ) + value fraction ≤ 2958465 + 1 := add_le_add hd' h1
      _ < 2 ^ (22 : ℤ) := by norm_num
  obtain ⟨hsum, hnear⟩ := value_add_near hfinite hf (by decide) (by decide) hsize
  have hle := value_le_add hfinite hf (by rw [hday]; positivity) h0 hsum
  rw [hday] at hnear hle
  exact ⟨hsum, hle, hnear⟩

/-- Whether the sum of a day and the fraction of a time of the day rounds up to the next day: the
time that is left of the day is half the spacing of the doubles there at most. -/
def RoundsUp (day : Nat) (time : TimeOfDay) : Prop :=
  time.untilMidnight * 2 ^ 53 ≤ 86400000000 * 2 ^ day.log2

instance (day : Nat) (time : TimeOfDay) : Decidable (RoundsUp day time) :=
  inferInstanceAs (Decidable (_ ≤ _))

section Fractions

variable {seconds microsecond : Nat}

/-- The microseconds of a second as a part of it. -/
theorem value_partOfSecond (hm : microsecond < 1000000) :
    (ofInt microsecond / ofInt 1000000).isFinite = true ∧
      0 ≤ value (ofInt microsecond / ofInt 1000000) ∧
      |value (ofInt microsecond / ofInt 1000000) - microsecond / 1000000| ≤ 2 ^ (-54 : ℤ) := by
  have hm' : (microsecond : ℚ) < 1000000 := by exact_mod_cast hm
  have hm0 : (0 : ℚ) ≤ microsecond := Nat.cast_nonneg _
  obtain ⟨hf, hv⟩ := value_ofInt (n := microsecond) (by omega)
  obtain ⟨hfmillion, hvmillion⟩ := value_ofInt (n := 1000000) (by decide)
  rw [Int.cast_natCast] at hv
  rw [Int.cast_ofNat] at hvmillion
  have hsize : |value (ofInt microsecond) / value (ofInt 1000000)| < 2 ^ (0 : ℤ) := by
    rw [hv, hvmillion, abs_of_nonneg (div_nonneg hm0 (by norm_num)), zpow_zero,
      div_lt_one (by norm_num)]
    exact hm'
  obtain ⟨hfpart, hpart⟩ := value_div_near hf hfmillion (by rw [hvmillion]; norm_num) (by decide)
    (by decide) hsize
  have hpart0 := value_div_nonneg hf hfmillion (by rw [hv]; exact hm0) (by rw [hvmillion]; norm_num)
  rw [hv, hvmillion] at hpart
  exact ⟨hfpart, hpart0, hpart⟩

/-- The seconds since midnight with a part of a second. -/
theorem value_seconds_add {part : Float} (hs : seconds < 86400) (hf : part.isFinite = true)
    (h0 : 0 ≤ value part) (h1 : value part ≤ 1) :
    (ofInt seconds + part).isFinite = true ∧ 0 ≤ value (ofInt seconds + part) ∧
      |value (ofInt seconds + part) - (seconds + value part)| ≤ 2 ^ (-37 : ℤ) := by
  have hs' : (seconds : ℚ) ≤ 86399 := by exact_mod_cast Nat.le_of_lt_succ hs
  have hs0 : (0 : ℚ) ≤ seconds := Nat.cast_nonneg _
  obtain ⟨hfs, hvs⟩ := value_ofInt (n := seconds) (by omega)
  rw [Int.cast_natCast] at hvs
  have hsize : |value (ofInt seconds) + value part| < 2 ^ (17 : ℤ) := by
    rw [hvs, abs_of_nonneg (add_nonneg hs0 h0)]
    norm_num
    linarith
  obtain ⟨hfsum, hsum⟩ := value_add_near hfs hf (by decide) (by decide) hsize
  have hle := value_le_add hfs hf (by rw [hvs]; exact hs0) h0 hfsum
  rw [hvs] at hsum hle
  exact ⟨hfsum, hs0.trans hle, hsum⟩

/-- Seconds as a fraction of the day. -/
theorem value_div_secondsPerDay {x : Float} (hf : x.isFinite = true) (h0 : 0 ≤ value x)
    (h1 : value x < 86400) :
    (x / ofInt secondsPerDay).isFinite = true ∧ 0 ≤ value (x / ofInt secondsPerDay) ∧
      |value (x / ofInt secondsPerDay) - value x / 86400| ≤ 2 ^ (-54 : ℤ) := by
  unfold secondsPerDay
  obtain ⟨hfday, hday⟩ := value_ofInt (n := (86400 : Nat)) (by decide)
  have hvday : value (ofInt (86400 : Nat)) = 86400 := hday.trans (by norm_num)
  have hsize : |value x / value (ofInt (86400 : Nat))| < 2 ^ (0 : ℤ) := by
    rw [hvday, abs_of_nonneg (div_nonneg h0 (by norm_num)), zpow_zero, div_lt_one (by norm_num)]
    exact h1
  obtain ⟨hfinite, hnear⟩ := value_div_near hf hfday (by rw [hvday]; norm_num) (by decide)
    (by decide) hsize
  rw [hvday] at hnear
  exact ⟨hfinite, value_div_nonneg hf hfday h0 (by rw [hvday]; norm_num), hnear⟩

/-- The fraction of the day is near to that of the exact time. -/
theorem value_fractionOf {t : TimeOfDay} (h : t.isValid) :
    (fractionOf t).isFinite = true ∧ 0 ≤ value (fractionOf t) ∧
      |value (fractionOf t) - t.microseconds / 86400000000| ≤ 2 ^ (-52 : ℤ) := by
  have hs := TimeOfDay.seconds_lt h
  have hm := ((TimeOfDay.isValid_iff t).mp h).2.2.2
  have hs' : (t.seconds : ℚ) ≤ 86399 := by exact_mod_cast Nat.le_of_lt_succ hs
  have hm' : (t.microsecond : ℚ) ≤ 999999 := by exact_mod_cast Nat.le_of_lt_succ hm
  obtain ⟨hfpart, hpart0, hpart⟩ := value_partOfSecond hm
  have hbounds := abs_le.mp hpart
  norm_num at hbounds
  obtain ⟨hfsum, hsum0, hsum⟩ := value_seconds_add hs hfpart hpart0 (by linarith [hbounds.2])
  have hbounds' := abs_le.mp hsum
  norm_num at hbounds'
  obtain ⟨hfinite, h0, hnear⟩ := value_div_secondsPerDay hfsum hsum0
    (by linarith [hbounds.2, hbounds'.2])
  have hbounds'' := abs_le.mp hnear
  norm_num at hbounds''
  refine ⟨hfinite, h0, ?_⟩
  rw [fractionOf, TimeOfDay.microseconds, abs_le]
  push_cast
  norm_num
  constructor <;> linarith [hbounds.1, hbounds.2, hbounds'.1, hbounds'.2, hbounds''.1, hbounds''.2]

end Fractions

section Sum

variable {day : Nat} {fraction : Float}

/-- Two multiples of a spacing that are less than it apart are the same. -/
theorem eq_of_multiples_near {m n : ℤ} {spacing : ℚ} (hs : 0 < spacing)
    (h : |m * spacing - n * spacing| < spacing) : m = n := by
  rw [← sub_mul, abs_mul, abs_of_pos hs, mul_lt_iff_lt_one_left hs] at h
  have hint : |m - n| < 1 := by exact_mod_cast h
  exact sub_eq_zero.mp (Int.abs_lt_one_iff.mp hint)

theorem log2_le (hd : day ≤ last) : day.log2 ≤ 21 := by
  unfold last at hd
  rcases Nat.eq_zero_or_pos day with rfl | hpos
  · decide
  · exact Nat.le_of_lt_succ ((Nat.log2_lt hpos.ne').mpr (by omega))

theorem day_add_fraction_lt_two_zpow (h1 : value fraction < 1) :
    (day : ℚ) + value fraction < 2 ^ ((day.log2 : ℤ) + 1) := by
  have hlt : day + 1 ≤ 2 ^ (day.log2 + 1) := Nat.lt_log2_self
  have hlt' : (day + 1 : ℚ) ≤ 2 ^ (day.log2 + 1) := by exact_mod_cast hlt
  rw [← zpow_natCast, Nat.cast_add, Nat.cast_one] at hlt'
  linarith

/-- A fraction that is more than half a spacing away from the next day stays on its day. -/
theorem day_add_lt (hd : day ≤ last) (hf : fraction.isFinite = true) (h0 : 0 ≤ value fraction)
    (h : 2 ^ ((day.log2 : ℤ) - 53) < 1 - value fraction) :
    value (ofInt day + fraction) < day + 1 := by
  have hlog := log2_le hd
  obtain ⟨hfinite, hday⟩ := value_ofInt (n := day) (by unfold last at hd; omega)
  rw [Int.cast_natCast] at hday
  have hspacing : (0 : ℚ) < 2 ^ ((day.log2 : ℤ) - 53) := by positivity
  have hsize : |value (ofInt day) + value fraction| < 2 ^ ((day.log2 : ℤ) + 1) := by
    rw [hday, abs_of_nonneg (add_nonneg (Nat.cast_nonneg _) h0)]
    exact day_add_fraction_lt_two_zpow (by linarith)
  obtain ⟨-, hnear⟩ := value_add_near hfinite hf (by omega) (by omega) hsize
  rw [hday, show (day.log2 : ℤ) + 1 - 54 = day.log2 - 53 by ring] at hnear
  linarith [(abs_le.mp hnear).2]

/-- The next day is a multiple of the spacing of the doubles at a day. -/
theorem exists_next_eq (hd : day ≤ last) :
    ∃ m : ℤ, (day + 1 : ℚ) = m * 2 ^ ((day.log2 : ℤ) + 1 - 53) := by
  have hlog := log2_le hd
  refine ⟨((day + 1) * 2 ^ (52 - day.log2) : ℕ), ?_⟩
  rw [Int.cast_natCast, Nat.cast_mul, Nat.cast_pow, mul_assoc, Nat.cast_two, ← zpow_natCast,
    ← zpow_add₀ two_ne_zero, Nat.cast_sub (by omega)]
  push_cast
  rw [show (52 - (day.log2 : ℤ) + (day.log2 + 1 - 53)) = 0 by ring, zpow_zero, mul_one]

/-- A fraction that is less than half a spacing away from the next day is rounded to that day. -/
theorem day_add_eq (hd : day ≤ last) (hpos : 1 ≤ day) (hf : fraction.isFinite = true)
    (h0 : 0 ≤ value fraction) (h1 : value fraction < 1)
    (h : 1 - value fraction < 2 ^ ((day.log2 : ℤ) - 53)) :
    value (ofInt day + fraction) = day + 1 := by
  have hlog := log2_le hd
  obtain ⟨hfinite, hday⟩ := value_ofInt (n := day) (by unfold last at hd; omega)
  rw [Int.cast_natCast] at hday
  have hsum0 : (0 : ℚ) ≤ day + value fraction := add_nonneg (Nat.cast_nonneg _) h0
  have hsize : |value (ofInt day) + value fraction| < 2 ^ ((day.log2 : ℤ) + 1) := by
    rw [hday, abs_of_nonneg hsum0]
    exact day_add_fraction_lt_two_zpow h1
  have hmin : 2 ^ ((day.log2 : ℤ) + 1 - 1) ≤ |value (ofInt day) + value fraction| := by
    have hself : 2 ^ day.log2 ≤ day := Nat.log2_self_le (by omega)
    have hself' : (2 : ℚ) ^ day.log2 ≤ day := by exact_mod_cast hself
    rw [hday, abs_of_nonneg hsum0, add_sub_cancel_right, zpow_natCast]
    linarith
  obtain ⟨-, hnear⟩ := value_add_near hfinite hf (by omega) (by omega) hsize
  obtain ⟨n, hn⟩ := exists_value_add hfinite hf (by omega) (by omega) hmin hsize
  rw [hday, show (day.log2 : ℤ) + 1 - 54 = day.log2 - 53 by ring] at hnear
  -- both are multiples of the spacing, and less than the spacing apart
  obtain ⟨spacing, hspacing⟩ : ∃ spacing : ℚ, spacing = 2 ^ ((day.log2 : ℤ) + 1 - 53) := ⟨_, rfl⟩
  have hspacing0 : 0 < spacing := by
    rw [hspacing]
    positivity
  have hhalf : (2 : ℚ) ^ ((day.log2 : ℤ) - 53) = spacing / 2 := by
    rw [hspacing, show (day.log2 : ℤ) + 1 - 53 = day.log2 - 53 + 1 by ring,
      zpow_add_one₀ two_ne_zero]
    ring
  obtain ⟨m, hnext⟩ := exists_next_eq hd
  rw [hhalf] at h hnear
  rw [← hspacing] at hn hnext
  have hbounds := abs_le.mp hnear
  rw [hn] at hbounds ⊢
  have hclose : |n * spacing - m * spacing| < spacing := by
    rw [abs_lt]
    constructor <;> linarith [hbounds.1, hbounds.2, hnext]
  rw [hnext, eq_of_multiples_near hspacing0 hclose]

end Sum

section Time

variable {day : Nat} {t : TimeOfDay}

/-- What the fraction of a time leaves of the day, exactly and up to rounding. -/
theorem one_sub_fractionOf_near (h : t.isValid) :
    |1 - value (fractionOf t) - t.untilMidnight / 86400000000| ≤ 2 ^ (-52 : ℤ) := by
  obtain ⟨-, -, hnear⟩ := value_fractionOf h
  obtain ⟨-, hsum⟩ := TimeOfDay.untilMidnight_spec h
  have hsum' : (t.untilMidnight + t.microseconds : ℚ) = 86400000000 := by exact_mod_cast hsum
  have hleft : (t.untilMidnight : ℚ) = 86400000000 - t.microseconds := by linarith
  rw [hleft, ← abs_neg]
  convert hnear using 2
  ring

/-- Half a spacing of the doubles at a day, between two whole numbers of microseconds: it is more than
`2⁻⁵²` of a day away from both. -/
theorem half_spacing_between {e : ℕ} (he : e < 22) :
    (86400000000 * 2 ^ e / 2 ^ 53 = 0 ∨ e ≠ 0 ∧
      86400000000 * 2 ^ e / 2 ^ 53 * 2 ^ 53 + 172800000000 < 86400000000 * 2 ^ e) ∧
    86400000000 * 2 ^ e + 172800000000 < (86400000000 * 2 ^ e / 2 ^ 53 + 1) * 2 ^ 53 := by
  revert e
  decide

/-- What is near to a whole number of microseconds is less than half a spacing if they are. -/
theorem half_spacing_cases {left e : ℕ} {rest : ℚ} (hpos : 1 ≤ left) (he : e ≤ 21)
    (hnear : |rest - left / 86400000000| ≤ 2 ^ (-52 : ℤ)) :
    if left * 2 ^ 53 ≤ 86400000000 * 2 ^ e then e ≠ 0 ∧ rest < 2 ^ ((e : ℤ) - 53)
    else 2 ^ ((e : ℤ) - 53) < rest := by
  obtain ⟨hbelow, habove⟩ := half_spacing_between (Nat.lt_succ_of_le he)
  have hspacing : (2 : ℚ) ^ ((e : ℤ) - 53) = 2 ^ e / 2 ^ 53 := by
    rw [zpow_sub₀ two_ne_zero, zpow_natCast]
    norm_num
  have hbounds := abs_le.mp hnear
  norm_num at hbounds
  rw [hspacing]
  split_ifs with h
  · have hle := (Nat.le_div_iff_mul_le (Nat.two_pow_pos 53)).mpr h
    obtain hz | ⟨hne, hlt⟩ := hbelow
    · omega
    · refine ⟨hne, ?_⟩
      have hlt' : (left * 2 ^ 53 + 172800000000 : ℚ) < 86400000000 * 2 ^ e := by
        exact_mod_cast (Nat.add_le_add_right (Nat.mul_le_mul_right _ hle) _).trans_lt hlt
      rw [lt_div_iff₀ (by positivity)]
      linarith [hbounds.2]
  · have hle : 86400000000 * 2 ^ e / 2 ^ 53 + 1 ≤ left := by
      rw [Nat.succ_le_iff, Nat.div_lt_iff_lt_mul (Nat.two_pow_pos 53)]
      exact Nat.lt_of_not_le h
    have hlt' : (86400000000 * 2 ^ e + 172800000000 : ℚ) < left * 2 ^ 53 := by
      exact_mod_cast habove.trans_le (Nat.mul_le_mul_right _ hle)
    rw [div_lt_iff₀ (by positivity)]
    linarith [hbounds.1]

theorem value_fractionOf_lt_one (h : t.isValid) : value (fractionOf t) < 1 := by
  have hpos : (1 : ℚ) ≤ t.untilMidnight := by exact_mod_cast (TimeOfDay.untilMidnight_spec h).1
  have hbounds := abs_le.mp (one_sub_fractionOf_near h)
  norm_num at hbounds
  linarith [hbounds.1]

/-- The whole part of the sum of a day and the fraction of a time. -/
theorem floor_day_add (hd : day ≤ last) (h : t.isValid) :
    ⌊value (ofInt day + fractionOf t)⌋ = (if RoundsUp day t then day + 1 else day : ℕ) := by
  obtain ⟨hf, h0, -⟩ := value_fractionOf h
  have h1 := value_fractionOf_lt_one h
  have hcases := half_spacing_cases (TimeOfDay.untilMidnight_spec h).1 (log2_le hd)
    (one_sub_fractionOf_near h)
  rw [Int.floor_eq_iff, Int.cast_natCast]
  by_cases hc : RoundsUp day t
  · obtain ⟨hne, hlt⟩ := (if_pos hc).mp hcases
    have hpos : 1 ≤ day := by
      by_contra hz
      rw [show day = 0 by omega] at hne
      exact hne Nat.log2_zero
    rw [if_pos hc, day_add_eq hd hpos hf h0 h1 hlt, Nat.cast_add, Nat.cast_one]
    exact ⟨le_refl _, lt_add_one _⟩
  · have hlt := (if_neg hc).mp hcases
    rw [if_neg hc]
    exact ⟨(value_day_add hd hf h0 h1.le).2.1, day_add_lt hd hf h0 hlt⟩

end Time

end Serial

end SheetFormulas
