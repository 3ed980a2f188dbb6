import SheetFormulas.Proofs.Calendar.DayFractions
import SheetFormulas.Proofs.Catalog.Call

/-!
The time of the day in a serial. A fraction of the day is rounded when it is worked out, again when
it is added to a day and again when it is split off; for every second of every day the errors stay
far below half a second, so the time is read back as it was.
-/

namespace SheetFormulas.Dates

attribute [local irreducible] Binary64.unitsPerOne

open Binary64

/-- The fraction of the day of a number of seconds. -/
theorem value_secondsFraction {seconds : Nat} (h : seconds < 86400) :
    (ofRatio false seconds 86400).isFinite = true ∧
      0 ≤ value (ofRatio false seconds 86400) ∧
      |value (ofRatio false seconds 86400) - seconds / 86400| ≤ 2 ^ (-54 : ℤ) := by
  have h' : (seconds : ℚ) < 86400 := by exact_mod_cast h
  have hsize : |(seconds / 86400 : ℚ)| < 2 ^ (0 : ℤ) := by
    rw [abs_of_nonneg (by positivity), zpow_zero, div_lt_one (by norm_num)]
    exact h'
  obtain ⟨hfinite, hnear⟩ : (ofRatio false seconds 86400).isFinite = true ∧
      |value (ofRatio false seconds 86400) - seconds / 86400| ≤ 2 ^ ((0 : ℤ) - 54) :=
    value_ofRatio_near (by decide) (by decide) (by decide) (by simp) hsize
  refine ⟨hfinite, ?_, hnear⟩
  rw [value_nonneg_iff]
  exact signedUnits_ofRatio_nonneg (by decide) (fun hc => by cases hc)

/-- Seconds are read back from a double that is near to a day with their fraction. -/
theorem secondsOfSerial_eq {t : Float} {day seconds : Nat} (hs : seconds < 86400)
    (ht : t.isFinite = true) (hd : day ≤ Serial.last) (hle : (day : ℚ) ≤ value t)
    (hnear : |value t - (day + seconds / 86400)| ≤ 2 ^ (-31 : ℤ)) :
    secondsOfSerial (.float t) = seconds := by
  unfold Serial.last at hd
  have hs' : (seconds : ℚ) ≤ 86399 := by exact_mod_cast Nat.le_of_lt_succ hs
  have hs0 : (0 : ℚ) ≤ seconds := Nat.cast_nonneg _
  have hbounds := abs_le.mp hnear
  norm_num at hbounds
  -- the day
  have hfloor : floor t = day := by
    rw [floor_eq, Int.floor_eq_iff]
    push_cast
    exact ⟨hle, by linarith [hbounds.2]⟩
  obtain ⟨hday, hvalue⟩ := value_ofInt (n := day) (by omega)
  rw [Int.cast_natCast] at hvalue
  -- its fraction
  have hsize : |value t - value (ofInt day)| < 2 ^ (0 : ℤ) := by
    rw [hvalue, abs_lt]
    norm_num
    constructor <;> linarith [hbounds.2]
  obtain ⟨hfraction, hnear'⟩ := value_sub_near ht hday (by decide) (by decide) hsize
  rw [hvalue] at hnear'
  have hbounds' := abs_le.mp hnear'
  norm_num at hbounds'
  -- the seconds
  obtain ⟨hperDay, hperDay'⟩ := value_ofInt (n := (86400 : Nat)) (by decide)
  have hsize' : |value (t - ofInt day) * value (ofInt (86400 : Nat))| < 2 ^ (17 : ℤ) := by
    rw [hperDay', abs_lt]
    norm_num
    constructor <;> linarith [hbounds.1, hbounds.2, hbounds'.1, hbounds'.2]
  obtain ⟨-, hproduct⟩ := value_mul_near hfraction hperDay (by decide) (by decide) hsize'
  rw [hperDay'] at hproduct
  have hbounds'' := abs_le.mp hproduct
  norm_num at hbounds''
  have hround : round ((t - ofInt day) * ofInt (86400 : Nat)) = seconds := by
    apply round_eq_of_near
    rw [abs_lt]
    push_cast
    constructor <;> linarith [hbounds.1, hbounds.2, hbounds'.1, hbounds'.2, hbounds''.1, hbounds''.2]
  unfold secondsOfSerial Serial.secondsPerDay
  dsimp only
  rw [hfloor, hround]
  omega

/-- The seconds of a time of the day are read from the sum of a day and their fraction. -/
theorem secondsOf_day_add (now : Moment) {day seconds : Nat} (hd : day ≤ Serial.last)
    (hs : seconds < 86400) :
    secondsOf now (.ofFloat (ofInt day + ofRatio false seconds 86400)) = .ok seconds := by
  obtain ⟨hfinite, h0, hfraction⟩ := value_secondsFraction hs
  generalize ofRatio false seconds 86400 = fraction at *
  have hs' : (seconds : ℚ) ≤ 86399 := by exact_mod_cast Nat.le_of_lt_succ hs
  have hd' : (day : ℚ) ≤ 2958465 := by exact_mod_cast hd
  have hbounds := abs_le.mp hfraction
  norm_num at hbounds
  obtain ⟨hsum, hle, hnear⟩ := Serial.value_day_add hd hfinite h0 (by linarith [hbounds.2])
  have hbounds' := abs_le.mp hnear
  norm_num at hbounds'
  have hread : secondsOfSerial (.float (ofInt day + fraction)) = seconds := by
    refine secondsOfSerial_eq hs hsum hd hle ?_
    rw [abs_le]
    norm_num
    constructor <;> linarith [hbounds.1, hbounds.2, hbounds'.1, hbounds'.2]
  have hrange := Serial.inRange_float hsum ((Nat.cast_nonneg day).trans hle)
    (by linarith [hbounds.2, hbounds'.2])
  rw [secondsOf, Value.ofFloat, serialOf_number _ hrange, Outcome.ok_bind, hread]
  rfl

/-- The seconds of the day of a time, whose parts may be negative or overflow. -/
def secondsOfTime (hour minute second : Int) : Nat :=
  ((hour * 3600 + minute * 60 + second) % 86400).toNat

theorem secondsOfTime_lt (hour minute second : Int) : secondsOfTime hour minute second < 86400 := by
  unfold secondsOfTime
  omega

theorem time_ofInt {h m s : Int} (hh : (Number.int h).hasDouble = true)
    (hm : (Number.int m).hasDouble = true) (hs : (Number.int s).hasDouble = true) :
    time (.ofInt h) (.ofInt m) (.ofInt s) =
      .ok (ofRatio false (secondsOfTime h m s) 86400) := by
  have hlt := secondsOfTime_lt h m s
  obtain ⟨hfinite, -⟩ := value_secondsFraction hlt
  have hseconds : ((h * 3600 + m * 60 + s) % (Serial.secondsPerDay : Nat) : Int) =
      (secondsOfTime h m s : Nat) := by
    unfold secondsOfTime Serial.secondsPerDay
    omega
  rw [time, Value.toInt_ofInt_of_hasDouble hh, Value.toInt_ofInt_of_hasDouble hm,
    Value.toInt_ofInt_of_hasDouble hs, Outcome.ok_bind, Outcome.ok_bind, Outcome.ok_bind, hseconds,
    Number.div]
  dsimp only
  have hsign : (decide ((secondsOfTime h m s : Int) < 0) != decide ((Serial.secondsPerDay : Int) < 0))
      = false := by
    rw [decide_eq_false (by omega), decide_eq_false (by decide)]
    rfl
  rw [if_neg (by decide), hsign]
  show (if (ofRatio false (secondsOfTime h m s) 86400).isInf then _ else _) = _
  rw [not_isInf_of_isFinite hfinite]
  rfl

/-- A whole day and a time of it, whose parts may be negative or overflow, add up to a serial from
which hour, minute and second of that time are read. -/
theorem clock_reads_time_back (context : Context) {day : Nat} {h m s : Int} (hd : day ≤ 2958465)
    (hh : (Number.int h).hasDouble = true) (hm : (Number.int m).hasDouble = true)
    (hs : (Number.int s).hasDouble = true) :
    ∃ (fraction serial : Float) (hour minute second : Nat),
      (Catalog.standard.call context "TIME" [.ofInt h, .ofInt m, .ofInt s] []).Yields
        (.ok (.ofFloat fraction)) [] ∧
      (Number.int day).add (.float fraction) = .ok (.float serial) ∧
      (Catalog.standard.call context "HOUR" [.ofFloat serial] []).Yields (.ok (.ofNat hour)) [] ∧
      (Catalog.standard.call context "MINUTE" [.ofFloat serial] []).Yields
        (.ok (.ofNat minute)) [] ∧
      (Catalog.standard.call context "SECOND" [.ofFloat serial] []).Yields
        (.ok (.ofNat second)) [] ∧
      (3600 * hour + 60 * minute + second : Int) = (3600 * h + 60 * m + s) % 86400 ∧
      hour ≤ 23 ∧ minute ≤ 59 ∧ second ≤ 59 := by
  have hlt := secondsOfTime_lt h m s
  have hseconds : (secondsOfTime h m s : Int) = (3600 * h + 60 * m + s) % 86400 := by
    unfold secondsOfTime
    omega
  have htime := time_ofInt hh hm hs
  have hof := secondsOf_day_add context.now hd hlt
  generalize secondsOfTime h m s = seconds at *
  generalize ofRatio false seconds 86400 = fraction at *
  have hhour : hour context.now (.ofFloat (ofInt day + fraction)) = .ok (seconds / 3600) := by
    rw [hour, hof]
    rfl
  have hminute : minute context.now (.ofFloat (ofInt day + fraction)) = .ok (seconds / 60 % 60) := by
    rw [minute, hof]
    rfl
  have hsecond : second context.now (.ofFloat (ofInt day + fraction)) = .ok (seconds % 60) := by
    rw [second, hof]
    rfl
  have hday : (Number.int day).toFloat = .ok (ofInt day) :=
    Number.toFloat_int_of_hasDouble (Number.hasDouble_int_of_lt (by omega))
  refine ⟨fraction, ofInt day + fraction, seconds / 3600, seconds / 60 % 60, seconds % 60,
    Catalog.standard_call_yields_ok rfl rfl rfl rfl htime, Number.add_float hday,
    Catalog.standard_call_yields_ok rfl rfl rfl rfl hhour,
    Catalog.standard_call_yields_ok rfl rfl rfl rfl hminute,
    Catalog.standard_call_yields_ok rfl rfl rfl rfl hsecond, ?_⟩
  rw [← hseconds]
  push_cast
  omega

/-- The second before midnight, given as a negative one, on the last day of the calendar. -/
theorem clock_reads_time_back_before_last_midnight :
    let context : Context := ⟨⟨⟨2024, 1, 15⟩, .midnight⟩, fun _ => fail .arguments⟩
    (2958465 ≤ 2958465 ∧ (Number.int 0).hasDouble = true ∧ (Number.int (-1)).hasDouble = true) ∧
    ∃ fraction serial : Float,
      (Catalog.standard.call context "TIME" [.ofInt 0, .ofInt 0, .ofInt (-1)] []).Yields
        (.ok (.ofFloat fraction)) [] ∧
      (Number.int 2958465).add (.float fraction) = .ok (.float serial) ∧
      (Catalog.standard.call context "HOUR" [.ofFloat serial] []).Yields (.ok (.ofNat 23)) [] ∧
      (Catalog.standard.call context "MINUTE" [.ofFloat serial] []).Yields (.ok (.ofNat 59)) [] ∧
      (Catalog.standard.call context "SECOND" [.ofFloat serial] []).Yields
        (.ok (.ofNat 59)) [] := by
  intro context
  have hzero : (Number.int 0).hasDouble = true := Number.hasDouble_int_of_lt (by decide)
  have hminus : (Number.int (-1)).hasDouble = true := Number.hasDouble_int_of_lt (by decide)
  obtain ⟨fraction, serial, hour, minute, second, htime, hadd, hhour, hminute, hsecond, hsum,
    hbounds⟩ := clock_reads_time_back context (le_refl 2958465) hzero hzero hminus
  obtain ⟨rfl, rfl, rfl⟩ : hour = 23 ∧ minute = 59 ∧ second = 59 := by omega
  exact ⟨⟨le_refl _, hzero, hminus⟩, fraction, serial, htime, hadd, hhour, hminute, hsecond⟩

end SheetFormulas.Dates
