import SheetFormulas.Proofs.Binary64.RoundingError
import SheetFormulas.Proofs.Decimal.Layout
import SheetFormulas.Proofs.Value.NumberText

/-!
Texts of doubles are stable. The double nearest to the fifteen digits of a text is no farther from
them than the one that was written, so it has the same digits, and is written as the same text. Only
at the end of the range are the digits rounded up beyond the greatest double.
-/

namespace SheetFormulas

open Numeral Decimal

attribute [local irreducible] Binary64.unitsPerOne

namespace Binary64

/-- The exact value without its sign. -/
def size (x : Float) : ℚ := units x / unitsPerOne

/-- The fifteen digits that are written. -/
def generalDigits (x : Float) : Scientific := significant 15 (units x) unitsPerOne

/-- From `1.797693134862315 · 10³⁰⁸` on, fifteen digits are rounded up beyond the greatest
double. -/
def RoundsBeyond (x : Float) : Prop := 1797693134862315 * tenTo 293 * unitsPerOne ≤ units x

instance (x : Float) : Decidable (RoundsBeyond x) := inferInstanceAs (Decidable (_ ≤ _))

theorem cast_tenTo (n : ℕ) : ((tenTo n : ℕ) : ℚ) = 10 ^ (n : ℤ) := by
  rw [tenTo_eq, Nat.cast_pow, Nat.cast_ofNat, zpow_natCast]

theorem roundsBeyond_iff {x : Float} :
    RoundsBeyond x ↔ (1797693134862315 * 10 ^ (293 : ℤ) : ℚ) ≤ size x := by
  have hpower : ((tenTo 293 : ℕ) : ℚ) = 10 ^ (293 : ℤ) := cast_tenTo 293
  rw [RoundsBeyond, size, le_div_iff₀ unitsPerOne_rat_pos, ← @Nat.cast_le ℚ, Nat.cast_mul,
    Nat.cast_mul, hpower, Nat.cast_ofNat]

theorem size_lt {x : Float} (hx : x.isFinite = true) : size x < 2 ^ 1024 := by
  rw [size, div_lt_iff₀ unitsPerOne_rat_pos]
  exact_mod_cast units_lt hx

theorem abs_log2_units_le {x : Float} (hx : x.isFinite = true) (h : units x ≠ 0) :
    |((units x).log2 : ℤ) - unitsPerOne.log2 - 1| ≤ 100000 := by
  have hlog : (units x).log2 < 2098 := by
    rw [Nat.log2_lt h]
    refine (units_lt hx).trans_eq ?_
    rw [unitsPerOne_eq, ← pow_add]
  have hone : unitsPerOne.log2 = 1074 := by rw [unitsPerOne_eq, Nat.log2_two_pow]
  rw [hone, abs_le]
  omega

section

variable {x : Float} (hx : x.isFinite = true) (h : units x ≠ 0)

include hx h

theorem isRounding_generalDigits : IsRounding 15 (size x) (generalDigits x) :=
  isRounding_significant (Nat.pos_of_ne_zero h) unitsPerOne_pos (abs_log2_units_le hx h) (by decide)

theorem generalDigits_eq {s : Scientific} (hs : IsRounding 15 (size x) s) : generalDigits x = s :=
  significant_eq (Nat.pos_of_ne_zero h) unitsPerOne_pos (abs_log2_units_le hx h) (by decide) hs

end

/-! The double nearest to fifteen digits. -/

/-- The double nearest to fifteen digits. -/
def nearestTo (s : Scientific) : Float :=
  ofRatio false (s.digits * tenTo (s.exponent - 14).toNat) (tenTo (14 - s.exponent).toNat)

theorem value_fifteen (s : Scientific) : s.value 15 = s.digits * 10 ^ (s.exponent - 14) := by
  rw [Scientific.value, show s.exponent + 1 - ((15 : ℕ) : ℤ) = s.exponent - 14 by omega]

theorem scaled_fifteen (e : ℤ) (q : ℚ) : scaled 15 e q = q / 10 ^ (e - 14) := by
  rw [scaled_eq_div, show e + 1 - ((15 : ℕ) : ℤ) = e - 14 by omega]

theorem abs_sub_value_le {s : Scientific} {q : ℚ} (h : IsRounding 15 q s) :
    |q - s.value 15| ≤ 10 ^ (s.exponent - 14) / 2 := by
  have hle := h.abs_sub_value_le
  rwa [show s.exponent + 1 - ((15 : ℕ) : ℤ) = s.exponent - 14 by omega] at hle

theorem value_eq_ratio (s : Scientific) :
    s.value 15 = ((s.digits * tenTo (s.exponent - 14).toNat : ℕ) : ℚ) /
      (tenTo (14 - s.exponent).toNat : ℕ) := by
  have hten : (10 : ℚ) ≠ 0 := by norm_num
  rw [value_fifteen, tenTo_eq, tenTo_eq, eq_div_iff (by positivity)]
  push_cast
  rw [mul_assoc, ← zpow_natCast, ← zpow_natCast, ← zpow_add₀ hten]
  congr 2
  omega

/-- The nearest double is as near to the digits as any other. -/
theorem abs_size_nearestTo_le {s : Scientific} (hf : (nearestTo s).isFinite = true) (x : Float) :
    |size (nearestTo s) - s.value 15| ≤ |size x - s.value 15| := by
  have hU := unitsPerOne_rat_pos
  have hd := tenTo_pos (14 - s.exponent).toNat
  have hD : (0 : ℚ) < tenTo (14 - s.exponent).toNat := Nat.cast_pos.mpr hd
  have hnear := units_ofRatio_nearest hd hf x
  rw [← nearestTo] at hnear
  rw [value_eq_ratio]
  generalize nearestTo s = z at *
  generalize s.digits * tenTo (s.exponent - 14).toNat = num at *
  generalize tenTo (14 - s.exponent).toNat = den at *
  have hdistance (x : Float) : |size x - (num : ℚ) / den| =
      ((units x * den - num * unitsPerOne : ℤ).natAbs : ℚ) / (unitsPerOne * den) := by
    rw [size, div_sub_div _ _ hU.ne' hD.ne', abs_div, abs_of_pos (mul_pos hU hD), Nat.cast_natAbs]
    push_cast
    rw [mul_comm (unitsPerOne : ℚ) num]
  rw [hdistance, hdistance]
  exact div_le_div_of_nonneg_right (by exact_mod_cast hnear) (mul_pos hU hD).le

/-- Below digits the nearest double is off by half the spacing of its binade at most, which from the
second binade on is a part of the digits. -/
theorem exists_spacing {s : Scientific} (hf : (nearestTo s).isFinite = true) :
    ∃ binade : ℕ, s.value 15 - size (nearestTo s) ≤ 2 ^ binade / (2 * unitsPerOne) ∧
      (0 < binade → 2 ^ 52 * 2 ^ binade ≤ s.value 15 * unitsPerOne) := by
  have hU := unitsPerOne_rat_pos
  have hd := tenTo_pos (14 - s.exponent).toNat
  have hD : (0 : ℚ) < tenTo (14 - s.exponent).toNat := Nat.cast_pos.mpr hd
  obtain ⟨q, binade, hbinade, hunits, -, hbelow⟩ := exists_units_of_isFinite hd hf
  rw [← nearestTo] at hunits
  rw [← hunits] at hbelow
  have hlog := Nat.log2_self_le
    (n := s.digits * tenTo (s.exponent - 14).toNat * unitsPerOne / tenTo (14 - s.exponent).toNat)
  rw [value_eq_ratio]
  generalize nearestTo s = z at *
  generalize s.digits * tenTo (s.exponent - 14).toNat = num at *
  generalize tenTo (14 - s.exponent).toNat = den at *
  refine ⟨binade, ?_, fun hpos => ?_⟩
  · have hbelow' : (2 * (num * unitsPerOne) : ℚ) ≤ 2 * (units z * den) + 2 ^ binade * den := by
      exact_mod_cast hbelow
    rw [size, div_sub_div _ _ hD.ne' hU.ne', div_le_div_iff₀ (by positivity) (by positivity)]
    have hscaled := mul_le_mul_of_nonneg_right hbelow' hU.le
    linarith
  · have hne : num * unitsPerOne / den ≠ 0 := by
      intro hz
      rw [hz, Nat.log2_zero] at hbinade
      omega
    have hreach : 2 ^ (52 + binade) * den ≤ num * unitsPerOne := by
      rw [show 52 + binade = (num * unitsPerOne / den).log2 by omega]
      exact (Nat.mul_le_mul_right den (hlog hne)).trans (Nat.div_mul_le_self _ _)
    rw [div_mul_eq_mul_div, le_div_iff₀ hD, ← pow_add]
    exact_mod_cast hreach

/-- Below digits the nearest double is off by half a unit at most, or by the last bits of the
digits. -/
theorem value_le_size_nearestTo {s : Scientific} (hf : (nearestTo s).isFinite = true) :
    s.value 15 - size (nearestTo s) ≤ 1 / (2 * unitsPerOne) ∨
      s.value 15 - size (nearestTo s) ≤ s.value 15 / 2 ^ 53 := by
  have hU := unitsPerOne_rat_pos
  obtain ⟨binade, hoff, hspacing⟩ := exists_spacing hf
  rcases Nat.eq_zero_or_pos binade with hzero | hpos
  · rw [hzero, pow_zero] at hoff
    exact .inl hoff
  · refine .inr (hoff.trans ?_)
    have hpart := hspacing hpos
    rw [div_le_div_iff₀ (by positivity) (by positivity)]
    linarith

theorem unitsPerOne_between :
    (10 : ℚ) ^ (323 : ℤ) ≤ unitsPerOne ∧ (unitsPerOne : ℚ) < 10 ^ (324 : ℤ) := by
  have hlow : tenTo 323 ≤ twoTo 1074 := by decide +kernel
  have hhigh : twoTo 1074 < tenTo 324 := by decide +kernel
  rw [twoTo_eq, ← unitsPerOne_eq, tenTo_eq] at hlow hhigh
  exact ⟨by exact_mod_cast hlow, by exact_mod_cast hhigh⟩

/-- The double nearest to `10⁻³⁰⁹` lies above it. -/
theorem value_le_size_of_exponent {s : Scientific} (hs : s = ⟨10 ^ 14, -309⟩)
    (hf : (nearestTo s).isFinite = true) : s.value 15 ≤ size (nearestTo s) := by
  obtain ⟨q, binade, hbinade, hunits, -, hbelow⟩ := exists_units_of_isFinite (tenTo_pos _) hf
  rw [← nearestTo] at hunits
  have hnum : s.digits * tenTo (s.exponent - 14).toNat = 10 ^ 14 := by rw [hs]; rfl
  have hden : tenTo (14 - s.exponent).toNat = tenTo 323 := by rw [hs]; rfl
  have hlog : (10 ^ 14 * twoTo 1074 / tenTo 323).log2 ≤ 52 := by decide +kernel
  have hremainder : tenTo 323 < 2 * (10 ^ 14 * twoTo 1074 % tenTo 323) := by decide +kernel
  have hpos := tenTo_pos 323
  rw [value_eq_ratio, hnum, hden]
  rw [hnum, hden] at hbinade hbelow
  rw [twoTo_eq, ← unitsPerOne_eq] at hlog hremainder
  have hU := unitsPerOne_rat_pos
  have hD : (0 : ℚ) < tenTo 323 := Nat.cast_pos.mpr hpos
  rw [show binade = 0 by omega, pow_zero, Nat.mul_one] at hunits hbelow
  rw [size, hunits, div_le_div_iff₀ hD hU]
  generalize tenTo 323 = den at *
  have hsplit := Nat.div_add_mod' (10 ^ 14 * unitsPerOne) den
  have hmod := Nat.mod_lt (10 ^ 14 * unitsPerOne) hpos
  -- the remainder is more than half, so the quotient is rounded up
  have hup : 10 ^ 14 * unitsPerOne / den < q := by
    by_contra hle
    have hmul := Nat.mul_le_mul_right den (not_lt.mp hle)
    omega
  have hstep := Nat.mul_le_mul_right den (Nat.succ_le_of_lt hup)
  rw [Nat.succ_mul] at hstep
  have hle : 10 ^ 14 * unitsPerOne ≤ q * den := by omega
  exact_mod_cast hle

/-- Digits finer than the spacing of the least doubles are written for one double only. -/
theorem size_nearestTo_of_fine {s : Scientific} {x : Float} (h : IsRounding 15 (size x) s)
    (hs : s.exponent ≤ -310) (hf : (nearestTo s).isFinite = true) :
    size (nearestTo s) = size x := by
  have hU := unitsPerOne_rat_pos
  have hhalf := abs_sub_value_le h
  have hhalf' := (abs_size_nearestTo_le hf x).trans hhalf
  have hunit : (10 : ℚ) ^ (s.exponent - 14) * unitsPerOne < 1 := by
    calc (10 : ℚ) ^ (s.exponent - 14) * unitsPerOne
        ≤ 10 ^ (-324 : ℤ) * unitsPerOne :=
          mul_le_mul_of_nonneg_right (zpow_le_zpow_right₀ (by norm_num) (by omega)) hU.le
      _ < 10 ^ (-324 : ℤ) * 10 ^ (324 : ℤ) :=
          mul_lt_mul_of_pos_left unitsPerOne_between.2 (by positivity)
      _ = 1 := by
          rw [← zpow_add₀ (by norm_num)]
          norm_num
  have hclose : |(units (nearestTo s) : ℚ) - units x| < 1 := by
    have hdistance : |size (nearestTo s) - size x| ≤ 10 ^ (s.exponent - 14) := by
      rw [abs_le] at hhalf hhalf' ⊢
      constructor <;> linarith
    have hunits : (units (nearestTo s) : ℚ) - units x =
        (size (nearestTo s) - size x) * unitsPerOne := by
      rw [size, size, ← sub_div, div_mul_cancel₀ _ hU.ne']
    rw [hunits, abs_mul, abs_of_pos hU]
    exact (mul_le_mul_of_nonneg_right hdistance hU.le).trans_lt hunit
  have hsame : units (nearestTo s) = units x := by
    rw [abs_lt] at hclose
    have hlow : (units x : ℚ) < units (nearestTo s) + 1 := by linarith
    have hhigh : (units (nearestTo s) : ℚ) < units x + 1 := by linarith
    exact Nat.le_antisymm (Nat.lt_succ_iff.mp (by exact_mod_cast hhigh))
      (Nat.lt_succ_iff.mp (by exact_mod_cast hlow))
  rw [size, size, hsame]

/-- The double nearest to a power of ten with fifteen digits is not so far below it that it would be
written with finer digits. -/
theorem carried_nearestTo {s : Scientific} {x : Float} (h : IsRounding 15 (size x) s)
    (hpower : s.digits = 10 ^ 14) (hf : (nearestTo s).isFinite = true) :
    s.digits - scaled 15 s.exponent (size (nearestTo s)) ≤ 1 / 20 := by
  have hU := unitsPerOne_rat_pos
  have hgrain : (0 : ℚ) < 10 ^ (s.exponent - 14) := by positivity
  have hvalue : s.value 15 = 10 ^ 14 * 10 ^ (s.exponent - 14) := by
    rw [value_fifteen, hpower]
    push_cast
    rfl
  have hfine (q : ℚ) : s.digits - scaled 15 s.exponent q ≤ 1 / 20 ↔
      s.value 15 - q ≤ 10 ^ (s.exponent - 14) / 20 := by
    rw [scaled_fifteen, hvalue, hpower, sub_le_iff_le_add, ← sub_le_iff_le_add',
      le_div_iff₀ hgrain, sub_mul]
    push_cast
    constructor <;> intro hle <;> linarith
  rw [hfine]
  rcases le_or_gt s.exponent (-310) with hlow | hhigh
  · rw [size_nearestTo_of_fine h hlow hf, ← hfine]
    exact h.carried hpower
  · rcases eq_or_ne s.exponent (-309) with heq | hne
    · have hle := value_le_size_of_exponent (s := s) (by cases s; cases heq; cases hpower; rfl) hf
      linarith
    · have hleast : (10 : ℚ) ^ (-322 : ℤ) ≤ 10 ^ (s.exponent - 14) :=
        zpow_le_zpow_right₀ (by norm_num) (by omega)
      rcases value_le_size_nearestTo hf with hoff | hoff
      · refine hoff.trans ?_
        have hunit : (10 : ℚ) ≤ 10 ^ (-322 : ℤ) * unitsPerOne := by
          calc (10 : ℚ) = 10 ^ (-322 : ℤ) * 10 ^ (323 : ℤ) := by
                rw [← zpow_add₀ (by norm_num)]
                norm_num
            _ ≤ 10 ^ (-322 : ℤ) * unitsPerOne :=
                mul_le_mul_of_nonneg_left unitsPerOne_between.1 (by positivity)
        rw [div_le_div_iff₀ (by positivity) (by norm_num)]
        have hstep := mul_le_mul_of_nonneg_right hleast hU.le
        linarith
      · rw [hvalue] at hoff ⊢
        refine hoff.trans ?_
        linarith

theorem length_toDigits_of_isRounding {q : ℚ} {s : Scientific} (h : IsRounding 15 q s) :
    (Nat.toDigits 10 s.digits).length = 15 := by
  have hle : (Nat.toDigits 10 s.digits).length ≤ 15 :=
    (Nat.length_toDigits_le_iff (by decide) (by decide)).mpr h.lt
  have hlt : ¬ (Nat.toDigits 10 s.digits).length ≤ 14 := by
    rw [Nat.length_toDigits_le_iff (by decide) (by decide), not_lt]
    exact h.le
  omega

/-- The double nearest to the digits of a double has the same digits. -/
theorem generalDigits_nearestTo {x : Float} (hx : x.isFinite = true) (h : units x ≠ 0)
    (hf : (nearestTo (generalDigits x)).isFinite = true) :
    units (nearestTo (generalDigits x)) ≠ 0 ∧
      generalDigits (nearestTo (generalDigits x)) = generalDigits x := by
  have hrounding := isRounding_generalDigits hx h
  generalize generalDigits x = s at hrounding hf ⊢
  have hnear : IsRounding 15 (size (nearestTo s)) s := hrounding.of_near
    (abs_size_nearestTo_le hf x) fun hpower => carried_nearestTo hrounding hpower hf
  have hne : units (nearestTo s) ≠ 0 := by
    intro hz
    have hdigits : (10 ^ 14 : ℚ) ≤ s.digits := by exact_mod_cast hnear.le
    have hhalf := (abs_le.mp hnear.near).1
    rw [size, hz, Nat.cast_zero, zero_div, scaled, zero_mul] at hhalf
    linarith
  exact ⟨hne, generalDigits_eq hf hne hnear⟩

/-! The end of the range. -/

/-- Short of the end of the range the digits are at most the last ones below the greatest double. -/
theorem value_le_of_not_roundsBeyond {x : Float} {s : Scientific} (h : IsRounding 15 (size x) s)
    (hb : ¬ RoundsBeyond x) : s.value 15 ≤ 179769313486231 * 10 ^ (294 : ℤ) := by
  rw [roundsBeyond_iff, not_le] at hb
  have hlow : (s.digits - 1 / 2 : ℚ) * 10 ^ (s.exponent - 14) ≤ size x := by
    have hhalf := (abs_le.mp (abs_sub_value_le h)).1
    rw [value_fifteen] at hhalf
    linarith
  have hmin : (10 ^ 14 : ℚ) ≤ s.digits := by exact_mod_cast h.le
  have hmax : (s.digits : ℚ) ≤ 10 ^ 15 := by exact_mod_cast h.lt.le
  have hten : (10 : ℚ) ≠ 0 := by norm_num
  have hone : (10 : ℚ) ^ (294 : ℤ) = 10 ^ (293 : ℤ) * 10 := zpow_add_one₀ hten 293
  have htwo : (10 : ℚ) ^ (295 : ℤ) = 10 ^ (293 : ℤ) * 10 * 10 :=
    (zpow_add_one₀ hten 294).trans (congrArg (· * 10) hone)
  have hmono {a b : ℤ} (hab : a ≤ b) : (10 : ℚ) ^ a ≤ 10 ^ b :=
    zpow_le_zpow_right₀ (by norm_num) hab
  have hpos : (0 : ℚ) < 10 ^ (293 : ℤ) := by positivity
  have hgrain : (0 : ℚ) < 10 ^ (s.exponent - 14) := by positivity
  rw [value_fifteen, hone]
  rcases lt_trichotomy s.exponent 308 with hless | heq | hmore
  · have hle := hmono (show s.exponent - 14 ≤ 293 by omega)
    generalize (10 : ℚ) ^ (293 : ℤ) = power at *
    have hmul := mul_le_mul hmax hle hgrain.le (by norm_num)
    linarith only [hmul, hpos]
  · rw [heq, show (308 : ℤ) - 14 = 294 by norm_num, hone] at hlow ⊢
    generalize (10 : ℚ) ^ (293 : ℤ) = power at *
    have hlt : (s.digits : ℚ) < 179769313486231 + 1 := by
      by_contra hge
      have hmul := mul_le_mul_of_nonneg_right (not_lt.mp hge) (show 0 ≤ power * 10 by positivity)
      linarith
    have hle : s.digits ≤ 179769313486231 := Nat.lt_succ_iff.mp (by exact_mod_cast hlt)
    exact mul_le_mul_of_nonneg_right (by exact_mod_cast hle) (by positivity)
  · have hge := hmono (show 295 ≤ s.exponent - 14 by omega)
    rw [htwo] at hge
    generalize (10 : ℚ) ^ (293 : ℤ) = power at *
    generalize (10 : ℚ) ^ (s.exponent - 14) = grain at *
    have hmul : (10 ^ 14 - 1 / 2 : ℚ) * (power * 10 * 10) ≤ (s.digits - 1 / 2) * grain :=
      mul_le_mul (by linarith only [hmin]) hge (by positivity) (by linarith only [hmin])
    linarith only [hmul, hlow, hb, hpos]

theorem isFinite_nearestTo {s : Scientific} (h : s.value 15 ≤ 179769313486231 * 10 ^ (294 : ℤ)) :
    (nearestTo s).isFinite = true := by
  have hd := tenTo_pos (14 - s.exponent).toNat
  have hD : (0 : ℚ) < tenTo (14 - s.exponent).toNat := Nat.cast_pos.mpr hd
  have hlast : 179769313486231 * tenTo 294 * twoTo 1074 < (2 ^ 54 - 1) * twoTo 2044 := by
    decide +kernel
  rw [twoTo_eq, ← unitsPerOne_eq, twoTo_eq] at hlast
  apply isFinite_ofRatio _ hd
  have hle : s.digits * tenTo (s.exponent - 14).toNat ≤
      179769313486231 * tenTo 294 * tenTo (14 - s.exponent).toNat := by
    rw [value_eq_ratio, div_le_iff₀ hD] at h
    have hpower : ((tenTo 294 : ℕ) : ℚ) = 10 ^ (294 : ℤ) := cast_tenTo 294
    rw [← hpower] at h
    exact_mod_cast h
  calc s.digits * tenTo (s.exponent - 14).toNat * unitsPerOne
      ≤ 179769313486231 * tenTo 294 * tenTo (14 - s.exponent).toNat * unitsPerOne :=
        Nat.mul_le_mul_right _ hle
    _ = 179769313486231 * tenTo 294 * unitsPerOne * tenTo (14 - s.exponent).toNat := by
        rw [Nat.mul_right_comm]
    _ < (2 ^ 54 - 1) * 2 ^ 2044 * tenTo (14 - s.exponent).toNat :=
        Nat.mul_lt_mul_of_pos_right hlast hd

/-- From the end of the range on, the digits are the first ones beyond the greatest double. -/
theorem generalDigits_of_roundsBeyond {x : Float} (hx : x.isFinite = true) (hb : RoundsBeyond x) :
    units x ≠ 0 ∧ generalDigits x = ⟨179769313486232, 308⟩ := by
  have hne : units x ≠ 0 := by
    have hpos : 0 < 1797693134862315 * tenTo 293 * unitsPerOne :=
      Nat.mul_pos (Nat.mul_pos (by decide) (tenTo_pos 293)) unitsPerOne_pos
    unfold RoundsBeyond at hb
    omega
  refine ⟨hne, generalDigits_eq hx hne ?_⟩
  have hrange : twoTo 1024 < 179769313486232 * tenTo 294 := by decide +kernel
  have hpower : ((tenTo 294 : ℕ) : ℚ) = 10 ^ (294 : ℤ) := cast_tenTo 294
  have hhigh : size x < 179769313486232 * 10 ^ (294 : ℤ) := by
    have hsize := size_lt hx
    have hrange' : ((twoTo 1024 : ℕ) : ℚ) < (179769313486232 * tenTo 294 : ℕ) :=
      Nat.cast_lt.mpr hrange
    rw [twoTo_eq, Nat.cast_pow, Nat.cast_ofNat, Nat.cast_mul, hpower, Nat.cast_ofNat] at hrange'
    exact hsize.trans hrange'
  have hlow : 179769313486231.5 * (10 : ℚ) ^ (294 : ℤ) ≤ size x := by
    have hsucc : (10 : ℚ) ^ (294 : ℤ) = 10 ^ (293 : ℤ) * 10 := zpow_add_one₀ (by norm_num) 293
    rw [roundsBeyond_iff] at hb
    rw [hsucc]
    linarith
  have hscaled : scaled 15 308 (size x) = size x / 10 ^ (294 : ℤ) := by
    rw [scaled_fifteen, show (308 : ℤ) - 14 = 294 by norm_num]
  have hgrain : (0 : ℚ) < 10 ^ (294 : ℤ) := by positivity
  rw [← le_div_iff₀ hgrain, ← hscaled] at hlow
  rw [← div_lt_iff₀ hgrain, ← hscaled] at hhigh
  refine ⟨by norm_num, by norm_num, ?_, fun _ => rfl, fun hpower => ?_⟩
  · push_cast
    rw [abs_le]
    constructor <;> linarith
  · norm_num at hpower

theorem isInf_nearestTo_beyond :
    (nearestTo ⟨179769313486232, 308⟩).isInf = true ∧
      (-nearestTo ⟨179769313486232, 308⟩).isInf = true := by
  decide +kernel

end Binary64

open Binary64

section

variable {x : Float}

/-- A whole double and the size of its floor. -/
theorem floor_of_isWhole (hw : isWhole x = true) :
    (floor x).natAbs * unitsPerOne = units x ∧
      (units x ≠ 0 → decide (floor x < 0) = isNegative x) := by
  have hU : 0 < unitsPerOne := unitsPerOne_pos
  have hdvd : unitsPerOne ∣ units x := by
    rw [isWhole, Bool.and_eq_true, beq_iff_eq] at hw
    exact Nat.dvd_of_mod_eq_zero hw.2
  obtain ⟨n, hn⟩ := hdvd
  have hfloor : floor x = if isNegative x then -(n : ℤ) else n := by
    have hU' : (unitsPerOne : ℤ) ≠ 0 := by exact_mod_cast hU.ne'
    rw [floor, signedUnits, hn]
    push_cast
    split_ifs
    · rw [← mul_neg, Int.mul_ediv_cancel_left _ hU']
    · rw [Int.mul_ediv_cancel_left _ hU']
  have habs : (floor x).natAbs = n := by
    rw [hfloor]
    split_ifs <;> simp
  refine ⟨by rw [habs, hn, Nat.mul_comm], fun hne => ?_⟩
  have hpos : n ≠ 0 := by
    rintro rfl
    exact hne hn
  rw [hfloor]
  cases isNegative x with
  | true => simpa using Nat.pos_of_ne_zero hpos
  | false => simp

/-- Zero and its opposite are written without a sign. -/
theorem general_float_of_zero (hx : x.isFinite = true) (h : units x = 0) :
    (Number.float x).general = .ok "0" := by
  have hwhole : isWhole x = true := by
    rw [isWhole, hx, h, Nat.zero_mod]
    rfl
  have hfloor : floor x = 0 := by
    have hu := natAbs_signedUnits x
    rw [h, Int.natAbs_eq_zero] at hu
    rw [floor, hu, Int.zero_ediv]
  rw [general_float_of_whole hwhole (by rw [hfloor]; decide), hfloor]
  rfl

/-- Any other finite double is written with its digits, whether it is whole or not. -/
theorem general_float (hx : x.isFinite = true) (h : units x ≠ 0) {text : List Char}
    (ht : Layout.general.write (generalDigits x) = String.ofList text) :
    (Number.float x).general = .ok (String.ofList (signMark (isNegative x) ++ text)) := by
  by_cases hw : isWhole x = true ∧ (floor x).natAbs < 10 ^ 15
  · obtain ⟨hwhole, hlt⟩ := hw
    obtain ⟨hunits, hsign⟩ := floor_of_isWhole hwhole
    have hpos : 0 < (floor x).natAbs := by
      refine Nat.pos_of_ne_zero fun hz => h ?_
      rw [← hunits, hz, Nat.zero_mul]
    have hsize : size x = (floor x).natAbs := by
      rw [size, ← hunits, Nat.cast_mul, mul_div_cancel_right₀ _ unitsPerOne_rat_pos.ne']
    have hdigits := generalDigits_eq hx h (hsize ▸ isRounding_wholeDigits hpos hlt)
    rw [hdigits, write_wholeDigits hpos hlt] at ht
    rw [general_float_of_whole hwhole hlt, repr_eq, hsign h, String.ofList_injective ht]
  · have hzero : (x == 0) = false := by
      rw [← Bool.not_eq_true, beq_zero_iff_units hx]
      exact h
    have hbranch : ¬ (isWhole x && decide ((floor x).natAbs < tenTo 15)) = true := by
      rw [Bool.and_eq_true, decide_eq_true_eq, tenTo_eq]
      exact hw
    have hmark : (if isNegative x then "-" else "") = String.ofList (signMark (isNegative x)) := by
      cases isNegative x <;> rfl
    unfold Number.general
    dsimp only
    rw [if_neg hbranch, generalText, Layout.text, not_isNaN_of_isFinite hx,
      not_isInf_of_isFinite hx, hzero, if_neg Bool.false_ne_true, if_neg Bool.false_ne_true,
      if_neg Bool.false_ne_true, ← generalDigits, ht, hmark, String.ofList_append]

/-- A text that a double is written with behind its sign, and the numeral that it is. -/
structure WrittenAs (x : Float) (text : List Char) (p : Plain) : Prop where
  write_eq : Layout.general.write (generalDigits x) = String.ofList text
  toText_eq : (Value.ofFloat x).toText = .ok (String.ofList (signMark (isNegative x) ++ text))
  toNumber_eq : (Value.text (String.ofList (signMark (isNegative x) ++ text))).toNumber =
    .ok (signed (isNegative x) (p.unsigned 0))
  nearest_eq : p.nearest = nearestTo (generalDigits x)
  value_eq : p.value = (generalDigits x).value 15
  short : p.isWhole = true → (generalDigits x).exponent < 15
  whole_value : p.isWhole = true → p.value = (Text.digitsValue p.whole : ℕ)

/-- A finite double that is not zero is written with a sign and a numeral of its digits. -/
theorem exists_writtenAs (hx : x.isFinite = true) (h : units x ≠ 0) :
    ∃ text p, WrittenAs x text p := by
  obtain ⟨text, p, hwrite, hspells, hshort⟩ :=
    exists_spells_write (length_toDigits_of_isRounding (isRounding_generalDigits hx h))
  refine ⟨text, p, hwrite, ?_, toNumber_signMark_append hspells.plain hspells.isTooLong _, ?_,
    hspells.value_eq, hshort, fun hw => ?_⟩
  · rw [toText_float hx, general_float hx h hwrite]
  · exact p.nearest_eq (tenTo_pos _) (hspells.value_eq.trans (value_eq_ratio _))
  · cases hspells.plain with
    | pointed => simp [Plain.isWhole] at hw
    | @whole digits text e =>
      cases e with
      | some e => simp [Plain.isWhole] at hw
      | none => simp [Plain.value, Plain.exponentValue]

/-- A whole number that fifteen digits spell is positive, small and written with them. -/
theorem write_of_value_eq (hx : x.isFinite = true) (h : units x ≠ 0) {n : ℕ}
    (hvalue : (generalDigits x).value 15 = n) (hsmall : (generalDigits x).exponent < 15) :
    0 < n ∧ n < 10 ^ 15 ∧
      Layout.general.write (generalDigits x) = String.ofList (Nat.toDigits 10 n) := by
  have hrounding := isRounding_generalDigits hx h
  have hplace : (10 : ℚ) ^ ((generalDigits x).exponent - 14) ≤ 1 :=
    zpow_le_one_of_nonpos₀ (by norm_num) (by omega)
  have hpos : 0 < n := by
    have hmin : (0 : ℚ) < (generalDigits x).digits :=
      Nat.cast_pos.mpr ((by decide : 0 < 10 ^ 14).trans_le hrounding.le)
    have hvalue' : (0 : ℚ) < n := by
      rw [← hvalue, value_fifteen]
      exact mul_pos hmin (by positivity)
    exact_mod_cast hvalue'
  have hlt : n < 10 ^ 15 := by
    have hmax : ((generalDigits x).digits : ℚ) < 10 ^ 15 := by exact_mod_cast hrounding.lt
    have hvalue' : (n : ℚ) < 10 ^ 15 := by
      rw [← hvalue, value_fifteen]
      exact (mul_le_of_le_one_right (Nat.cast_nonneg _) hplace).trans_lt hmax
    exact_mod_cast hvalue'
  -- the digits of the double and those of the whole number are roundings of the same value
  have hlog : |(n.log2 : ℤ) - Nat.log2 1 - 1| ≤ 100000 := by
    have hlog : n.log2 < 64 := (Nat.log2_lt hpos.ne').mpr (hlt.trans (by decide))
    rw [show Nat.log2 1 = 0 from rfl, abs_le]
    omega
  have hchosen {s : Scientific} (hs : IsRounding 15 (n : ℚ) s) : significant 15 n 1 = s :=
    significant_eq hpos Nat.one_pos hlog (by decide) (by rwa [Nat.cast_one, div_one])
  have hvalued := isRounding_value (s := generalDigits x) hrounding.le hrounding.lt
  rw [hvalue] at hvalued
  have hsame : generalDigits x = wholeDigits n :=
    (hchosen hvalued).symm.trans (hchosen (isRounding_wholeDigits hpos hlt))
  exact ⟨hpos, hlt, hsame ▸ write_wholeDigits hpos hlt⟩

namespace WrittenAs

variable {text : List Char} {p : Plain}

/-- Where a whole number is read, it has the same text. -/
theorem stable_of_isWhole (ht : WrittenAs x text p) (hx : x.isFinite = true) (h : units x ≠ 0)
    (hw : p.isWhole = true) :
    (signed (isNegative x) (p.unsigned 0)).IsFinite ∧
      (Value.number (signed (isNegative x) (p.unsigned 0))).toText =
        .ok (String.ofList (signMark (isNegative x) ++ text)) := by
  have hunsigned : p.unsigned 0 = .int (Text.digitsValue p.whole) := by
    rw [Plain.unsigned, if_pos rfl, hw, if_pos rfl]
  obtain ⟨hpos, hlt, hwrite⟩ :=
    write_of_value_eq hx h (ht.value_eq.symm.trans (ht.whole_value hw)) (ht.short hw)
  have htext : text = Nat.toDigits 10 (Text.digitsValue p.whole) :=
    String.ofList_injective (ht.write_eq.symm.trans hwrite)
  rw [hunsigned, htext]
  generalize Text.digitsValue p.whole = n at *
  have hsigned : signed (isNegative x) (.int n) = .int (if isNegative x then -(n : ℤ) else n) := by
    cases isNegative x <;> rfl
  have habs : (if isNegative x then -(n : ℤ) else n).natAbs = n := by split <;> simp
  have hsign : decide ((if isNegative x then -(n : ℤ) else n) < 0) = isNegative x := by
    cases isNegative x with
    | true => simpa using hpos
    | false => simp
  rw [hsigned]
  generalize (if isNegative x then -(n : ℤ) else n) = m at *
  rw [← habs] at hlt
  constructor
  · exact Number.isFinite_of_sized_int (p := 64) (hlt.le.trans (by decide)) (by decide)
  · rw [toText_number rfl, general_int (length_toDigits_le hlt), repr_eq, hsign, habs]

/-- Where a double is read that is finite, it has the same text. -/
theorem stable_of_isFinite (ht : WrittenAs x text p) (hx : x.isFinite = true) (h : units x ≠ 0)
    (hw : p.isWhole = false) (hfinite : (nearestTo (generalDigits x)).isFinite = true) :
    (signed (isNegative x) (p.unsigned 0)).IsFinite ∧
      (Value.number (signed (isNegative x) (p.unsigned 0))).toText =
        .ok (String.ofList (signMark (isNegative x) ++ text)) := by
  have hunsigned : p.unsigned 0 = .float (nearestTo (generalDigits x)) := by
    rw [Plain.unsigned, if_pos rfl, hw, if_neg Bool.false_ne_true, ht.nearest_eq]
  have hwrite := ht.write_eq
  obtain ⟨hne, hdigits⟩ := generalDigits_nearestTo hx h hfinite
  have hpositive : isNegative (nearestTo (generalDigits x)) = false := isNegative_ofRatio _ _ _
  rw [hunsigned]
  generalize nearestTo (generalDigits x) = z at *
  -- the sign of the text comes back, and the digits do not depend on it
  have hsigned : ∃ y : Float, signed (isNegative x) (.float z) = .float y ∧ y.isFinite = true ∧
      units y = units z ∧ isNegative y = isNegative x := by
    cases isNegative x with
    | true =>
      refine ⟨-z, rfl, isFinite_neg hfinite, units_neg hfinite, ?_⟩
      rw [isNegative_neg hfinite, hpositive]
      rfl
    | false => exact ⟨z, rfl, hfinite, rfl, hpositive⟩
  obtain ⟨y, hy, hyfinite, hyunits, hysign⟩ := hsigned
  have hydigits : generalDigits y = generalDigits x := by
    rw [generalDigits, hyunits, ← generalDigits, hdigits]
  rw [hy, ← hysign]
  exact ⟨(Number.isFinite_float y).mpr hyfinite,
    (toText_float hyfinite).trans (general_float hyfinite (hyunits ▸ hne) (hydigits ▸ hwrite))⟩

end WrittenAs

/-- Short of the end of the range a text is read as a finite number with the same text. -/
theorem exists_stable_of_not_roundsBeyond (hx : x.isFinite = true) (hb : ¬ RoundsBeyond x) :
    ∃ s y, (Value.ofFloat x).toText = .ok s ∧ (Value.text s).toNumber = .ok y ∧ y.IsFinite ∧
      (Value.number y).toText = .ok s := by
  by_cases h : units x = 0
  · refine ⟨"0", .int 0, ?_, toNumber_repr (n := 0) (by decide), ?_, ?_⟩
    · rw [toText_float hx, general_float_of_zero hx h]
    · exact Number.isFinite_of_sized_int (p := 0) (Nat.zero_le _) (by decide)
    · rw [toText_number rfl, general_int (by decide)]
      rfl
  obtain ⟨text, p, ht⟩ := exists_writtenAs hx h
  refine ⟨_, _, ht.toText_eq, ht.toNumber_eq, ?_⟩
  cases hw : p.isWhole with
  | true => exact ht.stable_of_isWhole hx h hw
  | false =>
    exact ht.stable_of_isFinite hx h hw (isFinite_nearestTo
      (value_le_of_not_roundsBeyond (isRounding_generalDigits hx h) hb))

/-- Beyond the end of the range a text is read as an infinity. -/
theorem exists_infinite_of_roundsBeyond (hx : x.isFinite = true) (hb : RoundsBeyond x) :
    ∃ s y, (Value.ofFloat x).toText = .ok s ∧ (Value.text s).toNumber = .ok (.float y) ∧
      y.isInf = true := by
  obtain ⟨h, hdigits⟩ := generalDigits_of_roundsBeyond hx hb
  obtain ⟨text, p, ht⟩ := exists_writtenAs hx h
  have hfloat : p.isWhole = false := by
    rw [← Bool.not_eq_true]
    intro hw
    have hshort := ht.short hw
    rw [hdigits] at hshort
    exact absurd hshort (by decide)
  have hunsigned : p.unsigned 0 = .float (nearestTo ⟨179769313486232, 308⟩) := by
    rw [Plain.unsigned, if_pos rfl, hfloat, if_neg Bool.false_ne_true, ht.nearest_eq, hdigits]
  have hread := ht.toNumber_eq
  rw [hunsigned] at hread
  obtain ⟨hinf, hinf'⟩ := isInf_nearestTo_beyond
  cases hn : isNegative x with
  | true => exact ⟨_, _, ht.toText_eq, hread.trans (by rw [hn]; rfl), hinf'⟩
  | false => exact ⟨_, _, ht.toText_eq, hread.trans (by rw [hn]; rfl), hinf⟩

end

/-- The text of a finite double is stable: it is read as a finite number, whose text is the same.
From `1.797693134862315 · 10³⁰⁸` on, the text has the digits of a number beyond the greatest double,
and it is read as an infinity. -/
theorem text_of_float_is_stable {x : Float} (hx : x.isFinite = true) :
    (¬ RoundsBeyond x → ∃ s y, (Value.ofFloat x).toText = .ok s ∧
      (Value.text s).toNumber = .ok y ∧ y.IsFinite ∧ (Value.number y).toText = .ok s) ∧
    (RoundsBeyond x → ∃ s y, (Value.ofFloat x).toText = .ok s ∧
      (Value.text s).toNumber = .ok (.float y) ∧ y.isInf = true) :=
  ⟨exists_stable_of_not_roundsBeyond hx, exists_infinite_of_roundsBeyond hx⟩

/-- The least double and the greatest one, on either side of the end of the range. -/
theorem text_of_float_is_stable_at_least_and_greatest :
    (∃ s y, (Value.ofFloat (Float.ofBits 1)).toText = .ok s ∧ (Value.text s).toNumber = .ok y ∧
      y.IsFinite ∧ (Value.number y).toText = .ok s) ∧
    ∃ s y, (Value.ofFloat (Float.ofBits 0x7fefffffffffffff)).toText = .ok s ∧
      (Value.text s).toNumber = .ok (.float y) ∧ y.isInf = true :=
  ⟨(text_of_float_is_stable (x := Float.ofBits 1) (by decide +kernel)).1 (by decide +kernel),
    (text_of_float_is_stable (x := Float.ofBits 0x7fefffffffffffff) (by decide +kernel)).2
      (by decide +kernel)⟩

/-- The text of the greatest double does not name a finite number. -/
theorem greatest_double_lost_in_text :
    (Float.ofBits 0x7fefffffffffffff).isFinite = true ∧
      ¬ ∃ s y, (Value.ofFloat (Float.ofBits 0x7fefffffffffffff)).toText = .ok s ∧
        (Value.text s).toNumber = .ok y ∧ y.IsFinite ∧ (Value.number y).toText = .ok s := by
  have hfinite : (Float.ofBits 0x7fefffffffffffff).isFinite = true := by decide +kernel
  refine ⟨hfinite, ?_⟩
  rintro ⟨s, y, htext, hread, hy, -⟩
  obtain ⟨t, z, htext', hread', hinf⟩ :=
    exists_infinite_of_roundsBeyond hfinite (by decide +kernel)
  obtain rfl : s = t := Except.ok.inj (htext.symm.trans htext')
  obtain rfl : y = .float z := Except.ok.inj (hread.symm.trans hread')
  rw [not_isInf_of_isFinite ((Number.isFinite_float z).mp hy)] at hinf
  exact Bool.false_ne_true hinf

end SheetFormulas
