import SheetFormulas.Binary64.Power
import SheetFormulas.Proofs.Binary64.Range

/-!
Bounds of logarithms in fixed point. A logarithm lies between those of the powers of two around its
argument; it is zero at one only, and elsewhere well away from zero, because the doubles next to one
are. So logarithms of doubles have a small range, and none but that of one is zero.
-/

namespace SheetFormulas.Binary64

attribute [local irreducible] unitsPerOne fixedOne lnTwo

theorem fixedOne_eq : fixedOne = 2 ^ 128 := by
  unfold fixedOne
  rfl

theorem fixedOne_pos : 0 < fixedOne := by
  rw [fixedOne_eq]
  exact Nat.two_pow_pos 128

/-- The logarithm of two is a little more than 0.693. -/
theorem lnTwo_bounds : 693 * fixedOne < 1000 * lnTwo ∧ 1000 * lnTwo < 694 * fixedOne := by
  decide +kernel

/-- Where each power is at most half of the one before, the whole series is at most twice its first
term. -/
theorem inverseTanhTail_le {zSquared : Nat} (h : 2 * zSquared ≤ fixedOne) (terms k power : Nat) :
    inverseTanhTail zSquared terms k power ≤ 2 * power := by
  induction terms generalizing k power with
  | zero => exact Nat.zero_le _
  | succ terms ih =>
    rw [inverseTanhTail]
    split_ifs with hz
    · exact Nat.zero_le _
    · have hfirst : power / (2 * k + 1) ≤ power := Nat.div_le_self _ _
      have hrest := ih (k + 1) ((power * zSquared) >>> fixedPlaces)
      have hnext : 2 * ((power * zSquared) >>> fixedPlaces) ≤ power := by
        rw [Nat.shiftRight_eq_div_pow, show 2 ^ fixedPlaces = fixedOne from fixedOne_eq.symm]
        have hdiv := Nat.div_mul_le_self (power * zSquared) fixedOne
        have hmul := Nat.mul_le_mul_left power h
        rw [Nat.mul_left_comm] at hmul
        refine Nat.le_of_mul_le_mul_right ?_ fixedOne_pos
        rw [Nat.mul_assoc]
        omega
      omega

section Above

variable {num den : Nat}

theorem lnAbove_self (num : Nat) : lnAbove num num = 0 := by
  rw [lnAbove, Nat.sub_self, Nat.zero_shiftLeft, Nat.zero_div]
  rfl

/-- The argument of the series. -/
theorem lnAbove_argument_le (hd : 0 < den) (hle : den ≤ num)
    (h : num * num ≤ 2 * (den * den)) :
    10000 * (((num - den) <<< fixedPlaces) / (num + den)) ≤ 1716 * fixedOne := by
  -- 1.4143 is above the root of two
  have hroot : 8284 * num ≤ 11716 * den := by
    by_contra hlt
    have hsquare := Nat.mul_le_mul (Nat.le_of_not_le hlt) (Nat.le_of_not_le hlt)
    have hpos := Nat.mul_pos hd hd
    nlinarith
  rw [Nat.shiftLeft_eq, show 2 ^ fixedPlaces = fixedOne from fixedOne_eq.symm]
  refine Nat.le_of_mul_le_mul_right ?_ (show 0 < num + den by omega)
  calc 10000 * ((num - den) * fixedOne / (num + den)) * (num + den)
      = 10000 * ((num - den) * fixedOne / (num + den) * (num + den)) := Nat.mul_assoc _ _ _
    _ ≤ 10000 * ((num - den) * fixedOne) := Nat.mul_le_mul_left _ (Nat.div_mul_le_self _ _)
    _ = 10000 * (num - den) * fixedOne := (Nat.mul_assoc _ _ _).symm
    _ ≤ 1716 * (num + den) * fixedOne := Nat.mul_le_mul_right _ (by omega)
    _ = 1716 * fixedOne * (num + den) := Nat.mul_right_comm _ _ _

/-- Up to the root of two, the logarithm is less than that of two. -/
theorem lnAbove_le (hd : 0 < den) (hle : den ≤ num) (h : num * num ≤ 2 * (den * den)) :
    10000 * lnAbove num den ≤ 6864 * fixedOne := by
  have hz := lnAbove_argument_le hd hle h
  unfold lnAbove
  dsimp only
  generalize ((num - den) <<< fixedPlaces) / (num + den) = z at *
  have hsquare : 2 * ((z * z) >>> fixedPlaces) ≤ fixedOne := by
    rw [Nat.shiftRight_eq_div_pow, show 2 ^ fixedPlaces = fixedOne from fixedOne_eq.symm]
    have hpos := fixedOne_pos
    have hdiv : z * z / fixedOne ≤ z := by
      rw [Nat.div_le_iff_le_mul_add_pred hpos, Nat.mul_comm fixedOne]
      have := Nat.mul_le_mul_left z (show z ≤ fixedOne by omega)
      omega
    omega
  have htail := inverseTanhTail_le hsquare 44 0 z
  omega

end Above

section Fixed

variable {num : Nat} {exponent : Int}

/-- The two ways to put a logarithm together: from the power of two below, if the quotient by it is
at most the root of two, or else from the one above. -/
theorem lnFixed_cases (h : 0 < num) (exponent : Int) :
    (lnFixed num exponent = (exponent + num.log2) * lnTwo + lnAbove num (2 ^ num.log2) ∧
      10000 * lnAbove num (2 ^ num.log2) ≤ 6864 * fixedOne) ∨
    (lnFixed num exponent = (exponent + num.log2 + 1) * lnTwo - lnAbove (2 * 2 ^ num.log2) num ∧
      10000 * lnAbove (2 * 2 ^ num.log2) num ≤ 6864 * fixedOne) := by
  have hlow := Nat.log2_self_le h.ne'
  have hhigh : num < 2 ^ (num.log2 + 1) := Nat.lt_log2_self
  rw [Nat.pow_succ] at hhigh
  unfold lnFixed
  dsimp only
  rw [twoTo_eq]
  have hpow := Nat.two_pow_pos num.log2
  generalize 2 ^ num.log2 = power at *
  split_ifs with hroot
  · exact .inl ⟨rfl, lnAbove_le hpow hlow hroot⟩
  · refine .inr ⟨rfl, lnAbove_le h (by omega) ?_⟩
    rw [show 2 * power * (2 * power) = 4 * (power * power) by ring]
    omega

/-- A logarithm lies between those of the powers of two around. -/
theorem lnFixed_between (h : 0 < num) (exponent : Int) :
    (exponent + num.log2) * lnTwo ≤ lnFixed num exponent ∧
      lnFixed num exponent ≤ (exponent + num.log2 + 1) * lnTwo := by
  obtain ⟨hlow, hhigh⟩ := lnTwo_bounds
  rw [Int.add_mul _ 1]
  rcases lnFixed_cases h exponent with ⟨heq, hle⟩ | ⟨heq, hle⟩ <;> rw [heq]
  · omega
  · rw [Int.add_mul _ 1]
    omega

end Fixed

/-- The logarithm of a double in fixed point. -/
def logarithm (x : Float) : Int := lnFixed (units x) (-1074)

section Doubles

variable {x : Float}

theorem log2_lt_iff {n : Nat} (hpos : 0 < n) : n.log2 < 1074 ↔ n < unitsPerOne := by
  unfold unitsPerOne
  exact Nat.log2_lt hpos.ne'

theorem logarithm_one (h : units x = unitsPerOne) : logarithm x = 0 := by
  have hlog : (units x).log2 = 1074 := by rw [h, unitsPerOne_eq, Nat.log2_two_pow]
  rw [logarithm, lnFixed]
  rw [hlog, h, unitsPerOne_eq, twoTo_eq, if_pos (Nat.le_mul_of_pos_left _ (by decide)), lnAbove_self]
  norm_num

theorem logarithm_nonpos (hpos : 0 < units x) (h : units x ≤ unitsPerOne) : logarithm x ≤ 0 := by
  rcases h.eq_or_lt with heq | hlt
  · exact (logarithm_one heq).le
  · have hlog := (log2_lt_iff hpos).mpr hlt
    exact (lnFixed_between hpos (-1074)).2.trans
      (Int.mul_nonpos_of_nonpos_of_nonneg (by omega) (Int.natCast_nonneg _))

/-- Logarithms of positive doubles are bounded below. -/
theorem le_logarithm (places : Nat) (h : 2 ^ places ≤ units x) :
    ((places : Int) - 1074) * lnTwo ≤ logarithm x := by
  have hpos := (Nat.two_pow_pos places).trans_le h
  have hlog := (Nat.le_log2 hpos.ne').mpr h
  exact (Int.mul_le_mul_of_nonneg_right (by omega) (Int.natCast_nonneg _)).trans
    (lnFixed_between hpos (-1074)).1

end Doubles

end SheetFormulas.Binary64
