import SheetFormulas.Proofs.Binary64.Signs

/-!
The order of doubles. Rounding keeps the order of quotients, so magnitudes are ordered as their
patterns, and finite doubles compare as their exact values. Quotients short of the end of the range
round to finite doubles.
-/

namespace SheetFormulas.Binary64

open Float.Model Float.Model.UnpackedFloat

attribute [local irreducible] unitsPerOne

section Rounding

variable {num den num' den' : Nat}

theorem roundQuotient_le_succ_div (num den : Nat) : roundQuotient num den ≤ num / den + 1 := by
  unfold roundQuotient
  dsimp only
  split
  · omega
  · split <;> omega

theorem roundQuotient_mono (den : Nat) (h : num ≤ num') :
    roundQuotient num den ≤ roundQuotient num' den := by
  rcases (Nat.div_le_div_right h : num / den ≤ num' / den).lt_or_eq with hlt | heq
  · calc roundQuotient num den ≤ num / den + 1 := roundQuotient_le_succ_div num den
      _ ≤ num' / den := hlt
      _ ≤ roundQuotient num' den := div_le_roundQuotient num' den
  · -- with the same whole part, the greater remainder decides
    have hnum := Nat.div_add_mod num den
    have hnum' := Nat.div_add_mod num' den
    rw [← heq] at hnum'
    unfold roundQuotient
    rw [← heq]
    dsimp only
    split_ifs <;> omega

theorem log2_le_log2 (h : num ≤ num') : num.log2 ≤ num'.log2 := by
  rcases Nat.eq_zero_or_pos num with rfl | hpos
  · rw [Nat.log2_zero]
    exact Nat.zero_le _
  · rw [Nat.le_log2 (hpos.trans_le h).ne']
    exact (Nat.log2_self_le hpos.ne').trans h

theorem nearestUnits_mono (hd : 0 < den) (h : num ≤ num') :
    nearestUnits num den ≤ nearestUnits num' den := by
  have hlog : (num / den).log2 ≤ (num' / den).log2 := log2_le_log2 (Nat.div_le_div_right h)
  unfold nearestUnits
  refine min_le_min_right _ ?_
  rcases Nat.lt_or_ge ((num / den).log2 - 52) ((num' / den).log2 - 52) with hlt | hge
  · have hshift : 0 < den <<< ((num / den).log2 - 52) := by
      rw [Nat.shiftLeft_eq]
      exact Nat.mul_pos hd (Nat.two_pow_pos _)
    have hr := roundQuotient_le num _ _ hshift (lt_shiftLeft_binade num den hd)
    have hr' : 2 ^ 52 ≤ roundQuotient num' (den <<< ((num' / den).log2 - 52)) :=
      two_pow_le_roundQuotient (by omega)
    omega
  · rw [show (num' / den).log2 - 52 = (num / den).log2 - 52 by omega]
    exact Nat.add_le_add_left (roundQuotient_mono _ h) _

/-- Rounding keeps the order of quotients. -/
theorem nearestUnits_le_nearestUnits (hd : 0 < den) (hd' : 0 < den')
    (h : num * den' ≤ num' * den) : nearestUnits num den ≤ nearestUnits num' den' := by
  rw [← nearestUnits_mul_mul num den hd', ← nearestUnits_mul_mul num' den' hd, Nat.mul_comm den' den]
  exact nearestUnits_mono (Nat.mul_pos hd hd') h

/-- Quotients that are nearer to the greatest finite double than to the next power of two are
rounded to a finite double. -/
theorem nearestUnits_lt_infinityBits (hd : 0 < den) (h : num < (2 ^ 54 - 1) * 2 ^ 2044 * den) :
    nearestUnits num den < infinityBits := by
  have hlog : (num / den).log2 < 54 + 2044 := by
    rcases Nat.eq_zero_or_pos (num / den) with hz | hpos
    · rw [hz]
      exact (by decide : (0 : Nat) < 54 + 2044)
    · rw [Nat.log2_lt hpos.ne', Nat.div_lt_iff_lt_mul hd, pow_add]
      have hle : 2 ^ 54 - 1 ≤ 2 ^ 54 := by omega
      exact h.trans_le (Nat.mul_le_mul_right den (Nat.mul_le_mul_right (2 ^ 2044) hle))
  have hshift : 0 < den <<< ((num / den).log2 - 52) := by
    rw [Nat.shiftLeft_eq]
    exact Nat.mul_pos hd (Nat.two_pow_pos _)
  have hr := roundQuotient_le num _ _ hshift (lt_shiftLeft_binade num den hd)
  have hlast : (num / den).log2 - 52 = 2045 →
      roundQuotient num (den <<< ((num / den).log2 - 52)) < 2 ^ 53 := by
    intro hbinade
    have htwice := two_mul_roundQuotient_mul_le num hshift
    rw [hbinade, Nat.shiftLeft_eq] at htwice ⊢
    have hden : den * 2 ^ 2045 = 2 * (2 ^ 2044 * den) := by
      rw [Nat.pow_succ]
      ring
    rw [Nat.mul_assoc] at h
    rw [hden] at htwice ⊢
    have hpos : 0 < 2 ^ 2044 * den := Nat.mul_pos (Nat.two_pow_pos _) hd
    generalize 2 ^ 2044 * den = unit at *
    by_contra hge
    have := Nat.mul_le_mul_right (2 * unit) (Nat.le_of_not_lt hge)
    omega
  unfold nearestUnits
  rw [infinityBits_eq]
  omega

end Rounding

section Order

variable {x y : Float}

theorem magnitude_le_of_units_le (hx : x.isFinite = true) (hy : y.isFinite = true)
    (h : units x ≤ units y) : magnitude x ≤ magnitude y := by
  rw [← nearestUnits_units hx, ← nearestUnits_units hy]
  exact nearestUnits_mono Nat.one_pos h

/-- Patterns without their signs are ordered as the exact values. -/
theorem magnitude_le_iff (hx : x.isFinite = true) (hy : y.isFinite = true) :
    magnitude x ≤ magnitude y ↔ units x ≤ units y := by
  refine ⟨fun h => ?_, magnitude_le_of_units_le hx hy⟩
  rcases Nat.le_total (units x) (units y) with hle | hle
  · exact hle
  · exact (units_of_magnitude (h.antisymm (magnitude_le_of_units_le hy hx hle))).le

theorem magnitude_lt_iff (hx : x.isFinite = true) (hy : y.isFinite = true) :
    magnitude x < magnitude y ↔ units x < units y := by
  rw [← Nat.not_le, magnitude_le_iff hy hx, Nat.not_le]

/-- Scales and then significands are compared as the exact magnitudes. -/
theorem compare_scale_significand (hx : x.isFinite = true) (hy : y.isFinite = true) :
    (compare ((scale x : Int) - 1074) ((scale y : Int) - 1074)).then
      (compare (significand x) (significand y)) = compare (units x) (units y) := by
  have hmx := magnitude_eq x
  have hmy := magnitude_eq y
  have hsx := significand_lt x
  have hsy := significand_lt y
  have hfx := significand_full x
  have hfy := significand_full y
  have hlt := magnitude_lt_iff hx hy
  have hgt := magnitude_lt_iff hy hx
  rcases Nat.lt_trichotomy (scale x) (scale y) with hs | hs | hs
  · rw [Int.compare_eq_lt.mpr (by omega), Ordering.lt_then,
      Nat.compare_eq_lt.mpr (hlt.mp (by omega))]
  · rw [hs, Int.compare_eq_eq.mpr rfl, Ordering.eq_then]
    rcases Nat.lt_trichotomy (significand x) (significand y) with hm | hm | hm
    · rw [Nat.compare_eq_lt.mpr hm, Nat.compare_eq_lt.mpr (hlt.mp (by omega))]
    · rw [Nat.compare_eq_eq.mpr hm, Nat.compare_eq_eq.mpr]
      rw [units_eq, units_eq, hs, hm]
    · rw [Nat.compare_eq_gt.mpr hm, Nat.compare_eq_gt.mpr (hgt.mp (by omega))]
  · rw [Int.compare_eq_gt.mpr (by omega), Ordering.gt_then,
      Nat.compare_eq_gt.mpr (hgt.mp (by omega))]

theorem compare_neg_natCast (m n : Nat) : compare (-(m : Int)) (-(n : Int)) = (compare m n).swap := by
  rcases Nat.lt_trichotomy m n with h | h | h
  · rw [Nat.compare_eq_lt.mpr h, Int.compare_eq_gt.mpr (by omega)]
    rfl
  · rw [Nat.compare_eq_eq.mpr h, Int.compare_eq_eq.mpr (by omega)]
    rfl
  · rw [Nat.compare_eq_gt.mpr h, Int.compare_eq_lt.mpr (by omega)]
    rfl

theorem compare_natCast (m n : Nat) : compare (m : Int) (n : Int) = compare m n := by
  rcases Nat.lt_trichotomy m n with h | h | h
  · rw [Nat.compare_eq_lt.mpr h, Int.compare_eq_lt.mpr (by omega)]
  · rw [Nat.compare_eq_eq.mpr h, Int.compare_eq_eq.mpr (by omega)]
  · rw [Nat.compare_eq_gt.mpr h, Int.compare_eq_gt.mpr (by omega)]

/-- Finite doubles are compared by their exact values. -/
theorem compare_unpacked (hx : x.isFinite = true) (hy : y.isFinite = true) :
    (unpacked x).compare (unpacked y) = some (compare (signedUnits x) (signedUnits y)) := by
  have hzx := units_eq_zero_iff x
  have hzy := units_eq_zero_iff y
  rw [unpacked_of_finite hx, unpacked_of_finite hy]
  by_cases hsx : significand x = 0 <;> by_cases hsy : significand y = 0
  · rw [dif_pos hsx, dif_pos hsy, (signedUnits_eq_zero_iff x).mpr hsx,
      (signedUnits_eq_zero_iff y).mpr hsy]
    rfl
  · have hpos := Nat.pos_of_ne_zero (mt hzy.mp hsy)
    rw [dif_pos hsx, dif_neg hsy, (signedUnits_eq_zero_iff x).mpr hsx, signedUnits, signOf.eq_1 y]
    cases isNegative y with
    | true =>
      rw [Int.compare_eq_gt.mpr (by simp; omega)]
      rfl
    | false =>
      rw [Int.compare_eq_lt.mpr (by simp; omega)]
      rfl
  · have hpos := Nat.pos_of_ne_zero (mt hzx.mp hsx)
    rw [dif_neg hsx, dif_pos hsy, (signedUnits_eq_zero_iff y).mpr hsy, signedUnits, signOf.eq_1 x]
    cases isNegative x with
    | true =>
      rw [Int.compare_eq_lt.mpr (by simp; omega)]
      rfl
    | false =>
      rw [Int.compare_eq_gt.mpr (by simp; omega)]
      rfl
  · have hposx := Nat.pos_of_ne_zero (mt hzx.mp hsx)
    have hposy := Nat.pos_of_ne_zero (mt hzy.mp hsy)
    have hlex := compare_scale_significand hx hy
    rw [dif_neg hsx, dif_neg hsy, signedUnits, signedUnits, signOf, signOf]
    cases isNegative x <;> cases isNegative y
    · show some _ = some (compare (units x : Int) (units y : Int))
      rw [compare_natCast, hlex]
    · rw [Int.compare_eq_gt.mpr (by simp; omega)]
      rfl
    · rw [Int.compare_eq_lt.mpr (by simp; omega)]
      rfl
    · show some _ = some (compare (-(units x : Int)) (-(units y : Int)))
      rw [compare_neg_natCast, hlex]

theorem lt_iff (hx : x.isFinite = true) (hy : y.isFinite = true) :
    x < y ↔ signedUnits x < signedUnits y := by
  have h : x < y ↔ ((unpacked x).compare (unpacked y) == some .lt) = true := decide_eq_true_iff
  rw [h, compare_unpacked hx hy, beq_iff_eq, Option.some_inj, Int.compare_eq_lt]

theorem le_iff (hx : x.isFinite = true) (hy : y.isFinite = true) :
    x ≤ y ↔ signedUnits x ≤ signedUnits y := by
  have h : x ≤ y ↔ ((unpacked x).compare (unpacked y)).any (·.isLE) = true := decide_eq_true_iff
  rw [h, compare_unpacked hx hy, Option.any_some, Ordering.isLE_iff_ne_gt]
  exact (not_congr Int.compare_eq_gt).trans Int.not_lt

theorem beq_iff (hx : x.isFinite = true) (hy : y.isFinite = true) :
    (x == y) = true ↔ signedUnits x = signedUnits y := by
  have h : (x == y) = ((unpacked x).compare (unpacked y) == some .eq) := rfl
  rw [h, compare_unpacked hx hy, beq_iff_eq, Option.some_inj, Int.compare_eq_eq]

end Order

end SheetFormulas.Binary64
