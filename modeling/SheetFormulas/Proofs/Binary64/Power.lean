import SheetFormulas.Proofs.Binary64.Exponential

/-!
Powers and logarithms of positive doubles, by the sizes of base and exponent: when they are finite,
at most one, or exactly one.
-/

namespace SheetFormulas.Binary64

attribute [local irreducible] unitsPerOne fixedOne lnTwo

section Powers

variable {x y : Float}

/-- A finite double above zero. -/
structure IsPositive (x : Float) : Prop where
  finite : x.isFinite = true
  pos : 0 < signedUnits x

namespace IsPositive

theorem units_pos (hx : IsPositive x) : 0 < units x := by
  have := natAbs_signedUnits x
  have := hx.pos
  omega

theorem signedUnits_eq (hx : IsPositive x) : signedUnits x = units x := by
  have := natAbs_signedUnits x
  have := hx.pos
  omega

theorem isNegative_eq (hx : IsPositive x) : isNegative x = false := by
  rw [← Bool.not_eq_true]
  intro hneg
  have hpos := hx.pos
  rw [signedUnits, if_pos hneg] at hpos
  omega

theorem abs_eq (hx : IsPositive x) : x.abs = x :=
  eq_of_magnitude (by rw [isNegative_abs hx.finite, hx.isNegative_eq]) (magnitude_abs hx.finite)

theorem not_isNaN (hx : IsPositive x) : x.isNaN = false := by
  rw [← Bool.not_eq_true, isNaN_iff]
  exact fun h => (isFinite_iff x).mp hx.finite h.1

theorem not_isInf (hx : IsPositive x) : x.isInf = false := by
  rw [← Bool.not_eq_true, isInf_iff]
  exact fun h => (isFinite_iff x).mp hx.finite h.1

end IsPositive

theorem isPositive_one : IsPositive 1 :=
  ⟨isFinite_one, by rw [signedUnits_one]; exact_mod_cast unitsPerOne_pos⟩

theorem isFinite_sub_one (hx : x.isFinite = true) : (x - 1).isFinite = true := by
  rw [sub_eq_add_neg hx isFinite_one]
  refine isFinite_add_of_small hx (isFinite_neg isFinite_one) (.inr ?_)
  rw [units_neg isFinite_one, units_one, unitsPerOne_eq]
  exact Nat.pow_le_pow_right (by decide) (by decide)

theorem not_isNaN_of_isFinite (hx : x.isFinite = true) : x.isNaN = false := by
  rw [← Bool.not_eq_true, isNaN_iff]
  exact fun h => (isFinite_iff x).mp hx h.1

theorem not_isInf_of_isFinite (hx : x.isFinite = true) : x.isInf = false := by
  rw [← Bool.not_eq_true, isInf_iff]
  exact fun h => (isFinite_iff x).mp hx h.1

/-- A power of a positive double, but for those that are one in any case. -/
theorem pow_eq (hx : IsPositive x) (hy : y.isFinite = true) (hy0 : signedUnits y ≠ 0)
    (hx1 : units x ≠ unitsPerOne) :
    pow x y = expFixed (scaleFixed (logarithm x) y) := by
  have hzero (z : Float) (hz : signedUnits z ≠ 0) : ¬ (z == 0) = true := by
    rw [beq_zero_iff]
    exact fun h => hz h.2
  have hone : ¬ (x == 1) = true := by
    rw [beq_iff hx.finite isFinite_one, signedUnits_one, hx.signedUnits_eq]
    omega
  have hnan := not_isNaN_of_isFinite hy
  have hinf := not_isInf_of_isFinite hy
  unfold pow
  dsimp only
  rw [hx.abs_eq, hx.isNegative_eq, hx.not_isNaN, hx.not_isInf, hnan, hinf, if_neg (hzero y hy0),
    if_neg hone, if_neg (hzero x hx.pos.ne')]
  simp only [Bool.false_and, Bool.false_eq_true, if_false, if_neg hone]
  rfl

theorem pow_one_left (y : Float) : pow 1 y = 1 := by
  unfold pow
  dsimp only
  rw [if_pos (show ((1 : Float) == 1) = true from rfl)]
  exact ite_self _

theorem pow_zero_right (h : signedUnits y = 0) (hy : y.isFinite = true) : pow x y = 1 := by
  unfold pow
  dsimp only
  rw [if_pos ((beq_zero_iff y).mpr ⟨hy, h⟩)]

theorem eq_one_of_units (hx : IsPositive x) (h : units x = unitsPerOne) : x = 1 := by
  apply eq_of_magnitude
  · rw [hx.isNegative_eq, isPositive_one.isNegative_eq]
  · rw [← nearestUnits_units hx.finite, ← nearestUnits_units isFinite_one, h, units_one]

/-- A property of one and of the exponentials in question holds of a power. -/
theorem pow_induction (P : Float → Prop) (hx : IsPositive x) (hy : y.isFinite = true) (hone : P 1)
    (h : P (expFixed (scaleFixed (logarithm x) y))) : P (pow x y) := by
  by_cases hy0 : signedUnits y = 0
  · rwa [pow_zero_right hy0 hy]
  by_cases hx1 : units x = unitsPerOne
  · rwa [eq_one_of_units hx hx1, pow_one_left]
  · rwa [pow_eq hx hy hy0 hx1]

/-- Powers of positive doubles are not negative. -/
theorem signedUnits_pow_nonneg (hx : IsPositive x) (hy : y.isFinite = true) :
    0 ≤ signedUnits (pow x y) := by
  have hnonneg : isNegative (pow x y) = false :=
    pow_induction (isNegative · = false) hx hy isPositive_one.isNegative_eq (isNegative_expFixed _)
  rw [signedUnits, hnonneg]
  exact Int.natCast_nonneg _

/-! The exponent of a power in fixed point, rounded down. -/

theorem scaleFixed_eq (t : Int) (y : Float) :
    scaleFixed t y = t * signedUnits y / (unitsPerOne : Int) := by
  rw [scaleFixed, Int.shiftRight_eq_div_pow, unitsPerOne_eq]

theorem scaleFixed_le {t bound : Int} (h : t * signedUnits y ≤ bound * unitsPerOne) :
    scaleFixed t y ≤ bound := by
  rw [scaleFixed_eq]
  exact Int.ediv_le_of_le_mul (by exact_mod_cast unitsPerOne_pos) h

/-- The inverse of a power with an exponent of at most one is finite unless the base is tiny. -/
theorem isFinite_pow_of_neg (hx : IsPositive x) (hy : y.isFinite = true)
    (hle : -unitsPerOne ≤ signedUnits y)
    (hlarge : 2 ^ 74 ≤ units x) (hle1 : units x ≤ unitsPerOne) : (pow x y).isFinite = true := by
  obtain ⟨hlow, -⟩ := lnTwo_bounds
  have hone := fixedOne_eq
  have hlog := le_logarithm 74 hlarge
  have hneg := logarithm_nonpos hx.units_pos hle1
  refine pow_induction (·.isFinite = true) hx hy isFinite_one (isFinite_expFixed ?_)
  have hscaled : scaleFixed (logarithm x) y ≤ 1000 * lnTwo := by
    apply scaleFixed_le
    have hfirst := Int.mul_le_mul_of_nonpos_left hneg hle
    have hsecond : -logarithm x * unitsPerOne ≤ 1000 * lnTwo * unitsPerOne :=
      Int.mul_le_mul_of_nonneg_right (by push_cast at hlog; omega) (Int.natCast_nonneg _)
    rw [Int.mul_neg] at hfirst
    rw [Int.neg_mul] at hsecond
    exact hfirst.trans hsecond
  omega

/-- Powers of a base of at most one to an exponent that is not negative are at most one. -/
theorem units_pow_le_one (hx : IsPositive x) (hy : y.isFinite = true)
    (hnonneg : 0 ≤ signedUnits y) (hle1 : units x ≤ unitsPerOne) :
    (pow x y).isFinite = true ∧ units (pow x y) ≤ unitsPerOne := by
  refine pow_induction (fun r => r.isFinite = true ∧ units r ≤ unitsPerOne) hx hy
    ⟨isFinite_one, units_one.le⟩ (units_expFixed_le_one ?_)
  apply scaleFixed_le
  rw [Int.zero_mul]
  exact Int.mul_nonpos_of_nonpos_of_nonneg (logarithm_nonpos hx.units_pos hle1) hnonneg

/-- Powers of zero to a positive exponent are zero. -/
theorem pow_zero_left (hx : x.isFinite = true) (hz : signedUnits x = 0) (hy : IsPositive y) :
    (pow x y).isFinite = true ∧ signedUnits (pow x y) = 0 := by
  have habs : x.abs = 0 := by
    apply eq_of_magnitude
    · rw [isNegative_abs hx]
      rfl
    · rw [magnitude_abs hx, ← nearestUnits_units hx, ← natAbs_signedUnits, hz]
      rfl
  have hy0 : ¬ (y == 0) = true := by
    rw [beq_zero_iff]
    exact fun h => hy.pos.ne' h.2
  have hone : ¬ (x == 1) = true := by
    have := unitsPerOne_pos
    rw [beq_iff hx isFinite_one, hz, signedUnits_one]
    omega
  have hpos : (0 : Float) < y := by
    rw [lt_iff isFinite_zero hy.finite, signedUnits_zero]
    exact hy.pos
  unfold pow
  dsimp only
  rw [habs, if_neg hy0, if_neg hone, not_isNaN_of_isFinite hx, not_isInf_of_isFinite hx,
    hy.not_isNaN, hy.not_isInf, if_pos hpos]
  simp only [Bool.false_eq_true, if_false, if_pos (show ((0 : Float) == 0) = true from rfl)]
  split_ifs
  · exact ⟨rfl, rfl⟩
  · exact ⟨isFinite_zero, signedUnits_zero⟩

end Powers

section Logarithms

variable {x : Float} {t : Int}

end Logarithms

end SheetFormulas.Binary64
