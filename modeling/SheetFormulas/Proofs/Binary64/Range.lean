import SheetFormulas.Proofs.Binary64.Order

/-!
The range of results. A number of units that fits in a significand is kept, and any other value
rounds to something between the doubles around it: so results of operations are bounded by doubles
that bound the exact results, and they are finite where the exact results leave room.
-/

namespace SheetFormulas.Binary64

attribute [local irreducible] unitsPerOne

section Exact

variable {m e num den : Nat}

/-- A number of units that fits in a significand has a pattern of its own. -/
theorem nearestUnits_exact (hm : m < 2 ^ 53) (he : e ≤ 2045) :
    ∃ binade, nearestUnits (m * 2 ^ e) 1 = binade * 2 ^ 52 + m * 2 ^ e / 2 ^ binade ∧
      m * 2 ^ e / 2 ^ binade * 2 ^ binade = m * 2 ^ e ∧ binade ≤ 2045 ∧
      m * 2 ^ e / 2 ^ binade < 2 ^ 53 ∧
      (2 ^ 52 ≤ m * 2 ^ e / 2 ^ binade ∨ binade = 0) := by
  rcases Nat.eq_zero_or_pos m with rfl | hpos
  · refine ⟨0, ?_, ?_, ?_, ?_, .inr rfl⟩ <;> simp [nearestUnits, roundQuotient]
  have hne : m * 2 ^ e ≠ 0 := (Nat.mul_pos hpos (Nat.two_pow_pos e)).ne'
  obtain ⟨binade, hbinade⟩ : ∃ binade, binade = (m * 2 ^ e).log2 - 52 := ⟨_, rfl⟩
  have hlog : (m * 2 ^ e).log2 < 53 + e := by
    rw [Nat.log2_lt hne, Nat.pow_add]
    exact Nat.mul_lt_mul_of_pos_right hm (Nat.two_pow_pos e)
  have hdvd : m * 2 ^ e / 2 ^ binade * 2 ^ binade = m * 2 ^ e :=
    Nat.div_mul_cancel ((pow_dvd_pow 2 (by omega)).mul_left m)
  have hlt : m * 2 ^ e / 2 ^ binade < 2 ^ 53 := by
    rw [Nat.div_lt_iff_lt_mul (Nat.two_pow_pos _), ← Nat.pow_add, ← Nat.log2_lt hne]
    omega
  have hfull : 2 ^ 52 ≤ m * 2 ^ e / 2 ^ binade ∨ binade = 0 := by
    by_cases hzero : binade = 0
    · exact .inr hzero
    · rw [Nat.le_div_iff_mul_le (Nat.two_pow_pos _), ← Nat.pow_add, ← Nat.le_log2 hne]
      omega
  refine ⟨binade, ?_, hdvd, by omega, hlt, hfull⟩
  rw [nearestUnits, Nat.div_one, ← hbinade, Nat.shiftLeft_eq, Nat.one_mul]
  nth_rewrite 1 [← hdvd]
  rw [roundQuotient_mul _ (Nat.two_pow_pos _), infinityBits_eq]
  omega

/-- A quotient that is a whole number of units and fits in a significand is kept. -/
theorem units_ofRatio_exact (negative : Bool) (hd : 0 < den) (hm : m < 2 ^ 53) (he : e ≤ 2045)
    (h : num * unitsPerOne = m * 2 ^ e * den) :
    (ofRatio negative num den).isFinite = true ∧
      units (ofRatio negative num den) = m * 2 ^ e := by
  obtain ⟨binade, hbits, hdvd, hbinade, hlt, hfull⟩ := nearestUnits_exact hm he
  have hnearest : nearestBits num den = nearestUnits (m * 2 ^ e) 1 := by
    rw [nearestBits_eq]
    exact nearestUnits_congr hd Nat.one_pos (by rw [Nat.mul_one, h])
  have hfinite : (ofRatio negative num den).isFinite = true := by
    rw [isFinite_ofRatio_iff, hnearest, hbits, infinityBits_eq]
    omega
  refine ⟨hfinite, ?_⟩
  -- the fields of the result are those of the number
  have hmagnitude := magnitude_eq (ofRatio negative num den)
  have hsignificand := significand_lt (ofRatio negative num den)
  have hcanonical := significand_full (ofRatio negative num den)
  rw [magnitude_ofRatio, hnearest, hbits] at hmagnitude
  have hscale : scale (ofRatio negative num den) = binade := by omega
  rw [units_eq, hscale, twoTo_eq]
  rw [hscale] at hmagnitude
  rw [show significand (ofRatio negative num den) = m * 2 ^ e / 2 ^ binade by omega, hdvd]

end Exact

theorem isFinite_zero : (0 : Float).isFinite = true := rfl

theorem signedUnits_zero : signedUnits 0 = 0 := rfl

theorem units_zero : units 0 = 0 := rfl

theorem isFinite_one : (1 : Float).isFinite = true := rfl

theorem units_one : units 1 = unitsPerOne := by
  rw [units_eq, twoTo_eq, unitsPerOne_eq, show significand 1 = 2 ^ 52 from rfl,
    show scale 1 = 1022 from rfl, ← pow_add]

theorem signedUnits_one : signedUnits 1 = unitsPerOne := by
  rw [signedUnits, show isNegative 1 = false from rfl, units_one, if_neg Bool.false_ne_true]

section Bounds

variable {x y z : Float} {negative : Bool} {num den : Nat}

/-- The greatest finite double. -/
theorem units_le (hx : x.isFinite = true) : units x ≤ (2 ^ 53 - 1) * 2 ^ 2045 := by
  have hscale := scale_lt hx
  have hlt := significand_lt x
  rw [units_eq, twoTo_eq]
  exact Nat.mul_le_mul (by omega) (Nat.pow_le_pow_right (by decide) (by omega))

theorem units_add_le_of_lt_one (hx : x.isFinite = true) (h : units x < unitsPerOne) :
    units x + 2 ^ 1021 ≤ unitsPerOne := by
  obtain ⟨hf, hm, hu⟩ : (Float.ofBits 0x3fefffffffffffff).isFinite = true ∧
      magnitude (Float.ofBits 0x3fefffffffffffff) + 1 = magnitude 1 ∧
      units (Float.ofBits 0x3fefffffffffffff) + 2 ^ 1021 = unitsPerOne := by
    refine ⟨rfl, rfl, ?_⟩
    rw [units_eq, twoTo_eq, unitsPerOne_eq,
      show significand (Float.ofBits 0x3fefffffffffffff) = 2 ^ 53 - 1 from rfl,
      show scale (Float.ofBits 0x3fefffffffffffff) = 1021 from rfl, ← Nat.succ_mul,
      Nat.succ_eq_add_one, Nat.sub_add_cancel (Nat.two_pow_pos 53), ← pow_add]
  rw [← units_one, ← magnitude_lt_iff hx isFinite_one, ← hm, Nat.lt_succ_iff,
    magnitude_le_iff hx hf] at h
  rw [← hu]
  exact Nat.add_le_add_right h _

theorem isFinite_ofRatio (negative : Bool) (hd : 0 < den) (h : num * unitsPerOne < (2 ^ 54 - 1) * 2 ^ 2044 * den) :
    (ofRatio negative num den).isFinite = true := by
  rw [isFinite_ofRatio_iff, nearestBits_eq]
  exact nearestUnits_lt_infinityBits hd h

/-- A quotient beyond the range is infinite. -/
theorem ofRatio_eq_infinity (h : (ofRatio false num den).isFinite = false) :
    ofRatio false num den = Float.ofBits 0x7ff0000000000000 := by
  apply eq_of_magnitude
  · rw [isNegative_ofRatio]
    rfl
  · rw [← Bool.not_eq_true, isFinite_iff_magnitude, magnitude_ofRatio] at h
    rw [magnitude_ofRatio, le_antisymm (nearestBits_le_infinityBits _ _) (not_lt.mp h)]
    rfl

/-- What is at most a double rounds to at most that double. -/
theorem ofRatio_le (negative : Bool) (hd : 0 < den) (hz : z.isFinite = true)
    (h : num * unitsPerOne ≤ units z * den) :
    (ofRatio negative num den).isFinite = true ∧ units (ofRatio negative num den) ≤ units z := by
  have hle : nearestBits num den ≤ magnitude z := by
    rw [nearestBits_eq, ← nearestUnits_units hz]
    exact nearestUnits_le_nearestUnits hd Nat.one_pos (by rwa [Nat.mul_one])
  have hfinite : (ofRatio negative num den).isFinite = true := by
    rw [isFinite_ofRatio_iff]
    exact hle.trans_lt ((isFinite_iff_magnitude z).mp hz)
  refine ⟨hfinite, (magnitude_le_iff hfinite hz).mp ?_⟩
  rwa [magnitude_ofRatio]

/-- What is at least a double rounds to at least that double. -/
theorem le_ofRatio (hd : 0 < den) (hz : z.isFinite = true)
    (hf : (ofRatio negative num den).isFinite = true) (h : units z * den ≤ num * unitsPerOne) :
    units z ≤ units (ofRatio negative num den) := by
  rw [← magnitude_le_iff hz hf, magnitude_ofRatio, nearestBits_eq, ← nearestUnits_units hz]
  exact nearestUnits_le_nearestUnits Nat.one_pos hd (by rwa [Nat.mul_one])

theorem signedUnits_ofRatio (negative : Bool) (num den : Nat) :
    signedUnits (ofRatio negative num den) =
      if negative then -(units (ofRatio negative num den) : Int)
      else units (ofRatio negative num den) := by
  rw [signedUnits, isNegative_ofRatio]

/-- Only a finite double without units equals zero. -/
theorem beq_zero_iff (x : Float) : (x == 0) = true ↔ x.isFinite = true ∧ signedUnits x = 0 := by
  constructor
  · intro h
    have hx : x.isFinite = true := by
      rw [isFinite_iff, exponentField_of_beq_zero h]
      decide
    exact ⟨hx, by rw [(beq_iff hx isFinite_zero).mp h, signedUnits_zero]⟩
  · rintro ⟨hx, hz⟩
    rw [beq_iff hx isFinite_zero, hz, signedUnits_zero]

theorem sumIsNegative_of_pos (h : 0 < signedUnits x + signedUnits y) :
    sumIsNegative x y = false := by
  rw [sumIsNegative_of_ne h.ne', decide_eq_false_iff_not]
  omega

theorem isFinite_add_of_le {bound : Nat} (hx : x.isFinite = true) (hy : y.isFinite = true)
    (h : (signedUnits x + signedUnits y).natAbs ≤ bound) (hb : bound < (2 ^ 54 - 1) * 2 ^ 2044) :
    (x + y).isFinite = true := by
  rw [add_eq hx hy]
  exact isFinite_ofRatio _ unitsPerOne_pos (Nat.mul_lt_mul_of_pos_right (h.trans_lt hb) unitsPerOne_pos)

/-- A double that is far below the spacing at the end of the range leads no sum out of the range. -/
theorem isFinite_add_of_small (hx : x.isFinite = true) (hy : y.isFinite = true)
    (h : units x ≤ 2 ^ 2043 ∨ units y ≤ 2 ^ 2043) : (x + y).isFinite = true := by
  have hlx := units_le hx
  have hly := units_le hy
  have hnx := natAbs_signedUnits x
  have hny := natAbs_signedUnits y
  rw [show 2045 = 2 + 2043 from rfl, pow_add] at hlx hly
  refine isFinite_add_of_le hx hy (le_refl _) ?_
  rw [show 2044 = 1 + 2043 from rfl, pow_add]
  have hunit : 0 < 2 ^ 2043 := Nat.two_pow_pos 2043
  generalize 2 ^ 2043 = unit at *
  omega

/-- Doubles that are not negative differ by a finite double. -/
theorem isFinite_sub_of_nonneg (hx : x.isFinite = true) (hy : y.isFinite = true)
    (hxs : 0 ≤ signedUnits x) (hys : 0 ≤ signedUnits y) : (x - y).isFinite = true := by
  have hlx := units_le hx
  have hly := units_le hy
  have hnx := natAbs_signedUnits x
  have hny := natAbs_signedUnits y
  rw [sub_eq_add_neg hx hy]
  rw [show 2045 = 1 + 2044 from rfl, pow_add] at hlx hly
  refine isFinite_add_of_le hx (isFinite_neg hy) (le_refl _) ?_
  rw [signedUnits_neg hy]
  have hunit : 0 < 2 ^ 2044 := Nat.two_pow_pos 2044
  generalize 2 ^ 2044 = unit at *
  omega

/-- A sum is at least the positive double that it is at least exactly. -/
theorem le_add_of_le (hx : x.isFinite = true) (hy : y.isFinite = true) (hz : z.isFinite = true)
    (hpos : 0 < signedUnits z) (h : signedUnits z ≤ signedUnits x + signedUnits y)
    (hf : (x + y).isFinite = true) : signedUnits z ≤ signedUnits (x + y) := by
  have hnz := natAbs_signedUnits z
  rw [add_eq hx hy, sumIsNegative_of_pos (by omega)] at hf ⊢
  have hle := le_ofRatio unitsPerOne_pos hz hf (Nat.mul_le_mul_right _ (by omega))
  rw [signedUnits_ofRatio, if_neg Bool.false_ne_true]
  omega

/-- The size of a sum is at most a double that it is at most exactly. -/
theorem units_add_le (hx : x.isFinite = true) (hy : y.isFinite = true) (hz : z.isFinite = true)
    (h : (signedUnits x + signedUnits y).natAbs ≤ units z) :
    (x + y).isFinite = true ∧ units (x + y) ≤ units z := by
  rw [add_eq hx hy]
  exact ofRatio_le _ unitsPerOne_pos hz (Nat.mul_le_mul_right _ h)

/-- The least positive double. -/
theorem exists_unit : ∃ z : Float, z.isFinite = true ∧ signedUnits z = 1 := by
  obtain ⟨hf, hunits⟩ := units_ofRatio_exact (m := 1) (e := 0) false unitsPerOne_pos (by decide)
    (by decide) (show 1 * unitsPerOne = 1 * 2 ^ 0 * unitsPerOne by ring)
  refine ⟨_, hf, ?_⟩
  rw [signedUnits_ofRatio, hunits]
  rfl

/-- A sum is positive if it is exactly. -/
theorem add_pos_of_pos (hx : x.isFinite = true) (hy : y.isFinite = true)
    (h : 0 < signedUnits x + signedUnits y) (hf : (x + y).isFinite = true) :
    0 < signedUnits (x + y) := by
  obtain ⟨unit, hunit, hone⟩ := exists_unit
  have hle := le_add_of_le hx hy hunit (by omega) (by omega) hf
  omega

/-- A sum is not negative if it is not so exactly. -/
theorem add_nonneg_of_nonneg (hx : x.isFinite = true) (hy : y.isFinite = true)
    (h : 0 ≤ signedUnits x + signedUnits y) (hf : (x + y).isFinite = true) :
    0 ≤ signedUnits (x + y) := by
  rcases h.eq_or_lt with heq | hpos
  · have hle := (units_add_le hx hy isFinite_zero (by rw [← heq]; exact Nat.zero_le _)).2
    have := natAbs_signedUnits (x + y)
    rw [units_zero] at hle
    omega
  · exact (add_pos_of_pos hx hy hpos hf).le

/-- The size of a product is at most a double that it is at most exactly. -/
theorem units_mul_le (hx : x.isFinite = true) (hy : y.isFinite = true) (hz : z.isFinite = true)
    (h : units x * units y ≤ units z * unitsPerOne) :
    (x * y).isFinite = true ∧ units (x * y) ≤ units z := by
  rw [mul_eq hx hy]
  refine ofRatio_le _ (Nat.mul_pos unitsPerOne_pos unitsPerOne_pos) hz ?_
  rw [← Nat.mul_assoc]
  exact Nat.mul_le_mul_right _ h

/-- Taking a part of a double that is at most the whole of it. -/
theorem units_mul_le_left (hx : x.isFinite = true) (hy : y.isFinite = true)
    (h : units y ≤ unitsPerOne) : (x * y).isFinite = true ∧ units (x * y) ≤ units x :=
  units_mul_le hx hy hx (Nat.mul_le_mul_left _ h)

/-- The size of a quotient is at most a double that it is at most exactly. -/
theorem units_div_le (hx : x.isFinite = true) (hy : y.isFinite = true) (hz : z.isFinite = true)
    (hy0 : 0 < units y) (h : units x * unitsPerOne ≤ units z * units y) :
    (x / y).isFinite = true ∧ units (x / y) ≤ units z := by
  rw [div_eq hx hy hy0.ne']
  exact ofRatio_le _ hy0 hz h

theorem units_ofRatio_zero (negative : Bool) (hd : 0 < den) : units (ofRatio negative 0 den) = 0 := by
  have hle := (ofRatio_le negative hd isFinite_zero
    (show 0 * unitsPerOne ≤ units 0 * den by rw [Nat.zero_mul]; exact Nat.zero_le _)).2
  rw [units_zero] at hle
  omega

/-- A rounded quotient is not negative if its sign is not, or if it is zero. -/
theorem signedUnits_ofRatio_nonneg (hd : 0 < den) (h : negative = true → num = 0) :
    0 ≤ signedUnits (ofRatio negative num den) := by
  rw [signedUnits_ofRatio]
  cases negative with
  | false => exact Int.natCast_nonneg _
  | true => rw [h rfl, units_ofRatio_zero true hd]; rfl

theorem units_eq_zero_of_isNegative (h : isNegative x = true) (hnonneg : 0 ≤ signedUnits x) :
    units x = 0 := by
  rw [signedUnits, if_pos h] at hnonneg
  omega

/-- Products of doubles that are not negative are not negative. -/
theorem mul_nonneg_of_nonneg (hx : x.isFinite = true) (hy : y.isFinite = true)
    (hxs : 0 ≤ signedUnits x) (hys : 0 ≤ signedUnits y) : 0 ≤ signedUnits (x * y) := by
  rw [mul_eq hx hy]
  refine signedUnits_ofRatio_nonneg (Nat.mul_pos unitsPerOne_pos unitsPerOne_pos) fun h => ?_
  cases hnx : isNegative x with
  | true => rw [units_eq_zero_of_isNegative hnx hxs, Nat.zero_mul]
  | false =>
    rw [hnx, Bool.false_bne] at h
    rw [units_eq_zero_of_isNegative h hys, Nat.mul_zero]

/-- Quotients of doubles that are not negative are not negative. -/
theorem div_nonneg_of_nonneg (hx : x.isFinite = true) (hy : y.isFinite = true)
    (hxs : 0 ≤ signedUnits x) (hys : 0 < signedUnits y) : 0 ≤ signedUnits (x / y) := by
  have hny : isNegative y = false := by
    rw [← Bool.not_eq_true]
    intro hneg
    rw [signedUnits, if_pos hneg] at hys
    omega
  have hpos : 0 < units y := by
    have := natAbs_signedUnits y
    omega
  rw [div_eq hx hy hpos.ne']
  refine signedUnits_ofRatio_nonneg hpos fun h => ?_
  rw [hny, Bool.bne_false] at h
  exact units_eq_zero_of_isNegative h hxs

end Bounds

end SheetFormulas.Binary64
