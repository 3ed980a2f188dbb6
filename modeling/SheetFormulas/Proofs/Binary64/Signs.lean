import SheetFormulas.Proofs.Binary64.Arithmetic

/-!
Signs and magnitudes of doubles: opposites, absolute values and differences; and what is not finite
stays so under every operation.
-/

namespace SheetFormulas.Binary64

open Float.Model Float.Model.UnpackedFloat

attribute [local irreducible] unitsPerOne

section Operations

variable {x y : Float}

/-- A double is given by its sign and its magnitude. -/
theorem eq_of_magnitude (hs : isNegative x = isNegative y) (hm : magnitude x = magnitude y) :
    x = y := by
  apply eq_of_toNat_toBits
  rw [toNat_toBits_eq, toNat_toBits_eq, hs, hm]

theorem exponentField_of_magnitude (x : Float) : exponentField x = magnitude x / 2 ^ 52 := by
  rw [exponentField_eq, magnitude]
  omega

theorem isFinite_iff_magnitude (x : Float) : x.isFinite = true ↔ magnitude x < infinityBits := by
  have hlt : magnitude x < 2 ^ 63 := Nat.mod_lt _ (by decide)
  rw [isFinite_iff, exponentField_of_magnitude, infinityBits_eq]
  omega

theorem units_of_magnitude (h : magnitude x = magnitude y) : units x = units y := by
  have hfield : exponentField x = exponentField y := by
    rw [exponentField_of_magnitude, exponentField_of_magnitude, h]
  have hscale : scale x = scale y := by rw [scale, scale, hfield]
  have hsignificand : significand x = significand y := by
    have hx := magnitude_eq x
    have hy := magnitude_eq y
    omega
  rw [units_eq, units_eq, hscale, hsignificand]

theorem isNegative_ofRatio (negative : Bool) (num den : Nat) :
    isNegative (ofRatio negative num den) = negative := by
  have hle := nearestBits_le_infinityBits num den
  rw [infinityBits_eq] at hle
  rw [Bool.eq_iff_iff, isNegative_iff, toNat_toBits_ofRatio]
  cases negative with
  | false =>
    simp
    omega
  | true => simp

theorem magnitude_ofRatio (negative : Bool) (num den : Nat) :
    magnitude (ofRatio negative num den) = nearestBits num den := by
  have hle := nearestBits_le_infinityBits num den
  rw [infinityBits_eq] at hle
  rw [magnitude, toNat_toBits_ofRatio]
  split <;> omega

theorem signBits_neg (x : Float) :
    signBits (-signOf x) = if !isNegative x then 2 ^ 63 else 0 := by
  unfold signOf
  cases isNegative x <;> rfl

theorem toNat_toBits_neg (hx : x.isFinite = true) :
    (-x).toBits.toNat = (if !isNegative x then 2 ^ 63 else 0) + magnitude x := by
  show (UnpackedFloat.pack Format.binary64 (unpacked x).neg).toNat = _
  rw [unpacked_of_finite hx, ← signBits_neg]
  have hm := magnitude_eq x
  have hscale := scale_lt hx
  have hlt := significand_lt x
  have hfull := significand_full x
  by_cases hz : significand x = 0
  · rw [dif_pos hz, UnpackedFloat.neg, toNat_pack_zero]
    omega
  · have hfit : 2 ^ 52 ≤ significand x ∨ (scale x : Int) - 1074 = -1074 := by omega
    rw [dif_neg hz, UnpackedFloat.neg, toNat_pack_finite _ _ hlt (by omega) hfit, infinityBits_eq]
    omega

theorem isNegative_neg (hx : x.isFinite = true) : isNegative (-x) = !isNegative x := by
  have hlt := (isFinite_iff_magnitude x).mp hx
  rw [infinityBits_eq] at hlt
  rw [Bool.eq_iff_iff, isNegative_iff, toNat_toBits_neg hx]
  cases isNegative x with
  | false => simp
  | true =>
    simp
    omega

theorem magnitude_neg (hx : x.isFinite = true) : magnitude (-x) = magnitude x := by
  have hlt := (isFinite_iff_magnitude x).mp hx
  rw [infinityBits_eq] at hlt
  rw [magnitude, toNat_toBits_neg hx]
  split <;> omega

theorem isFinite_neg (hx : x.isFinite = true) : (-x).isFinite = true := by
  rw [isFinite_iff_magnitude, magnitude_neg hx]
  exact (isFinite_iff_magnitude x).mp hx

theorem units_neg (hx : x.isFinite = true) : units (-x) = units x :=
  units_of_magnitude (magnitude_neg hx)

theorem signedUnits_neg (hx : x.isFinite = true) : signedUnits (-x) = -signedUnits x := by
  unfold signedUnits
  rw [isNegative_neg hx, units_neg hx]
  cases isNegative x <;> simp

theorem toNat_toBits_abs (hx : x.isFinite = true) : x.abs.toBits.toNat = magnitude x := by
  show (UnpackedFloat.pack Format.binary64 (unpacked x).abs).toNat = _
  rw [unpacked_of_finite hx]
  have hm := magnitude_eq x
  have hscale := scale_lt hx
  have hlt := significand_lt x
  have hfull := significand_full x
  by_cases hz : significand x = 0
  · rw [dif_pos hz, UnpackedFloat.abs, toNat_pack_zero, signBits]
    omega
  · have hfit : 2 ^ 52 ≤ significand x ∨ (scale x : Int) - 1074 = -1074 := by omega
    rw [dif_neg hz, UnpackedFloat.abs, toNat_pack_finite _ _ hlt (by omega) hfit, infinityBits_eq,
      signBits]
    omega

theorem isNegative_abs (hx : x.isFinite = true) : isNegative x.abs = false := by
  have hlt := (isFinite_iff_magnitude x).mp hx
  rw [infinityBits_eq] at hlt
  rw [← Bool.not_eq_true, isNegative_iff, toNat_toBits_abs hx]
  omega

theorem magnitude_abs (hx : x.isFinite = true) : magnitude x.abs = magnitude x := by
  have hlt := (isFinite_iff_magnitude x).mp hx
  rw [infinityBits_eq] at hlt
  rw [magnitude, toNat_toBits_abs hx]
  omega

theorem isFinite_abs (hx : x.isFinite = true) : x.abs.isFinite = true := by
  rw [isFinite_iff_magnitude, magnitude_abs hx]
  exact (isFinite_iff_magnitude x).mp hx

theorem units_abs (hx : x.isFinite = true) : units x.abs = units x :=
  units_of_magnitude (magnitude_abs hx)

theorem signedUnits_abs (hx : x.isFinite = true) : signedUnits x.abs = units x := by
  rw [signedUnits, isNegative_abs hx, units_abs hx]
  rfl

/-- A difference is the sum with the opposite. -/
theorem sub_eq_add_neg (hx : x.isFinite = true) (hy : y.isFinite = true) : x - y = x + -y := by
  have hsign : signOf (-y) = -signOf y := by
    unfold signOf
    rw [isNegative_neg hy]
    cases isNegative y <;> rfl
  have hfields : scale (-y) = scale y ∧ significand (-y) = significand y := by
    have hm := magnitude_neg hy
    have hfield : exponentField (-y) = exponentField y := by
      rw [exponentField_of_magnitude, exponentField_of_magnitude, hm]
    have hscale : scale (-y) = scale y := by rw [scale, scale, hfield]
    rw [magnitude_eq, magnitude_eq, hscale] at hm
    exact ⟨hscale, by omega⟩
  have hunpacked : unpacked (-y) = (unpacked y).neg := by
    rw [unpacked_of_finite (isFinite_neg hy), unpacked_of_finite hy]
    simp only [hsign, hfields.1, hfields.2]
    split <;> rfl
  have hneg (sign : Sign) (n : Int) : (-sign).apply n = -sign.apply n := by
    cases sign
    · exact (Int.neg_neg n).symm
    · rfl
  apply eq_of_toNat_toBits
  show (UnpackedFloat.pack Format.binary64
      (UnpackedFloat.sub Format.binary64 (unpacked x) (unpacked y))).toNat =
    (UnpackedFloat.pack Format.binary64
      (UnpackedFloat.add Format.binary64 (unpacked x) (unpacked (-y)))).toNat
  rw [hunpacked]
  congr 2
  rw [unpacked_of_finite hx, unpacked_of_finite hy]
  split <;> split
  · rfl
  · rfl
  · rfl
  · unfold UnpackedFloat.sub UnpackedFloat.add UnpackedFloat.neg
    dsimp only
    rw [hneg, Int.sub_eq_add_neg]

/-! What is not finite stays so. -/

theorem isFinite_of_pack {u : UnpackedFloat}
    (h : (UnpackedFloat.unpack Format.binary64 (UnpackedFloat.pack Format.binary64 u)).isFinite = true) :
    u.isFinite = true := by
  cases u with
  | infinity sign => cases sign <;> cases h
  | notANumber => cases h
  | zero sign => rfl
  | finite => rfl

theorem isFinite_of_mul (h : (x * y).isFinite = true) : x.isFinite = true ∧ y.isFinite = true := by
  have hmul : (UnpackedFloat.mul Format.binary64 (unpacked x) (unpacked y)).isFinite = true :=
    isFinite_of_pack h
  show (unpacked x).isFinite = true ∧ (unpacked y).isFinite = true
  cases hx : unpacked x <;> cases hy : unpacked y <;> rw [hx, hy] at hmul <;>
    first | exact ⟨rfl, rfl⟩ | cases hmul

theorem isFinite_of_add (h : (x + y).isFinite = true) : x.isFinite = true ∧ y.isFinite = true := by
  have hadd : (UnpackedFloat.add Format.binary64 (unpacked x) (unpacked y)).isFinite = true :=
    isFinite_of_pack h
  show (unpacked x).isFinite = true ∧ (unpacked y).isFinite = true
  cases hx : unpacked x <;> cases hy : unpacked y <;> rw [hx, hy] at hadd <;>
    first
    | exact ⟨rfl, rfl⟩
    | cases hadd
    | (rw [UnpackedFloat.add] at hadd; split at hadd <;> cases hadd)

theorem isFinite_of_sub (h : (x - y).isFinite = true) : x.isFinite = true ∧ y.isFinite = true := by
  have hsub : (UnpackedFloat.sub Format.binary64 (unpacked x) (unpacked y)).isFinite = true :=
    isFinite_of_pack h
  show (unpacked x).isFinite = true ∧ (unpacked y).isFinite = true
  cases hx : unpacked x <;> cases hy : unpacked y <;> rw [hx, hy] at hsub <;>
    first
    | exact ⟨rfl, rfl⟩
    | cases hsub
    | (rw [UnpackedFloat.sub] at hsub; split at hsub <;> cases hsub)

theorem isFinite_of_div (h : (x / y).isFinite = true) : x.isFinite = true := by
  have hdiv : (UnpackedFloat.div Format.binary64 (unpacked x) (unpacked y)).isFinite = true :=
    isFinite_of_pack h
  show (unpacked x).isFinite = true
  cases hx : unpacked x <;> cases hy : unpacked y <;> rw [hx, hy] at hdiv <;>
    first | rfl | cases hdiv

end Operations

end SheetFormulas.Binary64
