import SheetFormulas.Proofs.Binary64.Rounding

/-!
Arithmetic on doubles by exact values: each operation on finite doubles gives the double nearest to
the exact result, and what is not finite stays so.
-/

namespace SheetFormulas.Binary64

open Float.Model Float.Model.UnpackedFloat

attribute [local irreducible] unitsPerOne

theorem eq_of_toNat_toBits {x y : Float} (h : x.toBits.toNat = y.toBits.toNat) : x = y := by
  obtain ⟨⟨a, ha⟩⟩ := x
  obtain ⟨⟨b, hb⟩⟩ := y
  obtain rfl : a = b := UInt64.toNat_inj.mp h
  rfl

/-- The unpacked form of a double. -/
abbrev unpacked (x : Float) : UnpackedFloat :=
  UnpackedFloat.unpack Format.binary64 x.toBits.toBitVec

/-- The sign as it is unpacked. -/
def signOf (x : Float) : Sign := if isNegative x then .negative else .positive

theorem isNegative_iff (x : Float) : isNegative x = true ↔ 2 ^ 63 ≤ x.toBits.toNat := by
  have hlt : x.toBits.toNat < 2 ^ 64 := x.toBits.toNat_lt
  unfold isNegative
  rw [beq_iff_eq, ← UInt64.toNat_inj, UInt64.toNat_shiftRight, Nat.shiftRight_eq_div_pow]
  show x.toBits.toNat / 2 ^ 63 = 1 ↔ _
  omega

theorem ofBitVec_unpackSign (x : Float) :
    Sign.ofBitVec (@unpackSign Format.binary64 x.toBits.toBitVec) = signOf x := by
  have hbit : (@unpackSign Format.binary64 x.toBits.toBitVec).toNat = x.toBits.toNat / 2 ^ 63 % 2 := by
    simp [unpackSign, Nat.shiftRight_eq_div_pow]
  have hlt : x.toBits.toNat < 2 ^ 64 := x.toBits.toNat_lt
  have hzero : @unpackSign Format.binary64 x.toBits.toBitVec = 0#1 ↔ ¬ isNegative x = true := by
    rw [isNegative_iff, ← BitVec.toNat_inj, hbit]
    show x.toBits.toNat / 2 ^ 63 % 2 = 0 ↔ _
    omega
  unfold Sign.ofBitVec signOf
  by_cases h : isNegative x = true
  · rw [if_pos h, if_neg (by rw [hzero]; exact not_not_intro h)]
  · rw [if_neg h, if_pos (hzero.mpr h)]

theorem significand_lt (x : Float) : significand x < 2 ^ 53 := by
  unfold significand
  rw [fractionField_eq, twoTo_eq]
  split <;> omega

theorem scale_lt {x : Float} (h : x.isFinite = true) : scale x < 2046 := by
  rw [isFinite_iff] at h
  unfold scale
  rw [exponentField_eq] at h ⊢
  omega

/-- A significand is full unless the exponent is the least one. -/
theorem significand_full (x : Float) : 2 ^ 52 ≤ significand x ∨ scale x = 0 := by
  unfold significand scale
  rw [twoTo_eq]
  split <;> omega

/-- The bits behind the sign. -/
def magnitude (x : Float) : Nat := x.toBits.toNat % 2 ^ 63

theorem toNat_toBits_eq (x : Float) :
    x.toBits.toNat = (if isNegative x then 2 ^ 63 else 0) + magnitude x := by
  have hlt : x.toBits.toNat < 2 ^ 64 := x.toBits.toNat_lt
  unfold magnitude
  by_cases h : isNegative x = true
  · rw [if_pos h]
    rw [isNegative_iff] at h
    omega
  · rw [if_neg h]
    rw [isNegative_iff] at h
    omega

/-- The fields of a double are its significand and its scale. -/
theorem magnitude_eq (x : Float) : magnitude x = scale x * 2 ^ 52 + significand x := by
  unfold magnitude scale significand
  rw [exponentField_eq, fractionField_eq, twoTo_eq]
  split <;> omega

theorem unpacked_of_finite {x : Float} (h : x.isFinite = true) :
    unpacked x =
      if hz : significand x = 0 then .zero (signOf x)
      else .finite (signOf x) (significand x) ((scale x : Int) - 1074) (Nat.pos_of_ne_zero hz) := by
  rw [isFinite_iff] at h
  have hfull : @unpackExponent Format.binary64 x.toBits.toBitVec ≠ -1#11 := by
    rwa [Ne, unpackExponent_eq_iff]
  have hsign := ofBitVec_unpackSign x
  have hexponent := toNat_unpackExponent_toBits x
  have hfraction := toNat_unpackMantissa_toBits x
  unfold unpacked UnpackedFloat.unpack
  dsimp only
  rw [if_neg hfull, hsign]
  by_cases he : exponentField x = 0
  · rw [if_pos ((unpackExponent_eq_zero_iff x).mpr he)]
    have hs : significand x = fractionField x := if_pos he
    by_cases hf : fractionField x = 0
    · rw [dif_pos ((unpackMantissa_eq_iff x).mpr hf), dif_pos (hs.trans hf)]
    · rw [dif_neg (mt (unpackMantissa_eq_iff x).mp hf), dif_neg (by rwa [hs])]
      have hscale : scale x = 0 := by rw [scale, he]
      simp only [hfraction, hexponent, hs, hscale, he]
      rfl
  · rw [if_neg (mt (unpackExponent_eq_zero_iff x).mp he)]
    have hs : significand x = fractionField x + 2 ^ 52 := if_neg he
    have hlt : fractionField x < 2 ^ 52 := by
      rw [fractionField_eq]
      exact Nat.mod_lt _ (by decide)
    have hm : (1#1 ++ @unpackMantissa Format.binary64 x.toBits.toBitVec).toNat = significand x := by
      rw [BitVec.toNat_append, ← Nat.shiftLeft_add_eq_or_of_lt (BitVec.isLt _), hfraction, hs,
        Nat.shiftLeft_eq, Nat.add_comm]
      rfl
    rw [dif_neg (by omega)]
    have he' : ((exponentField x : Nat) : Int) - (1023 + 52) = (scale x : Int) - 1074 := by
      unfold scale
      omega
    simp only [hm, hexponent]
    congr 1

theorem unitsPerOne_eq : unitsPerOne = 2 ^ 1074 := by
  rw [unitsPerOne, twoTo_eq]

theorem unitsPerOne_pos : 0 < unitsPerOne := by
  rw [unitsPerOne]
  exact twoTo_pos 1074

theorem units_eq_zero_iff (x : Float) : units x = 0 ↔ significand x = 0 := by
  rw [units_eq, Nat.mul_eq_zero]
  exact or_iff_left (twoTo_pos _).ne'

/-- An exponent that counts from the unit, in whole powers on both sides. -/
theorem two_pow_mul_unitsPerOne {places : Nat} {e : Int} (h : e + 2148 = places) :
    2 ^ (e + 1074).toNat * unitsPerOne = 2 ^ places * 2 ^ (-(e + 1074)).toNat := by
  rw [unitsPerOne_eq, ← Nat.pow_add, ← Nat.pow_add]
  congr 1
  omega

section Operations

variable {x y : Float}

theorem signBits_signOf (x : Float) : signBits (signOf x) = if isNegative x then 2 ^ 63 else 0 := by
  unfold signOf
  cases isNegative x <;> rfl

theorem signBits_mul (x y : Float) :
    signBits (signOf x * signOf y) = if isNegative x != isNegative y then 2 ^ 63 else 0 := by
  unfold signOf
  cases isNegative x <;> cases isNegative y <;> rfl

theorem signBits_div (x y : Float) :
    signBits (signOf x / signOf y) = if isNegative x != isNegative y then 2 ^ 63 else 0 := by
  unfold signOf
  cases isNegative x <;> cases isNegative y <;> rfl

theorem toNat_pack_zero (sign : Sign) :
    (UnpackedFloat.pack Format.binary64 (.zero sign)).toNat = signBits sign := by
  cases sign <;> rfl

/-- A finite double is the one nearest to its own value. -/
theorem nearestUnits_units (hx : x.isFinite = true) : nearestUnits (units x) 1 = magnitude x := by
  have hfull := significand_full x
  have hscale := scale_lt hx
  have hlt := significand_lt x
  have hfit : 52 ≤ (significand x / 1).log2 ∨ ((scale x : Int) - 1074) ≤ -1074 := by
    rcases hfull with hfull | hfull
    · rw [Nat.div_one]
      exact .inl ((Nat.le_log2 (by omega)).mpr hfull)
    · exact .inr (by omega)
  have ht : ((scale x : Int) - 1074) =
      max (((significand x / 1).log2 : Int) + ((scale x : Int) - 1074) - 52) (-1074) := by
    have hlog : (significand x / 1).log2 ≤ 52 := by
      rw [Nat.div_one]
      rcases Nat.eq_zero_or_pos (significand x) with hz | hpos
      · rw [hz, Nat.log2_zero]
        omega
      · have := (Nat.log2_lt hpos.ne').mpr hlt
        omega
    omega
  have h := nearestUnits_scaled Nat.one_pos hfit ht
  have hup : ((scale x : Int) - 1074 + 1074).toNat = scale x := by omega
  have hdown : (-((scale x : Int) - 1074 + 1074)).toNat = 0 := by omega
  rw [hup, hdown, sub_self, Int.toNat_zero, Nat.pow_zero, Nat.mul_one] at h
  have hexact : roundQuotient (significand x) 1 = significand x := by
    simpa using roundQuotient_mul (significand x) Nat.one_pos
  rw [units_eq, twoTo_eq, h, hexact, magnitude_eq, infinityBits_eq]
  omega

/-- A product has 53 bits unless both factors have the least exponent. -/
theorem log2_significand_mul (hx : significand x ≠ 0) (hy : significand y ≠ 0) :
    52 ≤ (significand x * significand y).log2 ∨ scale x = 0 ∧ scale y = 0 := by
  have hne := Nat.mul_ne_zero hx hy
  rcases significand_full x with hfull | hsx
  · exact .inl ((Nat.le_log2 hne).mpr
      (hfull.trans (Nat.le_mul_of_pos_right _ (Nat.pos_of_ne_zero hy))))
  · rcases significand_full y with hfull | hsy
    · exact .inl ((Nat.le_log2 hne).mpr
        (hfull.trans (Nat.le_mul_of_pos_left _ (Nat.pos_of_ne_zero hx))))
    · exact .inr ⟨hsx, hsy⟩

/-- The product of the significands, with the sum of the exponents, is the product of the values. -/
theorem significand_mul_eq (x y : Float) :
    significand x * significand y *
        2 ^ ((scale x : Int) - 1074 + ((scale y : Int) - 1074) + 1074).toNat *
        (unitsPerOne * unitsPerOne) =
      units x * units y * unitsPerOne *
        (1 * 2 ^ (-((scale x : Int) - 1074 + ((scale y : Int) - 1074) + 1074)).toNat) := by
  have hscale := two_pow_mul_unitsPerOne (show ((scale x : Int) - 1074) + ((scale y : Int) - 1074)
    + 2148 = (scale x + scale y : Nat) by omega)
  rw [Nat.pow_add] at hscale
  rw [units_eq, units_eq, twoTo_eq, twoTo_eq]
  generalize 2 ^ ((scale x : Int) - 1074 + ((scale y : Int) - 1074) + 1074).toNat = up at hscale ⊢
  calc significand x * significand y * up * (unitsPerOne * unitsPerOne)
      = significand x * significand y * unitsPerOne * (up * unitsPerOne) := by ring
    _ = _ := by
      rw [hscale]
      ring

/-- The product of finite doubles is the double nearest to the exact product. -/
theorem mul_eq (hx : x.isFinite = true) (hy : y.isFinite = true) :
    x * y = ofRatio (isNegative x != isNegative y) (units x * units y)
      (unitsPerOne * unitsPerOne) := by
  apply eq_of_toNat_toBits
  rw [toNat_toBits_ofRatio]
  show (UnpackedFloat.pack Format.binary64
    (UnpackedFloat.mul Format.binary64 (unpacked x) (unpacked y))).toNat = _
  have hU := Nat.mul_pos unitsPerOne_pos unitsPerOne_pos
  have hzero (hz : significand x = 0 ∨ significand y = 0) :
      nearestBits (units x * units y) (unitsPerOne * unitsPerOne) = 0 := by
    rw [← units_eq_zero_iff, ← units_eq_zero_iff, ← Nat.mul_eq_zero] at hz
    rw [hz, nearestBits_zero hU]
  rw [unpacked_of_finite hx, unpacked_of_finite hy, ← signBits_mul]
  split_ifs with hzx hzy hzy
  · rw [hzero (.inl hzx), Nat.zero_add, UnpackedFloat.mul, toNat_pack_zero]
  · rw [hzero (.inl hzx), Nat.zero_add, UnpackedFloat.mul, toNat_pack_zero]
  · rw [hzero (.inr hzy), Nat.zero_add, UnpackedFloat.mul, toNat_pack_zero]
  · have hfit : 52 ≤ (significand x * significand y).log2 ∨
        ((scale x : Int) - 1074) + ((scale y : Int) - 1074) ≤ -1074 := by
      have := log2_significand_mul hzx hzy
      omega
    rw [UnpackedFloat.mul, toNat_pack_roundWithAccuracy _ Nat.one_pos (holds_exact _)
      (Nat.div_one _).symm hfit, nearestBits_eq,
      nearestUnits_congr (Nat.mul_pos Nat.one_pos (Nat.two_pow_pos _)) hU (significand_mul_eq x y),
      Nat.add_comm]

/-- The exponent of a quotient, with room for one bit more than a significand has. -/
theorem targetExponent_quotient (x y : Float) :
    Format.binary64.targetExponent (totalExponent (significand x) ((scale x : Int) - 1074) -
        totalExponent (significand y) ((scale y : Int) - 1074)) =
      max (((significand x).log2 : Int) - (significand y).log2 + scale x - scale y - 53) (-1074) := by
  show max ((((significand x).log2 : Int) + 1 + ((scale x : Int) - 1074)) -
    (((significand y).log2 : Int) + 1 + ((scale y : Int) - 1074)) - 53) (-1074) = _
  omega

/-- With enough places added, a quotient has 53 bits. -/
theorem le_log2_shiftLeft_div {m n places : Nat} (hm : m ≠ 0) (hn : 0 < n)
    (h : n.log2 + 53 ≤ m.log2 + places) : 52 ≤ ((m <<< places) / n).log2 := by
  have hlogn := @Nat.lt_log2_self n
  have hquotient : 2 ^ 52 ≤ (m <<< places) / n := by
    rw [Nat.le_div_iff_mul_le hn, Nat.shiftLeft_eq]
    calc 2 ^ 52 * n ≤ 2 ^ 52 * 2 ^ (n.log2 + 1) := Nat.mul_le_mul_left _ hlogn.le
      _ = 2 ^ (n.log2 + 53) := by
        rw [← Nat.pow_add]
        congr 1
        omega
      _ ≤ 2 ^ (m.log2 + places) := Nat.pow_le_pow_right (by decide) h
      _ ≤ m * 2 ^ places := by
        rw [Nat.pow_add]
        exact Nat.mul_le_mul_right _ (Nat.log2_self_le hm)
  exact (Nat.le_log2 (by omega)).mpr hquotient

/-- The quotient of the significands, with the places that are added and the exponent that is left,
is the quotient of the values. -/
theorem significand_shiftLeft_eq (x y : Float) {places : Nat} {t : Int}
    (h : places + t = scale x - scale y) :
    (significand x <<< places) * 2 ^ (t + 1074).toNat * units y =
      units x * unitsPerOne * (significand y * 2 ^ (-(t + 1074)).toNat) := by
  have hscale : 2 ^ places * 2 ^ (t + 1074).toNat * 2 ^ scale y =
      2 ^ scale x * unitsPerOne * 2 ^ (-(t + 1074)).toNat := by
    rw [unitsPerOne_eq, ← Nat.pow_add, ← Nat.pow_add, ← Nat.pow_add, ← Nat.pow_add]
    congr 1
    omega
  rw [units_eq, units_eq, twoTo_eq, twoTo_eq, Nat.shiftLeft_eq]
  calc significand x * 2 ^ places * 2 ^ (t + 1074).toNat * (significand y * 2 ^ scale y)
      = significand x * significand y * (2 ^ places * 2 ^ (t + 1074).toNat * 2 ^ scale y) := by ring
    _ = _ := by
      rw [hscale]
      ring

/-- The quotient of finite doubles is the double nearest to the exact quotient. -/
theorem div_eq (hx : x.isFinite = true) (hy : y.isFinite = true) (hy0 : units y ≠ 0) :
    x / y = ofRatio (isNegative x != isNegative y) (units x) (units y) := by
  apply eq_of_toNat_toBits
  rw [toNat_toBits_ofRatio]
  show (UnpackedFloat.pack Format.binary64
    (UnpackedFloat.div Format.binary64 (unpacked x) (unpacked y))).toNat = _
  have hzy : significand y ≠ 0 := mt (units_eq_zero_iff y).mpr hy0
  rw [unpacked_of_finite hx, unpacked_of_finite hy, ← signBits_div, dif_neg hzy]
  split_ifs with hzx
  · rw [(units_eq_zero_iff x).mpr hzx, nearestBits_zero (Nat.pos_of_ne_zero hy0), Nat.zero_add,
      UnpackedFloat.div, toNat_pack_zero]
  · obtain ⟨t, ht⟩ : ∃ t, t = min (((scale x : Int) - 1074) - ((scale y : Int) - 1074))
        (Format.binary64.targetExponent (totalExponent (significand x) ((scale x : Int) - 1074) -
          totalExponent (significand y) ((scale y : Int) - 1074))) := ⟨_, rfl⟩
    obtain ⟨places, hplaces⟩ : ∃ places, places =
        (((scale x : Int) - 1074) - ((scale y : Int) - 1074) - t).toNat := ⟨_, rfl⟩
    have hcore : divCore Format.binary64 (significand x) ((scale x : Int) - 1074) (significand y)
        ((scale y : Int) - 1074) = ((significand x <<< places) / significand y, t,
          accuracyOfFraction ((significand x <<< places) % significand y) (significand y)) := by
      unfold divCore
      dsimp only
      rw [← ht, ← hplaces]
    rw [targetExponent_quotient] at ht
    have hpy := Nat.pos_of_ne_zero hzy
    have hfit : 52 ≤ ((significand x <<< places) / significand y).log2 ∨ t ≤ -1074 := by
      rcases le_or_gt t (-1074) with hmin | hmin
      · exact .inr hmin
      · exact .inl (le_log2_shiftLeft_div hzx hpy (by omega))
    have hvalue := significand_shiftLeft_eq x y (show places + t = scale x - scale y by omega)
    rw [UnpackedFloat.div, hcore]
    dsimp only
    rw [toNat_pack_roundWithAccuracy _ hpy (holds_fraction _ hpy) rfl hfit, nearestBits_eq,
      nearestUnits_congr (Nat.mul_pos hpy (Nat.two_pow_pos _)) (Nat.pos_of_ne_zero hy0) hvalue,
      Nat.add_comm]

/-- The whole number `m · 2 ^ places` of units, rounded and packed. -/
theorem toNat_pack_round (sign : Sign) {m : Nat} (places : Nat) (hpos : 0 < m) :
    (UnpackedFloat.pack Format.binary64
        (UnpackedFloat.round Format.binary64 sign m ((places : Int) - 1074))).toNat =
      signBits sign + nearestUnits (m * 2 ^ places) 1 := by
  obtain ⟨shift, hshift⟩ : ∃ shift, shift = ((places : Int) - 1074 -
      max ((m.log2 : Int) + ((places : Int) - 1074) - 52) (-1074)).toNat := ⟨_, rfl⟩
  have hround : UnpackedFloat.round Format.binary64 sign m ((places : Int) - 1074) =
      roundWithAccuracy Format.binary64 sign (m <<< shift) ((places : Int) - 1074 - shift) .exact := by
    unfold UnpackedFloat.round decreaseExponent
    dsimp only
    rw [targetExponent_eq, ← hshift]
  have hfit : 52 ≤ (m <<< shift).log2 ∨ (places : Int) - 1074 - shift ≤ -1074 := by
    have hlog := log2_mul_two_pow_div m 1 shift Nat.one_pos hpos
    rw [Nat.div_one, Nat.div_one, ← Nat.shiftLeft_eq] at hlog
    rw [hlog]
    omega
  have hvalue : (m <<< shift) * 2 ^ ((places : Int) - 1074 - shift + 1074).toNat * 1 =
      m * 2 ^ places * (1 * 2 ^ (-((places : Int) - 1074 - shift + 1074)).toNat) := by
    have hle : shift ≤ places := by omega
    rw [show ((places : Int) - 1074 - shift + 1074).toNat = places - shift by omega,
      show (-((places : Int) - 1074 - shift + 1074)).toNat = 0 by omega, Nat.shiftLeft_eq,
      Nat.mul_assoc m, ← Nat.pow_add, Nat.add_sub_cancel' hle, Nat.pow_zero, Nat.mul_one]
  rw [hround, toNat_pack_roundWithAccuracy _ Nat.one_pos (holds_exact _) (Nat.div_one _).symm hfit,
    nearestUnits_congr (Nat.mul_pos Nat.one_pos (Nat.two_pow_pos _)) Nat.one_pos hvalue]

theorem toNat_pack_normalize (m : Int) (places : Nat) :
    (UnpackedFloat.pack Format.binary64
        (UnpackedFloat.normalize Format.binary64 m ((places : Int) - 1074) .positive)).toNat =
      (if m < 0 then 2 ^ 63 else 0) + nearestUnits (m.natAbs * 2 ^ places) 1 := by
  unfold UnpackedFloat.normalize
  rcases Int.lt_trichotomy m 0 with hlt | rfl | hgt
  · rw [Int.compare_eq_lt.mpr hlt, if_pos hlt]
    dsimp only
    rw [toNat_pack_round .negative places (by omega), show (-m).toNat = m.natAbs by omega, signBits]
  · rw [Int.natAbs_zero, Nat.zero_mul]
    rfl
  · rw [Int.compare_eq_gt.mpr hgt, if_neg (by omega)]
    dsimp only
    rw [toNat_pack_round .positive places (by omega), show m.toNat = m.natAbs by omega, signBits]

theorem apply_significand (x : Float) (places : Nat) :
    (signOf x).apply (significand x * 2 ^ (scale x - places) : Nat) * 2 ^ min (scale x) places =
      signedUnits x := by
  have hunits : significand x * 2 ^ (scale x - places) * 2 ^ min (scale x) places = units x := by
    rw [units_eq, twoTo_eq, Nat.mul_assoc, ← Nat.pow_add]
    congr 2
    omega
  unfold signOf signedUnits
  rw [← hunits]
  cases isNegative x
  · simp [Sign.apply]
  · simp [Sign.apply]

theorem signedUnits_eq_zero_iff (x : Float) : signedUnits x = 0 ↔ significand x = 0 := by
  rw [← units_eq_zero_iff, ← natAbs_signedUnits, Int.natAbs_eq_zero]

theorem signedUnits_neg_iff (hz : significand x ≠ 0) : signedUnits x < 0 ↔ isNegative x = true := by
  have hpos := Nat.pos_of_ne_zero (mt (units_eq_zero_iff x).mp hz)
  unfold signedUnits
  split_ifs with h
  · exact iff_of_true (by omega) h
  · exact iff_of_false (by omega) h

/-- The sign of a sum: where it is zero, only two negative zeros keep it negative. -/
def sumIsNegative (x y : Float) : Bool :=
  signedUnits x + signedUnits y < 0 ||
    (signedUnits x + signedUnits y == 0 && isNegative x && isNegative y)

theorem sumIsNegative_of_ne (h : signedUnits x + signedUnits y ≠ 0) :
    sumIsNegative x y = decide (signedUnits x + signedUnits y < 0) := by
  rw [sumIsNegative, beq_eq_false_iff_ne.mpr h, Bool.false_and, Bool.false_and, Bool.or_false]

/-- A whole number of units is rounded in units. -/
theorem nearestBits_unitsPerOne (n : Nat) : nearestBits n unitsPerOne = nearestUnits n 1 := by
  have h := nearestUnits_mul_mul n 1 unitsPerOne_pos
  rwa [Nat.one_mul] at h

theorem toNat_pack_unpacked (hx : x.isFinite = true) (hz : significand x ≠ 0) :
    (UnpackedFloat.pack Format.binary64 (.finite (signOf x) (significand x)
        ((scale x : Int) - 1074) (Nat.pos_of_ne_zero hz))).toNat =
      signBits (signOf x) + nearestUnits (units x) 1 := by
  have hscale := scale_lt hx
  have hlt := significand_lt x
  have hfit : 2 ^ 52 ≤ significand x ∨ (scale x : Int) - 1074 = -1074 := by
    have := significand_full x
    omega
  rw [toNat_pack_finite _ _ hlt (by omega) hfit, nearestUnits_units hx, magnitude_eq,
    infinityBits_eq]
  omega

/-- Adding a zero to a finite double gives its pattern again. -/
theorem toNat_pack_add_zero (hx : x.isFinite = true) (hz : significand x ≠ 0) :
    (UnpackedFloat.pack Format.binary64 (.finite (signOf x) (significand x)
        ((scale x : Int) - 1074) (Nat.pos_of_ne_zero hz))).toNat =
      nearestUnits (signedUnits x).natAbs 1 + if decide (signedUnits x < 0) then 2 ^ 63 else 0 := by
  rw [toNat_pack_unpacked hx hz, natAbs_signedUnits, signBits_signOf, Nat.add_comm]
  simp only [signedUnits_neg_iff hz, decide_eq_true_eq]

/-- The sum counted in the smaller of the two units. -/
def sumInSmaller (x y : Float) : Int :=
  (signOf x).apply (significand x * 2 ^ (scale x - scale y) : Nat) +
    (signOf y).apply (significand y * 2 ^ (scale y - scale x) : Nat)

theorem sumInSmaller_mul (x y : Float) :
    sumInSmaller x y * 2 ^ min (scale x) (scale y) = signedUnits x + signedUnits y := by
  rw [sumInSmaller, Int.add_mul, apply_significand, Nat.min_comm, apply_significand]

/-- Nonzero doubles are added as whole numbers of the smaller unit. -/
theorem add_finite (hx : 0 < significand x) (hy : 0 < significand y) :
    UnpackedFloat.add Format.binary64
        (.finite (signOf x) (significand x) ((scale x : Int) - 1074) hx)
        (.finite (signOf y) (significand y) ((scale y : Int) - 1074) hy) =
      UnpackedFloat.normalize Format.binary64 (sumInSmaller x y)
        ((min (scale x) (scale y) : Nat) - 1074) .positive := by
  have hsmaller : min ((scale x : Int) - 1074) ((scale y : Int) - 1074) =
      (min (scale x) (scale y) : Nat) - 1074 := by omega
  unfold UnpackedFloat.add decreaseExponent
  dsimp only
  rw [hsmaller, show ((scale x : Int) - 1074 - ((min (scale x) (scale y) : Nat) - 1074)).toNat =
      scale x - scale y by omega,
    show ((scale y : Int) - 1074 - ((min (scale x) (scale y) : Nat) - 1074)).toNat =
      scale y - scale x by omega, Nat.shiftLeft_eq, Nat.shiftLeft_eq, sumInSmaller]

/-- A sum of nonzero doubles has the sign of the exact sum, and none where it is zero. -/
theorem sumIsNegative_of_mul {m : Int} {places : Nat} (hzx : significand x ≠ 0)
    (hzy : significand y ≠ 0) (hsum : m * 2 ^ places = signedUnits x + signedUnits y) :
    sumIsNegative x y = decide (m < 0) := by
  have hpos : (0 : Int) < 2 ^ places := Int.pow_pos (by decide)
  by_cases hm0 : m = 0
  · -- of two nonzero doubles that cancel, one is positive
    have hx0 := signedUnits_neg_iff hzx
    have hy0 := signedUnits_neg_iff hzy
    rw [hm0, Int.zero_mul] at hsum
    rw [hm0, sumIsNegative, ← hsum]
    by_cases hnx : isNegative x = true
    · have hny : ¬ isNegative y = true := by
        rw [← hx0] at hnx
        rw [← hy0]
        omega
      simp [hny]
    · simp [hnx]
  · have hne : signedUnits x + signedUnits y ≠ 0 := by
      rw [← hsum]
      exact Int.mul_ne_zero hm0 hpos.ne'
    rw [sumIsNegative_of_ne hne, ← hsum, decide_eq_decide]
    exact ⟨fun h => neg_of_mul_neg_left h hpos.le, fun h => Int.mul_neg_of_neg_of_pos h hpos⟩

/-- The sum of finite doubles is the double nearest to the exact sum. -/
theorem add_eq (hx : x.isFinite = true) (hy : y.isFinite = true) :
    x + y = ofRatio (sumIsNegative x y) (signedUnits x + signedUnits y).natAbs unitsPerOne := by
  apply eq_of_toNat_toBits
  rw [toNat_toBits_ofRatio, nearestBits_unitsPerOne]
  show (UnpackedFloat.pack Format.binary64
    (UnpackedFloat.add Format.binary64 (unpacked x) (unpacked y))).toNat = _
  rw [unpacked_of_finite hx, unpacked_of_finite hy]
  by_cases hzx : significand x = 0 <;> by_cases hzy : significand y = 0
  · rw [dif_pos hzx, dif_pos hzy, sumIsNegative, (signedUnits_eq_zero_iff x).mpr hzx,
      (signedUnits_eq_zero_iff y).mpr hzy]
    unfold signOf
    cases isNegative x <;> cases isNegative y <;> rfl
  · have hy0 := mt (signedUnits_eq_zero_iff y).mp hzy
    have hsum : signedUnits x + signedUnits y = signedUnits y := by
      rw [(signedUnits_eq_zero_iff x).mpr hzx, Int.zero_add]
    rw [dif_pos hzx, dif_neg hzy, sumIsNegative_of_ne (by rwa [hsum]), hsum]
    exact toNat_pack_add_zero hy hzy
  · have hx0 := mt (signedUnits_eq_zero_iff x).mp hzx
    have hsum : signedUnits x + signedUnits y = signedUnits x := by
      rw [(signedUnits_eq_zero_iff y).mpr hzy, Int.add_zero]
    rw [dif_neg hzx, dif_pos hzy, sumIsNegative_of_ne (by rwa [hsum]), hsum]
    exact toNat_pack_add_zero hx hzx
  · rw [dif_neg hzx, dif_neg hzy]
    have hsum := sumInSmaller_mul x y
    have hmagnitude : (sumInSmaller x y).natAbs * 2 ^ min (scale x) (scale y) =
        (signedUnits x + signedUnits y).natAbs := by
      rw [← hsum, Int.natAbs_mul, Int.natAbs_pow]
      rfl
    rw [add_finite, toNat_pack_normalize, sumIsNegative_of_mul hzx hzy hsum, hmagnitude,
      Nat.add_comm]
    simp only [decide_eq_true_eq]

end Operations

end SheetFormulas.Binary64
