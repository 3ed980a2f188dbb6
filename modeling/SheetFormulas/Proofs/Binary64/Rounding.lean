import SheetFormulas.Proofs.Binary64.Decimals

/-!
How a significand with an exponent is rounded and packed. The bits behind a shifted significand tell
how the exact value lies to it, so that rounding gives the rounded quotient; packed, this is the
double nearest to the exact value. Values are quotients of whole numbers of units.
-/

namespace SheetFormulas.Binary64

open Float.Model Float.Model.UnpackedFloat

attribute [local irreducible] unitsPerOne

/-- The bits of the double nearest to `num / den` units. -/
def nearestUnits (num den : Nat) : Nat :=
  min (((num / den).log2 - 52) * 2 ^ 52 +
    roundQuotient num (den <<< ((num / den).log2 - 52))) infinityBits

theorem nearestBits_eq (num den : Nat) : nearestBits num den = nearestUnits (num * unitsPerOne) den :=
  rfl

theorem roundQuotient_mul_mul (num den : Nat) {factor : Nat} (h : 0 < factor) :
    roundQuotient (num * factor) (den * factor) = roundQuotient num den := by
  have hmod : num * factor % (den * factor) = num % den * factor := Nat.mul_mod_mul_right _ _ _
  have hlt : 2 * (num % den * factor) < den * factor ↔ 2 * (num % den) < den := by
    rw [← Nat.mul_assoc]
    exact Nat.mul_lt_mul_right h
  have hgt : den * factor < 2 * (num % den * factor) ↔ den < 2 * (num % den) := by
    rw [← Nat.mul_assoc]
    exact Nat.mul_lt_mul_right h
  simp only [roundQuotient, hmod, hlt, hgt, Nat.mul_div_mul_right _ _ h]

theorem nearestUnits_mul_mul (num den : Nat) {factor : Nat} (h : 0 < factor) :
    nearestUnits (num * factor) (den * factor) = nearestUnits num den := by
  have hshift (places : Nat) : (den * factor) <<< places = den <<< places * factor := by
    rw [Nat.shiftLeft_eq, Nat.shiftLeft_eq, Nat.mul_right_comm]
  simp only [nearestUnits, Nat.mul_div_mul_right _ _ h, hshift, roundQuotient_mul_mul _ _ h]

/-- Equal quotients have the same nearest double. -/
theorem nearestUnits_congr {num den num' den' : Nat} (hd : 0 < den) (hd' : 0 < den')
    (h : num * den' = num' * den) : nearestUnits num den = nearestUnits num' den' := by
  rw [← nearestUnits_mul_mul num den hd', h, Nat.mul_comm den, nearestUnits_mul_mul num' den' hd]

/-- Whether a significand with the bits behind it stands for `num / den`. -/
structure Holds (em : ExtendedMantissa) (num den : Nat) : Prop where
  mantissa : em.mantissa = num / den
  roundBit : em.roundBit = true ↔ den ≤ 2 * (num % den)
  stickyBit : em.stickyBit = true ↔ 2 * (num % den) ≠ 0 ∧ 2 * (num % den) ≠ den

section Holds

variable {em : ExtendedMantissa} {num den : Nat}

theorem holds_exact (m : Nat) : Holds (ExtendedMantissa.ofMantissaAndAccuracy m .exact) m 1 := by
  constructor <;> simp [ExtendedMantissa.ofMantissaAndAccuracy, Nat.mod_one]

theorem holds_fraction (num : Nat) {den : Nat} (h : 0 < den) :
    Holds (ExtendedMantissa.ofMantissaAndAccuracy (num / den)
      (accuracyOfFraction (num % den) den)) num den := by
  unfold accuracyOfFraction
  by_cases hz : num % den = 0
  · rw [if_pos hz]
    constructor <;> simp [ExtendedMantissa.ofMantissaAndAccuracy, hz, h.ne']
  · rw [if_neg hz]
    rcases Nat.lt_trichotomy (2 * (num % den)) den with hlt | heq | hgt
    · rw [Nat.compare_eq_lt.mpr hlt]
      constructor <;> simp [ExtendedMantissa.ofMantissaAndAccuracy] <;> omega
    · rw [Nat.compare_eq_eq.mpr heq]
      constructor <;> simp [ExtendedMantissa.ofMantissaAndAccuracy] <;> omega
    · rw [Nat.compare_eq_gt.mpr hgt]
      constructor <;> simp [ExtendedMantissa.ofMantissaAndAccuracy] <;> omega

theorem Holds.shiftRightOne (h : Holds em num den) (hd : 0 < den) :
    Holds em.shiftRightOne num (den * 2) := by
  have hmod : num % (den * 2) = num % den + den * (num / den % 2) := Nat.mod_mul
  have hlt := Nat.mod_lt num hd
  obtain ⟨hm, hr, hs⟩ := h
  constructor
  · rw [ExtendedMantissa.shiftRightOne, hm, Nat.div_div_eq_div_mul]
  · rw [ExtendedMantissa.shiftRightOne, hm, hmod, bne_iff_ne]
    rcases Nat.mod_two_eq_zero_or_one (num / den) with h0 | h1
    · rw [h0]
      omega
    · rw [h1]
      omega
  · rw [ExtendedMantissa.shiftRightOne, Bool.or_eq_true, hr, hs, hmod]
    rcases Nat.mod_two_eq_zero_or_one (num / den) with h0 | h1
    · rw [h0]
      omega
    · rw [h1]
      omega

theorem Holds.shiftRight (h : Holds em num den) (hd : 0 < den) (places : Nat) :
    Holds (em >>> places) num (den * 2 ^ places) := by
  show Holds (places.repeat ExtendedMantissa.shiftRightOne em) num _
  induction places with
  | zero =>
    rw [Nat.pow_zero, Nat.mul_one]
    exact h
  | succ places ih =>
    rw [Nat.repeat, Nat.pow_succ, ← Nat.mul_assoc]
    exact ih.shiftRightOne (Nat.mul_pos hd (Nat.two_pow_pos _))

theorem Holds.roundedMantissa (h : Holds em num den) (hd : 0 < den) :
    em.roundedMantissa = roundQuotient num den := by
  have hlt := Nat.mod_lt num hd
  obtain ⟨m, r, s⟩ := em
  obtain ⟨rfl, hr, hs⟩ := h
  dsimp only at hr hs
  unfold roundQuotient ExtendedMantissa.roundedMantissa ExtendedMantissa.accuracy
    Accuracy.roundToNearestEven
  dsimp only
  cases r <;> cases s <;> simp only [Bool.false_eq_true, false_iff, true_iff] at hr hs <;> dsimp only
  · rw [if_pos (by omega)]
  · rw [if_pos (by omega)]
  · rw [if_neg (by omega), if_neg (by omega)]
  · rw [if_neg (by omega), if_pos (by omega)]

end Holds

/-- The sign bit in front of a pattern. -/
def signBits : Sign → Nat
  | .negative => 2 ^ 63
  | .positive => 0

theorem toNat_packComponents (sign : Sign) (e : BitVec 11) (m : BitVec 52) :
    (packComponents Format.binary64 sign e m).toNat = signBits sign + e.toNat * 2 ^ 52 + m.toNat := by
  have hm := m.isLt
  have he := e.isLt
  show (sign.toBitVec ++ e ++ m).toNat = _
  rw [BitVec.toNat_append, ← Nat.shiftLeft_add_eq_or_of_lt hm, BitVec.toNat_append,
    ← Nat.shiftLeft_add_eq_or_of_lt he, Nat.shiftLeft_eq, Nat.shiftLeft_eq]
  cases sign with
  | negative =>
    show (1 * 2 ^ 11 + e.toNat) * 2 ^ 52 + m.toNat = 2 ^ 63 + e.toNat * 2 ^ 52 + m.toNat
    omega
  | positive =>
    show (0 * 2 ^ 11 + e.toNat) * 2 ^ 52 + m.toNat = 0 + e.toNat * 2 ^ 52 + m.toNat
    omega

/-- A significand of at most 53 bits with an exponent that fits it, packed. -/
theorem toNat_pack_finite (sign : Sign) {m : Nat} {e : Int} (hp : 0 < m) (hm : m < 2 ^ 53)
    (he : -1074 ≤ e) (hfit : 2 ^ 52 ≤ m ∨ e = -1074) :
    (UnpackedFloat.pack Format.binary64 (.finite sign m e hp)).toNat =
      signBits sign + min ((e + 1074).toNat * 2 ^ 52 + m) infinityBits := by
  have hbias : (e + (Format.binary64.exponentBias : Int) +
      (Format.binary64.mantissaBitsWithoutImplicit : Int)).toNat = (e + 1075).toNat := by
    show (e + 1023 + 52).toNat = (e + 1075).toNat
    omega
  unfold UnpackedFloat.pack
  dsimp only
  rw [hbias, infinityBits_eq]
  split_ifs with hover hnormal
  · have hover' : 2 ^ 11 ≤ (e + 1075).toNat + 1 := hover
    rw [packedInfinity, toNat_packComponents]
    show signBits sign + 2047 * 2 ^ 52 + 0 = _
    omega
  · have hover' : ¬ 2 ^ 11 ≤ (e + 1075).toNat + 1 := hover
    have hlog : m.log2 = 52 := by
      have : m.log2 + 1 = 1 + 52 := hnormal
      omega
    have hlow := ((Nat.log2_eq_iff hp.ne').mp hlog).1
    rw [toNat_packComponents, BitVec.toNat_ofNat, BitVec.toNat_ofNat]
    show signBits sign + (e + 1075).toNat % 2 ^ 11 * 2 ^ 52 + m % 2 ^ 52 = _
    omega
  · have hover' : ¬ 2 ^ 11 ≤ (e + 1075).toNat + 1 := hover
    have hlow : ¬ 2 ^ 52 ≤ m := by
      intro hlow
      apply hnormal
      show m.log2 + 1 = 1 + 52
      rw [(Nat.log2_eq_iff hp.ne').mpr ⟨hlow, hm⟩]
    rw [toNat_packComponents, BitVec.toNat_ofNat]
    show signBits sign + 0 * 2 ^ 52 + m % 2 ^ 52 = _
    omega

/-- The exponent that rounding to 53 bits leads to. -/
theorem targetExponent_eq (m : Nat) (e : Int) :
    Format.binary64.targetExponent (totalExponent m e) = max ((m.log2 : Int) + e - 52) (-1074) := by
  show max ((m.log2 : Int) + 1 + e - 53) (-1074) = _
  omega

/-- A rounded significand needs no more than one place more. -/
theorem toNat_pack_rounded (sign : Sign) {r : Nat} {e : Int} (hr : r ≤ 2 ^ 53) (he : -1074 ≤ e)
    (hfit : 2 ^ 52 ≤ r ∨ e = -1074) :
    (UnpackedFloat.pack Format.binary64
        (if h : (shiftToTargetExponent Format.binary64 r e .exact).1.mantissa = 0 then .zero sign
        else .finite sign (shiftToTargetExponent Format.binary64 r e .exact).1.mantissa
          (shiftToTargetExponent Format.binary64 r e .exact).2 (Nat.pos_of_ne_zero h))).toNat =
      signBits sign + min ((e + 1074).toNat * 2 ^ 52 + r) infinityBits := by
  have hshift := (holds_exact r).shiftRight Nat.one_pos
    ((Format.binary64.targetExponent (totalExponent r e) - e).toNat)
  have hmantissa : (shiftToTargetExponent Format.binary64 r e .exact).1.mantissa =
      r / 2 ^ (Format.binary64.targetExponent (totalExponent r e) - e).toNat := by
    rw [← Nat.one_mul (2 ^ _)]
    exact hshift.mantissa
  have hexponent : (shiftToTargetExponent Format.binary64 r e .exact).2 =
      e + (Format.binary64.targetExponent (totalExponent r e) - e).toNat := rfl
  rw [targetExponent_eq] at hmantissa hexponent
  generalize (shiftToTargetExponent Format.binary64 r e .exact).1.mantissa = m at hmantissa ⊢
  generalize (shiftToTargetExponent Format.binary64 r e .exact).2 = final at hexponent ⊢
  rcases Nat.eq_zero_or_pos r with rfl | hpos
  · rw [dif_pos (by rw [hmantissa, Nat.zero_div])]
    show (packComponents Format.binary64 sign 0#11 0#52).toNat = _
    rw [toNat_packComponents, BitVec.toNat_zero, BitVec.toNat_zero, infinityBits_eq]
    omega
  have hne : m ≠ 0 ∧ m < 2 ^ 53 ∧ (2 ^ 52 ≤ m ∨ final = -1074) ∧ -1074 ≤ final ∧
      (final + 1074).toNat * 2 ^ 52 + m = (e + 1074).toNat * 2 ^ 52 + r := by
    rcases Nat.lt_or_ge r (2 ^ 53) with hlt | hge
    · -- nothing is left to shift
      have hlog := (Nat.log2_lt hpos.ne').mpr hlt
      have hplaces : (max ((r.log2 : Int) + e - 52) (-1074) - e).toNat = 0 := by omega
      rw [hplaces, Nat.pow_zero, Nat.div_one] at hmantissa
      rw [hplaces] at hexponent
      omega
    · -- the carry into a new place is the only bit
      obtain rfl : r = 2 ^ 53 := by omega
      have hplaces : (max (((2 ^ 53 : Nat).log2 : Int) + e - 52) (-1074) - e).toNat = 1 := by
        rw [Nat.log2_two_pow]
        omega
      rw [hplaces] at hmantissa hexponent
      omega
  obtain ⟨hne, hlt, hfit, hlow, hpattern⟩ := hne
  rw [dif_neg hne, toNat_pack_finite sign _ hlt hlow hfit, hpattern]

theorem log2_div_two_pow (m places : Nat) : (m / 2 ^ places).log2 = m.log2 - places := by
  rcases Nat.lt_or_ge m (2 ^ places) with hlt | hge
  · rw [Nat.div_eq_of_lt hlt, Nat.log2_zero]
    rcases Nat.eq_zero_or_pos m with rfl | hpos
    · rw [Nat.log2_zero, Nat.zero_sub]
    · have := (Nat.log2_lt hpos.ne').mpr hlt
      omega
  · have hpos : m ≠ 0 := ((Nat.two_pow_pos places).trans_le hge).ne'
    have hlog := (Nat.le_log2 hpos).mpr hge
    obtain ⟨hlow, hhigh⟩ := (Nat.log2_eq_iff hpos).mp rfl
    rw [Nat.log2_eq_iff (Nat.div_pos hge (Nat.two_pow_pos _)).ne',
      Nat.le_div_iff_mul_le (Nat.two_pow_pos _), Nat.div_lt_iff_lt_mul (Nat.two_pow_pos _),
      ← Nat.pow_add, ← Nat.pow_add]
    rw [show m.log2 - places + places = m.log2 by omega,
      show m.log2 - places + 1 + places = m.log2 + 1 by omega]
    exact ⟨hlow, hhigh⟩

theorem log2_mul_two_pow_div (num den places : Nat) (hd : 0 < den) (h : den ≤ num) :
    (num * 2 ^ places / den).log2 = (num / den).log2 + places := by
  have hpos : num / den ≠ 0 := (Nat.div_pos h hd).ne'
  obtain ⟨hlow, hhigh⟩ := (Nat.log2_eq_iff hpos).mp rfl
  rw [Nat.le_div_iff_mul_le hd] at hlow
  rw [Nat.div_lt_iff_lt_mul hd] at hhigh
  have hscaled : 2 ^ ((num / den).log2 + places) ≤ num * 2 ^ places / den := by
    rw [Nat.le_div_iff_mul_le hd, Nat.pow_add, Nat.mul_right_comm]
    exact Nat.mul_le_mul_right _ hlow
  rw [Nat.log2_eq_iff ((Nat.two_pow_pos _).trans_le hscaled).ne']
  refine ⟨hscaled, ?_⟩
  rw [Nat.div_lt_iff_lt_mul hd, Nat.add_right_comm, Nat.pow_add, Nat.mul_right_comm]
  exact Nat.mul_lt_mul_of_pos_right hhigh (Nat.two_pow_pos _)

/-- The double nearest to `num / den · 2 ^ e`, from the whole part of `num / den`. -/
theorem nearestUnits_scaled {num den : Nat} {e t : Int} (hd : 0 < den)
    (hfit : 52 ≤ (num / den).log2 ∨ e ≤ -1074)
    (ht : t = max (((num / den).log2 : Int) + e - 52) (-1074)) :
    nearestUnits (num * 2 ^ (e + 1074).toNat) (den * 2 ^ (-(e + 1074)).toNat) =
      min ((t + 1074).toNat * 2 ^ 52 + roundQuotient num (den * 2 ^ (t - e).toNat))
        infinityBits := by
  unfold nearestUnits
  rcases Int.le_total (-1074) e with he | he
  · -- the exponent leads to a multiple of the unit
    have hdown : (-(e + 1074)).toNat = 0 := by omega
    have hlog : (num * 2 ^ (e + 1074).toNat / den).log2 - 52 = (t + 1074).toNat := by
      rcases hfit with hfit | hfit
      · have hle : den ≤ num := by
          by_contra hlt
          rw [Nat.div_eq_of_lt (by omega), Nat.log2_zero] at hfit
          omega
        rw [log2_mul_two_pow_div _ _ _ hd hle]
        omega
      · obtain rfl : e = -1074 := by omega
        rw [show (-1074 + 1074 : Int).toNat = 0 from rfl, Nat.pow_zero, Nat.mul_one]
        omega
    have hround : roundQuotient (num * 2 ^ (e + 1074).toNat) (den <<< (t + 1074).toNat) =
        roundQuotient num (den * 2 ^ (t - e).toNat) := by
      rw [Nat.shiftLeft_eq, show (t + 1074).toNat = (t - e).toNat + (e + 1074).toNat by omega,
        Nat.pow_add, ← Nat.mul_assoc, roundQuotient_mul_mul _ _ (Nat.two_pow_pos _)]
    rw [hdown, Nat.pow_zero, Nat.mul_one, hlog, hround]
  · -- the exponent leads to a fraction of the unit
    have hup : (e + 1074).toNat = 0 := by omega
    have hlog : (num / (den * 2 ^ (-(e + 1074)).toNat)).log2 - 52 = (t + 1074).toNat := by
      rw [← Nat.div_div_eq_div_mul, log2_div_two_pow]
      omega
    have hround : roundQuotient num ((den * 2 ^ (-(e + 1074)).toNat) <<< (t + 1074).toNat) =
        roundQuotient num (den * 2 ^ (t - e).toNat) := by
      rw [Nat.shiftLeft_eq, Nat.mul_assoc, ← Nat.pow_add,
        show (-(e + 1074)).toNat + (t + 1074).toNat = (t - e).toNat by omega]
    rw [hup, Nat.pow_zero, Nat.mul_one, hlog, hround]

/-- A significand that stands for `num / den`, rounded and packed, is the double nearest to the
exact value. -/
theorem toNat_pack_roundWithAccuracy (sign : Sign) {m num den : Nat} {e : Int} {accuracy : Accuracy}
    (hd : 0 < den) (h : Holds (ExtendedMantissa.ofMantissaAndAccuracy m accuracy) num den)
    (hm : m = num / den) (hfit : 52 ≤ m.log2 ∨ e ≤ -1074) :
    (UnpackedFloat.pack Format.binary64 (roundWithAccuracy Format.binary64 sign m e accuracy)).toNat =
      signBits sign +
        nearestUnits (num * 2 ^ (e + 1074).toNat) (den * 2 ^ (-(e + 1074)).toNat) := by
  subst hm
  obtain ⟨t, ht⟩ : ∃ t, t = max (((num / den).log2 : Int) + e - 52) (-1074) := ⟨_, rfl⟩
  have hfirst : shiftToTargetExponent Format.binary64 (num / den) e accuracy =
      (ExtendedMantissa.ofMantissaAndAccuracy (num / den) accuracy >>> (t - e).toNat, t) := by
    unfold shiftToTargetExponent shiftToExponent
    dsimp only
    rw [targetExponent_eq, ← ht, show e + ((t - e).toNat : Int) = t by omega]
  have hrounded := (h.shiftRight hd (t - e).toNat).roundedMantissa
    (Nat.mul_pos hd (Nat.two_pow_pos _))
  -- at the target exponent the rounded quotient has 53 bits at most
  have hquotient : num / den < 2 ^ (53 + (t - e).toNat) :=
    Nat.lt_log2_self.trans_le (Nat.pow_le_pow_right (by decide) (by omega))
  have hlt : num < 2 ^ 53 * (den * 2 ^ (t - e).toNat) := by
    rw [Nat.div_lt_iff_lt_mul hd, Nat.pow_add, Nat.mul_assoc, Nat.mul_comm _ den] at hquotient
    exact hquotient
  have hnormal : 2 ^ 52 ≤ roundQuotient num (den * 2 ^ (t - e).toNat) ∨ t = -1074 := by
    rcases le_or_gt (((num / den).log2 : Int) + e - 52) (-1074) with hmin | hmin
    · exact .inr (by omega)
    · have hlog : 52 ≤ (num / den).log2 := by omega
      refine .inl ((two_pow_le_roundQuotient hlog).trans_eq ?_)
      rw [Nat.shiftLeft_eq, show (num / den).log2 - 52 = (t - e).toNat by omega]
  have hpack := toNat_pack_rounded sign
    (roundQuotient_le _ _ _ (Nat.mul_pos hd (Nat.two_pow_pos _)) hlt) (by omega) hnormal
  rw [nearestUnits_scaled hd hfit ht, ← hpack]
  unfold roundWithAccuracy
  rw [hfirst]
  dsimp only
  rw [hrounded]

end SheetFormulas.Binary64
