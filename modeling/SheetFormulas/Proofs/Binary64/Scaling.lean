import SheetFormulas.Proofs.Binary64.Power

/-!
Doubles multiplied by a power of two. Rounding is the same in every binade, so sums, and products and
quotients with a common factor, are multiplied by the same power, as long as none of them comes down
to the least doubles or leaves the range when it is multiplied; quotients of two such doubles are the
same.
-/

namespace SheetFormulas.Binary64

open Float.Model Float.Model.UnpackedFloat

attribute [local irreducible] unitsPerOne

variable {j : Nat} {x y z w c : Float}

/-- Whether a finite double is `2 ^ j` times another, down to the sign of zero. -/
structure Scaled (j : Nat) (x y : Float) : Prop where
  finite_left : x.isFinite = true
  finite_right : y.isFinite = true
  isNegative_eq : isNegative y = isNegative x
  units_eq : units y = units x * 2 ^ j

/-- Whether a double stays in the range when it is multiplied by `2 ^ j`. -/
structure Fits (j : Nat) (x : Float) : Prop where
  finite : x.isFinite = true
  lt : units x * 2 ^ j < 2 ^ 1024 * unitsPerOne

/-- Whether the product of an amount stays in the range, and above the least doubles unless it is a
product of zero. -/
structure KeepsProduct (j : Nat) (amount factor : Float) : Prop where
  fits : Fits j (amount * factor)
  normal : units amount = 0 ∨ units factor = 0 ∨ 2 ^ 52 < units (amount * factor)

/-- Whether the quotient of an amount stays in the range, and above the least doubles unless it is a
quotient of zero or by an infinity. -/
structure KeepsQuotient (j : Nat) (amount divisor : Float) : Prop where
  fits : Fits j (amount / divisor)
  normal : units amount = 0 ∨ divisor.isFinite = false ∨ 2 ^ 52 < units (amount / divisor)

instance (j : Nat) (x y : Float) : Decidable (Scaled j x y) :=
  decidable_of_iff (x.isFinite = true ∧ y.isFinite = true ∧ isNegative y = isNegative x ∧
      units y = units x * 2 ^ j)
    ⟨fun ⟨hx, hy, hs, hu⟩ => ⟨hx, hy, hs, hu⟩,
      fun h => ⟨h.finite_left, h.finite_right, h.isNegative_eq, h.units_eq⟩⟩

instance (j : Nat) (x : Float) : Decidable (Fits j x) :=
  decidable_of_iff (x.isFinite = true ∧ units x * 2 ^ j < 2 ^ 1024 * unitsPerOne)
    ⟨fun h => ⟨h.1, h.2⟩, fun h => ⟨h.finite, h.lt⟩⟩

instance (j : Nat) (amount factor : Float) : Decidable (KeepsProduct j amount factor) :=
  decidable_of_iff (Fits j (amount * factor) ∧
      (units amount = 0 ∨ units factor = 0 ∨ 2 ^ 52 < units (amount * factor)))
    ⟨fun h => ⟨h.1, h.2⟩, fun h => ⟨h.fits, h.normal⟩⟩

instance (j : Nat) (amount divisor : Float) : Decidable (KeepsQuotient j amount divisor) :=
  decidable_of_iff (Fits j (amount / divisor) ∧
      (units amount = 0 ∨ divisor.isFinite = false ∨ 2 ^ 52 < units (amount / divisor)))
    ⟨fun h => ⟨h.1, h.2⟩, fun h => ⟨h.fits, h.normal⟩⟩

theorem range_eq : 2 ^ 1024 * unitsPerOne = 2 ^ 53 * 2 ^ 2045 := by
  rw [unitsPerOne_eq, ← pow_add, ← pow_add]

/-- The units of a double by a binade and a significand, which may be the first of the next binade. -/
theorem units_of_magnitude_eq {binade significand : Nat}
    (h : magnitude x = binade * 2 ^ 52 + significand) (hle : significand ≤ 2 ^ 53)
    (hfull : binade = 0 ∨ 2 ^ 52 ≤ significand) : units x = significand * 2 ^ binade := by
  have hlt := significand_lt x
  have hnormal := significand_full x
  rw [magnitude_eq] at h
  rw [Binary64.units_eq, twoTo_eq]
  rcases hle.lt_or_eq with hless | heq
  · have hscale : scale x = binade ∧ Binary64.significand x = significand := by omega
    rw [hscale.1, hscale.2]
  · have hscale : scale x = binade + 1 ∧ Binary64.significand x = 2 ^ 52 := by omega
    rw [hscale.1, hscale.2, heq, pow_succ]
    ring

theorem units_lt (hx : x.isFinite = true) : units x < 2 ^ 1024 * unitsPerOne := by
  rw [range_eq]
  have hlt : 2 ^ 53 - 1 < 2 ^ 53 := by omega
  exact (units_le hx).trans_lt (Nat.mul_lt_mul_of_pos_right hlt (Nat.two_pow_pos 2045))

theorem beq_zero_iff_units (hx : x.isFinite = true) : (x == 0) = true ↔ units x = 0 := by
  rw [beq_zero_iff, signedUnits_eq_zero_iff, units_eq_zero_iff]
  exact and_iff_right hx

theorem mul_comm_of_finite (hx : x.isFinite = true) (hz : z.isFinite = true) : x * z = z * x := by
  rw [mul_eq hx hz, mul_eq hz hx, Nat.mul_comm, bne_comm]

/-- A value in the range has a pattern below that of infinity. -/
theorem pattern_lt_infinityBits {q e : Nat} (hlower : 2 ^ 52 ≤ q) (hupper : q ≤ 2 ^ 53)
    (hrange : q * 2 ^ e < 2 ^ 53 * 2 ^ 2045) : e * 2 ^ 52 + q < infinityBits := by
  rw [infinityBits_eq]
  by_contra hge
  have hexponent : 2045 ≤ e ∧ (q < 2 ^ 53 → 2046 ≤ e) := by omega
  refine absurd hrange (not_lt.mpr ?_)
  rcases hupper.lt_or_eq with hlt | heq
  · calc 2 ^ 53 * 2 ^ 2045 = 2 ^ 52 * 2 ^ 2046 := by rw [← pow_add, ← pow_add]
      _ ≤ q * 2 ^ e := Nat.mul_le_mul hlower (Nat.pow_le_pow_right (by decide) (hexponent.2 hlt))
  · rw [heq]
    exact Nat.mul_le_mul_left _ (Nat.pow_le_pow_right (by decide) hexponent.1)

/-- A quotient from the normal range on, rounded, and its multiple. -/
theorem units_of_nearestUnits {num den : Nat} (hd : 0 < den) (h : 2 ^ 52 * den ≤ num)
    (hx : magnitude x = nearestUnits num den) (hy : magnitude y = nearestUnits (num * 2 ^ j) den)
    (hf : Fits j x) : y.isFinite = true ∧ units y = units x * 2 ^ j := by
  have hle : den ≤ num := le_trans (Nat.le_mul_of_pos_left _ (Nat.two_pow_pos 52)) h
  have hlog : 52 ≤ (num / den).log2 := by
    have hquotient : 2 ^ 52 ≤ num / den := (Nat.le_div_iff_mul_le hd).mpr h
    exact (Nat.le_log2 ((Nat.two_pow_pos 52).trans_le hquotient).ne').mpr hquotient
  obtain ⟨binade, hbinade⟩ : ∃ binade, binade = (num / den).log2 - 52 := ⟨_, rfl⟩
  obtain ⟨q, hq⟩ : ∃ q, q = roundQuotient num (den <<< binade) := ⟨_, rfl⟩
  have hround : roundQuotient (num * 2 ^ j) (den <<< (binade + j)) = q := by
    rw [hq, Nat.shiftLeft_eq, pow_add, ← Nat.mul_assoc, roundQuotient_mul_mul _ _ (Nat.two_pow_pos j),
      Nat.shiftLeft_eq]
  have hlower : 2 ^ 52 ≤ q := by
    rw [hq, hbinade]
    exact two_pow_le_roundQuotient hlog
  have hupper : q ≤ 2 ^ 53 := by
    rw [hq, hbinade]
    refine roundQuotient_le _ _ _ ?_ (lt_shiftLeft_binade num den hd)
    rw [Nat.shiftLeft_eq]
    exact Nat.mul_pos hd (Nat.two_pow_pos _)
  rw [nearestUnits, ← hbinade, ← hq] at hx
  rw [nearestUnits, log2_mul_two_pow_div num den j hd hle,
    show (num / den).log2 + j - 52 = binade + j by omega, hround] at hy
  have hfinite := (isFinite_iff_magnitude x).mp hf.finite
  have hx' : magnitude x = binade * 2 ^ 52 + q := by omega
  have hunits := units_of_magnitude_eq hx' hupper (.inr hlower)
  have hrange : q * 2 ^ (binade + j) < 2 ^ 53 * 2 ^ 2045 := by
    rw [← range_eq, pow_add, ← Nat.mul_assoc, ← hunits]
    exact hf.lt
  have hpattern := pattern_lt_infinityBits hlower hupper hrange
  have hy' : magnitude y = (binade + j) * 2 ^ 52 + q := by omega
  refine ⟨(isFinite_iff_magnitude y).mpr (by omega), ?_⟩
  rw [units_of_magnitude_eq hy' hupper (.inr hlower), hunits, pow_add, Nat.mul_assoc]

/-- A whole number of units in the range that fits in a significand is kept. -/
theorem units_of_nearestUnits_exact {m e : Nat} (hm : m < 2 ^ 53) (he : e ≤ 2045)
    (hx : magnitude x = nearestUnits (m * 2 ^ e) 1) :
    x.isFinite = true ∧ units x = m * 2 ^ e := by
  obtain ⟨hf, hunits⟩ := units_ofRatio_exact false unitsPerOne_pos hm he
    (show m * 2 ^ e * unitsPerOne = m * 2 ^ e * unitsPerOne from rfl)
  have hmagnitude : magnitude x = magnitude (ofRatio false (m * 2 ^ e) unitsPerOne) := by
    rw [hx, magnitude_ofRatio, nearestBits_unitsPerOne]
  exact ⟨(isFinite_iff_magnitude x).mpr (hmagnitude ▸ (isFinite_iff_magnitude _).mp hf),
    (units_of_magnitude hmagnitude).trans hunits⟩

/-- A whole number of units, rounded, and its multiple. -/
theorem units_of_whole {s : Nat} (hx : magnitude x = nearestUnits s 1)
    (hy : magnitude y = nearestUnits (s * 2 ^ j) 1) (hf : Fits j x) :
    y.isFinite = true ∧ units y = units x * 2 ^ j := by
  rcases Nat.lt_or_ge s (2 ^ 52) with hsmall | hlarge
  · have hs : s < 2 ^ 53 := hsmall.trans (by decide)
    obtain ⟨-, hunits⟩ := units_of_nearestUnits_exact (e := 0) hs (Nat.zero_le _)
      (by rw [hx, pow_zero, Nat.mul_one])
    rw [pow_zero, Nat.mul_one] at hunits
    have hrange := hf.lt
    rw [hunits, range_eq] at hrange
    -- what the significand does not take of the power is in the exponent
    have hsplit : s * 2 ^ j = s * 2 ^ (j - 2045) * 2 ^ min j 2045 := by
      rw [Nat.mul_assoc, ← pow_add]
      congr 2
      omega
    have hm : s * 2 ^ (j - 2045) < 2 ^ 53 := by
      rcases Nat.le_total j 2045 with hle | hge
      · rwa [Nat.sub_eq_zero_of_le hle, pow_zero, Nat.mul_one]
      · rw [hsplit, Nat.min_eq_right hge] at hrange
        exact Nat.lt_of_mul_lt_mul_right hrange
    obtain ⟨hfinite, heq⟩ := units_of_nearestUnits_exact hm (Nat.min_le_right j 2045)
      (by rw [hy, hsplit])
    exact ⟨hfinite, by rw [heq, hunits, hsplit]⟩
  · exact units_of_nearestUnits Nat.one_pos (by rwa [Nat.mul_one]) hx hy hf

/-- A rounded quotient above the least doubles comes from a quotient that is not below them. -/
theorem le_of_lt_units {num den : Nat} (hd : 0 < den) (hf : x.isFinite = true)
    (hx : magnitude x = nearestUnits num den) (h : 2 ^ 52 < units x) : 2 ^ 52 * den ≤ num := by
  obtain ⟨z, hz, hunits⟩ := exists_two_pow (e := 52) (by decide)
  by_contra hlt
  have hle : magnitude x ≤ magnitude z := by
    rw [hx, ← nearestUnits_units hz, hunits]
    exact nearestUnits_le_nearestUnits hd Nat.one_pos (by omega)
  rw [magnitude_le_iff hf hz, hunits] at hle
  omega

/-- Only a finite divisor other than zero gives a finite quotient other than zero. -/
theorem finite_divisor (h : (x / c).isFinite = true) (hn : units (x / c) ≠ 0) :
    c.isFinite = true ∧ units c ≠ 0 := by
  have hdiv : (UnpackedFloat.div Format.binary64 (unpacked x) (unpacked c)).isFinite = true :=
    isFinite_of_pack h
  have hzero (sign : Sign)
      (hq : UnpackedFloat.div Format.binary64 (unpacked x) (unpacked c) = .zero sign) : False := by
    have hbits : (x / c).toBits.toNat = signBits sign := by
      rw [← toNat_pack_zero, ← hq]
      rfl
    have hmagnitude : magnitude (x / c) = magnitude 0 := by
      rw [magnitude, hbits]
      cases sign <;> rfl
    exact hn ((units_of_magnitude hmagnitude).trans units_zero)
  cases hc : unpacked c with
  | notANumber => cases hx : unpacked x <;> rw [hx, hc] at hdiv <;> cases hdiv
  | zero => cases hx : unpacked x <;> rw [hx, hc] at hdiv <;> cases hdiv
  | infinity =>
    cases hx : unpacked x <;> rw [hx, hc] at hdiv hzero <;>
      first | exact (hzero _ rfl).elim | cases hdiv
  | finite =>
    have hf : c.isFinite = true := by
      show (unpacked c).isFinite = true
      rw [hc]
      rfl
    refine ⟨hf, fun hz => ?_⟩
    rw [unpacked_of_finite hf, dif_pos ((units_eq_zero_iff c).mp hz)] at hc
    cases hc

/-- A finite quotient of zero is zero. -/
theorem units_div_of_zero (hx : x.isFinite = true) (hz : units x = 0)
    (h : (x / c).isFinite = true) : units (x / c) = 0 := by
  by_contra hn
  obtain ⟨hc, hc0⟩ := finite_divisor h hn
  rw [div_eq hx hc hc0, hz] at hn
  exact hn (units_ofRatio_zero _ (Nat.pos_of_ne_zero hc0))

/-- By what is not finite, all finite numbers of one sign have the same quotient. -/
theorem div_finite_of_not_finite {sign : Sign} {m n : Nat} {e f : Int} (hm : 0 < m) (hn : 0 < n)
    {divisor : UnpackedFloat} (h : divisor.isFinite = false) :
    UnpackedFloat.div Format.binary64 (.finite sign m e hm) divisor =
      UnpackedFloat.div Format.binary64 (.finite sign n f hn) divisor := by
  cases divisor with
  | notANumber => rfl
  | infinity => rfl
  | zero => cases h
  | finite => cases h

theorem decide_mul_lt_zero (n : Int) : decide (n * 2 ^ j < 0) = decide (n < 0) := by
  have hpos : (0 : Int) < 2 ^ j := by positivity
  exact decide_eq_decide.mpr ⟨fun h => neg_of_mul_neg_left h hpos.le,
    fun h => Int.mul_neg_of_neg_of_pos h hpos⟩

theorem natAbs_mul_two_pow (n : Int) : (n * 2 ^ j).natAbs = n.natAbs * 2 ^ j := by
  rw [Int.natAbs_mul, Int.natAbs_pow]
  rfl

namespace Scaled

theorem signedUnits_eq (h : Scaled j x y) : signedUnits y = signedUnits x * 2 ^ j := by
  unfold signedUnits
  rw [h.isNegative_eq, h.units_eq]
  split_ifs
  · push_cast
    ring
  · push_cast
    rfl

/-- Multiples of zero are the same zero. -/
theorem eq_of_zero (h : Scaled j x y) (hz : units x = 0) : y = x := by
  refine eq_of_magnitude h.isNegative_eq ?_
  rw [← nearestUnits_units h.finite_left, ← nearestUnits_units h.finite_right, h.units_eq, hz,
    Nat.zero_mul]

theorem of_zero (hx : x.isFinite = true) (hz : units x = 0) : Scaled j x x :=
  ⟨hx, hx, rfl, by rw [hz, Nat.zero_mul]⟩

theorem neg (h : Scaled j x y) : Scaled j (-x) (-y) where
  finite_left := isFinite_neg h.finite_left
  finite_right := isFinite_neg h.finite_right
  isNegative_eq := by rw [isNegative_neg h.finite_left, isNegative_neg h.finite_right, h.isNegative_eq]
  units_eq := by rw [units_neg h.finite_left, units_neg h.finite_right, h.units_eq]

/-- A rounded quotient and that of a multiple. -/
theorem ofRatio {num den : Nat} (negative : Bool) (hd : 0 < den)
    (hf : Fits j (ofRatio negative num den)) (hn : 2 ^ 52 < units (Binary64.ofRatio negative num den)) :
    Scaled j (Binary64.ofRatio negative num den) (Binary64.ofRatio negative (num * 2 ^ j) den) := by
  have hx : magnitude (Binary64.ofRatio negative num den) = nearestUnits (num * unitsPerOne) den := by
    rw [magnitude_ofRatio, nearestBits_eq]
  have hy : magnitude (Binary64.ofRatio negative (num * 2 ^ j) den) =
      nearestUnits (num * unitsPerOne * 2 ^ j) den := by
    rw [magnitude_ofRatio, nearestBits_eq, Nat.mul_right_comm]
  obtain ⟨hfinite, hunits⟩ := units_of_nearestUnits hd (le_of_lt_units hd hf.finite hx hn) hx hy hf
  exact ⟨hf.finite, hfinite, by rw [isNegative_ofRatio, isNegative_ofRatio], hunits⟩

/-- Products of zero are zero. -/
theorem mul_of_zero (h : Scaled j x y) (hf : (x * c).isFinite = true)
    (hz : units x * units c = 0) : Scaled j (x * c) (y * c) := by
  obtain ⟨-, hc⟩ := isFinite_of_mul hf
  have hz' : units y * units c = 0 := by rw [h.units_eq, Nat.mul_right_comm, hz, Nat.zero_mul]
  have hsame : y * c = x * c := by
    rw [mul_eq h.finite_left hc, mul_eq h.finite_right hc, h.isNegative_eq, hz, hz']
  rw [hsame]
  refine of_zero hf ?_
  rw [mul_eq h.finite_left hc, hz]
  exact units_ofRatio_zero _ (Nat.mul_pos unitsPerOne_pos unitsPerOne_pos)

theorem mul (h : Scaled j x y) (hk : KeepsProduct j x c) : Scaled j (x * c) (y * c) := by
  obtain ⟨-, hc⟩ := isFinite_of_mul hk.fits.finite
  rcases hk.normal with hz | hz | hn
  · exact h.mul_of_zero hk.fits.finite (by rw [hz, Nat.zero_mul])
  · exact h.mul_of_zero hk.fits.finite (by rw [hz, Nat.mul_zero])
  · have hfits := hk.fits
    rw [mul_eq h.finite_left hc] at hn hfits
    rw [mul_eq h.finite_left hc, mul_eq h.finite_right hc, h.isNegative_eq, h.units_eq,
      Nat.mul_right_comm]
    exact ofRatio _ (Nat.mul_pos unitsPerOne_pos unitsPerOne_pos) hfits hn

theorem mul_left (h : Scaled j x y) (hk : KeepsProduct j x c) : Scaled j (c * x) (c * y) := by
  obtain ⟨-, hc⟩ := isFinite_of_mul hk.fits.finite
  rw [mul_comm_of_finite hc h.finite_left, mul_comm_of_finite hc h.finite_right]
  exact h.mul hk

/-- By what is no finite double, multiples have the same quotient. -/
theorem div_eq_of_not_finite (h : Scaled j x y) (hc : c.isFinite = false) : y / c = x / c := by
  by_cases hz : units x = 0
  · rw [h.eq_of_zero hz]
  · have hx : significand x ≠ 0 := mt (units_eq_zero_iff x).mpr hz
    have hy : significand y ≠ 0 := by
      refine mt (units_eq_zero_iff y).mpr ?_
      rw [h.units_eq]
      exact Nat.mul_ne_zero hz (Nat.two_pow_pos j).ne'
    have hunpacked : UnpackedFloat.div Format.binary64 (unpacked y) (unpacked c) =
        UnpackedFloat.div Format.binary64 (unpacked x) (unpacked c) := by
      rw [unpacked_of_finite h.finite_left, unpacked_of_finite h.finite_right, dif_neg hx,
        dif_neg hy, signOf, h.isNegative_eq, ← signOf]
      exact div_finite_of_not_finite _ _ hc
    exact eq_of_toNat_toBits (congrArg (fun u => (UnpackedFloat.pack Format.binary64 u).toNat) hunpacked)

theorem div (h : Scaled j x y) (hk : KeepsQuotient j x c) : Scaled j (x / c) (y / c) := by
  rcases hk.normal with hz | hc | hn
  · rw [h.eq_of_zero hz]
    exact of_zero hk.fits.finite (units_div_of_zero h.finite_left hz hk.fits.finite)
  · rw [h.div_eq_of_not_finite hc]
    refine of_zero hk.fits.finite ?_
    by_contra hn
    rw [(finite_divisor hk.fits.finite hn).1] at hc
    cases hc
  · have hfits := hk.fits
    obtain ⟨hc, hc0⟩ := finite_divisor hfits.finite (Nat.zero_lt_of_lt hn).ne'
    rw [div_eq h.finite_left hc hc0] at hn hfits
    rw [div_eq h.finite_left hc hc0, div_eq h.finite_right hc hc0, h.isNegative_eq, h.units_eq]
    exact ofRatio _ (Nat.pos_of_ne_zero hc0) hfits hn

/-- Sums of multiples round in the same place. -/
theorem add (hx : Scaled j x y) (hz : Scaled j z w) (hf : Fits j (x + z)) :
    Scaled j (x + z) (y + w) := by
  have hsum : signedUnits y + signedUnits w = (signedUnits x + signedUnits z) * 2 ^ j := by
    rw [hx.signedUnits_eq, hz.signedUnits_eq, Int.add_mul]
  have hsign : sumIsNegative y w = sumIsNegative x z := by
    have hpos : (0 : Int) < 2 ^ j := by positivity
    have hneg : signedUnits y + signedUnits w < 0 ↔ signedUnits x + signedUnits z < 0 := by
      rw [hsum]
      exact ⟨fun h => neg_of_mul_neg_left h hpos.le, fun h => Int.mul_neg_of_neg_of_pos h hpos⟩
    have hzero : signedUnits y + signedUnits w = 0 ↔ signedUnits x + signedUnits z = 0 := by
      rw [hsum]
      simp
    rw [sumIsNegative, sumIsNegative, hx.isNegative_eq, hz.isNegative_eq]
    simp only [hneg, beq_eq_decide, hzero]
  have hmagnitude {s t : Float} (hs : s.isFinite = true) (ht : t.isFinite = true) :
      magnitude (s + t) = nearestUnits (signedUnits s + signedUnits t).natAbs 1 := by
    rw [add_eq hs ht, magnitude_ofRatio, nearestBits_unitsPerOne]
  have hy := hmagnitude hx.finite_right hz.finite_right
  rw [hsum, Int.natAbs_mul, Int.natAbs_pow] at hy
  obtain ⟨hfinite, hunits⟩ := units_of_whole (hmagnitude hx.finite_left hz.finite_left) hy hf
  refine ⟨hf.finite, hfinite, ?_, hunits⟩
  rw [add_eq hx.finite_left hz.finite_left, add_eq hx.finite_right hz.finite_right,
    isNegative_ofRatio, isNegative_ofRatio, hsign]

theorem sub (hx : Scaled j x y) (hz : Scaled j z w) (hf : Fits j (x - z)) :
    Scaled j (x - z) (y - w) := by
  rw [sub_eq_add_neg hx.finite_left hz.finite_left] at hf ⊢
  rw [sub_eq_add_neg hx.finite_right hz.finite_right]
  exact hx.add hz.neg hf

/-- The quotient of two doubles that are multiplied is the same. -/
theorem div_eq_div (hx : Scaled j x y) (hz : Scaled j z w) (hne : units z ≠ 0) : y / w = x / z := by
  have hw : units w ≠ 0 := by
    rw [hz.units_eq]
    positivity
  rw [div_eq hx.finite_left hz.finite_left hne, div_eq hx.finite_right hz.finite_right hw,
    hx.isNegative_eq, hz.isNegative_eq]
  apply ofRatio_congr
  rw [nearestBits_eq, nearestBits_eq, hx.units_eq, hz.units_eq, Nat.mul_right_comm,
    nearestUnits_mul_mul _ _ (Nat.two_pow_pos j)]

theorem lt_zero_iff (h : Scaled j x y) : y < 0 ↔ x < 0 := by
  have hpos : (0 : Int) < 2 ^ j := by positivity
  rw [lt_iff h.finite_right isFinite_zero, lt_iff h.finite_left isFinite_zero, signedUnits_zero,
    h.signedUnits_eq]
  exact ⟨fun hneg => neg_of_mul_neg_left hneg hpos.le, fun hneg => Int.mul_neg_of_neg_of_pos hneg hpos⟩

theorem zero_lt_iff (h : Scaled j x y) : 0 < y ↔ 0 < x := by
  have hpos : (0 : Int) < 2 ^ j := by positivity
  rw [lt_iff isFinite_zero h.finite_right, lt_iff isFinite_zero h.finite_left, signedUnits_zero,
    h.signedUnits_eq]
  exact ⟨fun hx => pos_of_mul_pos_left hx hpos.le, fun hx => Int.mul_pos hx hpos⟩

/-- A whole number and its multiple, as doubles. -/
theorem ofInt {n : Int} (hf : Fits j (ofInt n)) :
    Scaled j (Binary64.ofInt n) (Binary64.ofInt (n * 2 ^ j)) := by
  rcases eq_or_ne n 0 with rfl | hne
  · rw [Int.zero_mul]
    exact of_zero hf.finite (units_ofRatio_zero _ Nat.one_pos)
  · have hlarge : unitsPerOne ≤ units (Binary64.ofInt n) := by
      rw [← units_one]
      refine le_ofRatio Nat.one_pos isFinite_one hf.finite ?_
      rw [Nat.mul_one, units_one]
      exact Nat.le_mul_of_pos_left _ (by omega)
    have hnormal : 2 ^ 52 < unitsPerOne := by
      rw [unitsPerOne_eq]
      exact Nat.pow_lt_pow_right (by decide) (by decide)
    rw [Binary64.ofInt, Binary64.ofInt, decide_mul_lt_zero, natAbs_mul_two_pow]
    exact ofRatio _ Nat.one_pos hf (hnormal.trans_le hlarge)

end Scaled

/-- Whether a double is `2 ^ j` times another, which is the other itself where it is not finite. -/
inductive Multiple (j : Nat) : Float → Float → Prop where
  | finite {x y : Float} : Scaled j x y → Multiple j x y
  | other {x : Float} : x.isFinite = false → Multiple j x x

namespace Multiple

theorem isFinite_eq (h : Multiple j x y) : x.isFinite = y.isFinite := by
  cases h with
  | finite h => rw [h.finite_left, h.finite_right]
  | other h => rfl

theorem scaled (h : Multiple j x y) (hx : x.isFinite = true) : Scaled j x y := by
  cases h with
  | finite h => exact h
  | other h =>
    rw [hx] at h
    cases h

theorem lt_zero_iff (h : Multiple j x y) : y < 0 ↔ x < 0 := by
  cases h with
  | finite h => exact h.lt_zero_iff
  | other h => exact Iff.rfl

theorem zero_lt_iff (h : Multiple j x y) : 0 < y ↔ 0 < x := by
  cases h with
  | finite h => exact h.zero_lt_iff
  | other h => exact Iff.rfl

end Multiple

end SheetFormulas.Binary64
