import SheetFormulas.Proofs.Binary64.Pattern

/-!
The double nearest to a quotient is always a number, and it is finite for every quotient below
`2¹⁰²³`.
-/

namespace SheetFormulas.Binary64

theorem twoTo_eq (exponent : Nat) : twoTo exponent = 2 ^ exponent := rfl

theorem infinityBits_eq : infinityBits = 2047 * 2 ^ 52 := rfl

theorem nearestBits_le_infinityBits (num den : Nat) : nearestBits num den ≤ infinityBits :=
  Nat.min_le_right _ _

/-- The pattern of a nearest double is the one that was rounded to, with the sign in front. -/
theorem toNat_toBits_ofRatio (negative : Bool) (num den : Nat) :
    (ofRatio negative num den).toBits.toNat =
      nearestBits num den + (if negative then 2 ^ 63 else 0) := by
  have hle := nearestBits_le_infinityBits num den
  rw [infinityBits_eq] at hle
  have hsign : (if negative then nearestBits num den + twoTo 63 else nearestBits num den) =
      nearestBits num den + (if negative then 2 ^ 63 else 0) := by
    cases negative <;> simp [twoTo_eq]
  unfold ofRatio
  dsimp only
  rw [hsign]
  generalize nearestBits num den = bits at hle ⊢
  have hlt : bits + (if negative then 2 ^ 63 else 0) < 2 ^ 64 := by split <;> omega
  rw [toBits_ofBits, UInt64.toNat_ofNat_of_lt' hlt]
  rw [UInt64.toNat_ofNat_of_lt' hlt]
  split <;> omega

theorem exponentField_ofRatio (negative : Bool) (num den : Nat) :
    exponentField (ofRatio negative num den) = nearestBits num den / 2 ^ 52 := by
  have hle := nearestBits_le_infinityBits num den
  rw [infinityBits_eq] at hle
  rw [exponentField_eq, toNat_toBits_ofRatio]
  split <;> omega

theorem fractionField_ofRatio (negative : Bool) (num den : Nat) :
    fractionField (ofRatio negative num den) = nearestBits num den % 2 ^ 52 := by
  rw [fractionField_eq, toNat_toBits_ofRatio]
  split <;> omega

theorem isNaN_ofRatio (negative : Bool) (num den : Nat) :
    (ofRatio negative num den).isNaN = false := by
  have hle := nearestBits_le_infinityBits num den
  rw [infinityBits_eq] at hle
  rw [← Bool.not_eq_true, isNaN_iff, exponentField_ofRatio, fractionField_ofRatio]
  omega

theorem isFinite_ofRatio_iff (negative : Bool) (num den : Nat) :
    (ofRatio negative num den).isFinite = true ↔ nearestBits num den < infinityBits := by
  have hle := nearestBits_le_infinityBits num den
  rw [infinityBits_eq] at hle ⊢
  rw [isFinite_iff, exponentField_ofRatio]
  omega

/-- A rounded significand takes at most one binade more. -/
theorem roundQuotient_le (num den bound : Nat) (h : 0 < den) (hlt : num < bound * den) :
    roundQuotient num den ≤ bound := by
  have hr := two_mul_roundQuotient_mul_le num h
  by_contra hc
  have hm : (bound + 1) * den ≤ roundQuotient num den * den := Nat.mul_le_mul_right _ (by omega)
  rw [Nat.add_mul] at hm
  omega

theorem log2_mul_twoTo_div_lt (num den places exponent : Nat) (hd : 0 < den)
    (h : num < 2 ^ exponent * den) (hp : 0 < exponent + places) :
    (num * twoTo places / den).log2 < exponent + places := by
  by_cases hz : num * twoTo places / den = 0
  · rw [hz]
    exact hp
  · apply (Nat.log2_lt hz).mpr
    rw [Nat.div_lt_iff_lt_mul hd, Nat.pow_add, Nat.mul_right_comm, twoTo_eq]
    exact Nat.mul_lt_mul_of_pos_right h (Nat.two_pow_pos places)

/-- The scaled quotient fits in 53 bits of the binade that its logarithm chooses. -/
theorem lt_shiftLeft_binade (num den : Nat) (hd : 0 < den) :
    num < 2 ^ 53 * (den <<< ((num / den).log2 - 52)) := by
  have hlog : num / den < 2 ^ ((num / den).log2 + 1) := Nat.lt_log2_self
  rw [Nat.div_lt_iff_lt_mul hd] at hlog
  have hpow : 2 ^ ((num / den).log2 + 1) ≤ 2 ^ (53 + ((num / den).log2 - 52)) :=
    Nat.pow_le_pow_right (by decide) (by omega)
  calc num < 2 ^ ((num / den).log2 + 1) * den := hlog
    _ ≤ 2 ^ (53 + ((num / den).log2 - 52)) * den := Nat.mul_le_mul_right _ hpow
    _ = 2 ^ 53 * (den <<< ((num / den).log2 - 52)) := by
        rw [Nat.pow_add, Nat.shiftLeft_eq, Nat.mul_assoc, Nat.mul_comm den]

/-- A quotient below `2¹⁰²³` stays below the pattern of infinity when it is rounded. -/
theorem nearestBits_lt (num den : Nat) (hd : 0 < den) (h : num < 2 ^ 1023 * den) :
    nearestBits num den < infinityBits := by
  have hlog : (num * unitsPerOne / den).log2 < 1023 + 1074 :=
    log2_mul_twoTo_div_lt num den 1074 1023 hd h (by decide)
  have hr : roundQuotient (num * unitsPerOne)
      (den <<< ((num * unitsPerOne / den).log2 - 52)) ≤ 2 ^ 53 := by
    apply roundQuotient_le
    · rw [Nat.shiftLeft_eq]
      exact Nat.mul_pos hd (Nat.two_pow_pos _)
    · exact lt_shiftLeft_binade _ _ hd
  unfold nearestBits
  dsimp only
  rw [infinityBits_eq, twoTo_eq]
  omega

theorem isFinite_ofInt (n : Int) (h : n.natAbs < 2 ^ 1023) : (ofInt n).isFinite = true := by
  unfold ofInt
  rw [isFinite_ofRatio_iff]
  exact nearestBits_lt _ _ Nat.one_pos (by rwa [Nat.mul_one])

end SheetFormulas.Binary64
