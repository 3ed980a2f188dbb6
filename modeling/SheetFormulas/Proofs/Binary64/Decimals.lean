import SheetFormulas.Proofs.Binary64.Nearest

/-!
Doubles at both ends of the range: quotients from `2¹⁰²⁴` on become infinite and those below half a
unit become zero. So the power of ten of a decimal can be cut off where it is, and the double of a
decimal is the one nearest to its exact value.
-/

namespace SheetFormulas.Binary64

attribute [local irreducible] unitsPerOne

theorem div_le_roundQuotient (num den : Nat) : num / den ≤ roundQuotient num den := by
  unfold roundQuotient
  dsimp only
  split
  · exact le_rfl
  · split <;> omega

theorem two_pow_le_roundQuotient {num den : Nat} (hlog : 52 ≤ (num / den).log2) :
    2 ^ 52 ≤ roundQuotient num (den <<< ((num / den).log2 - 52)) := by
  have hne : num / den ≠ 0 := by
    intro hz
    rw [hz, Nat.log2_zero] at hlog
    omega
  have hself : 2 ^ ((num / den).log2 - 52) * 2 ^ 52 ≤ num / den := by
    rw [← Nat.pow_add, Nat.sub_add_cancel hlog]
    exact Nat.log2_self_le hne
  refine le_trans ?_ (div_le_roundQuotient _ _)
  rw [Nat.shiftLeft_eq, ← Nat.div_div_eq_div_mul]
  exact (Nat.le_div_iff_mul_le (Nat.two_pow_pos _)).mpr (by rwa [Nat.mul_comm])

/-- Quotients from `2¹⁰²⁴` on are rounded to infinity. -/
theorem nearestBits_eq_infinityBits {num den : Nat} (hd : 0 < den) (h : 2 ^ 1024 * den ≤ num) :
    nearestBits num den = infinityBits := by
  have hq : 2 ^ 2098 ≤ num * unitsPerOne / den := by
    rw [Nat.le_div_iff_mul_le hd]
    calc 2 ^ 2098 * den = 2 ^ 1024 * den * unitsPerOne := by
          rw [unitsPerOne, twoTo_eq, Nat.mul_right_comm, ← Nat.pow_add]
      _ ≤ num * unitsPerOne := Nat.mul_le_mul_right _ h
  have hlog : 2098 ≤ (num * unitsPerOne / den).log2 :=
    (Nat.le_log2 ((Nat.two_pow_pos 2098).trans_le hq).ne').mpr hq
  have hr := two_pow_le_roundQuotient (show 52 ≤ (num * unitsPerOne / den).log2 by omega)
  unfold nearestBits
  dsimp only
  rw [infinityBits_eq, twoTo_eq]
  omega

/-- Quotients below half a unit are rounded to zero. -/
theorem nearestBits_eq_zero {num den : Nat} (h : 2 ^ 1075 * num < den) : nearestBits num den = 0 := by
  have hunits : 2 * (num * unitsPerOne) = 2 ^ 1075 * num := by
    rw [unitsPerOne, twoTo_eq, Nat.pow_add 2 1 1074, Nat.pow_one, Nat.mul_assoc, Nat.mul_comm num]
  have hlt : num * unitsPerOne < den := by omega
  have hr : roundQuotient (num * unitsPerOne) den = 0 := by
    unfold roundQuotient
    dsimp only
    rw [Nat.mod_eq_of_lt hlt, if_pos (by omega), Nat.div_eq_of_lt hlt]
  unfold nearestBits
  dsimp only
  rw [Nat.div_eq_of_lt hlt, Nat.log2_zero, Nat.zero_sub, Nat.shiftLeft_zero, hr, Nat.zero_mul,
    Nat.add_zero, Nat.zero_min]

theorem nearestBits_zero {den : Nat} (hd : 0 < den) : nearestBits 0 den = 0 :=
  nearestBits_eq_zero (by rwa [Nat.mul_zero])

theorem ofRatio_congr {negative : Bool} {num den num' den' : Nat}
    (h : nearestBits num den = nearestBits num' den') :
    ofRatio negative num den = ofRatio negative num' den' := by
  rw [ofRatio, ofRatio, h]

theorem isInf_ofInt {n : Int} (h : 2 ^ 1024 ≤ n.natAbs) : (ofInt n).isInf = true := by
  have hbits := nearestBits_eq_infinityBits Nat.one_pos (show 2 ^ 1024 * 1 ≤ n.natAbs by omega)
  rw [isInf_iff, ofInt, exponentField_ofRatio, fractionField_ofRatio, hbits, infinityBits_eq]
  exact ⟨rfl, rfl⟩

theorem two_pow_le_nearestBits {num : Nat} (h : num ≠ 0) : 2 ^ 52 ≤ nearestBits num 1 := by
  have hq : 2 ^ 1074 ≤ num * unitsPerOne / 1 := by
    rw [Nat.div_one, unitsPerOne, twoTo_eq]
    exact Nat.le_mul_of_pos_left _ (Nat.pos_of_ne_zero h)
  have hlog := (Nat.le_log2 ((Nat.two_pow_pos 1074).trans_le hq).ne').mpr hq
  have hr := two_pow_le_roundQuotient (show 52 ≤ (num * unitsPerOne / 1).log2 by omega)
  unfold nearestBits
  dsimp only
  rw [infinityBits_eq]
  omega

theorem ofInt_beq_zero {n : Int} (h : n ≠ 0) : (ofInt n == 0) = false := by
  rw [← Bool.not_eq_true]
  intro hz
  have hbits := two_pow_le_nearestBits (Int.natAbs_ne_zero.mpr h)
  have hfield := exponentField_of_beq_zero hz
  rw [ofInt, exponentField_ofRatio] at hfield
  omega

theorem tenTo_eq (exponent : Nat) : tenTo exponent = 10 ^ exponent := rfl

theorem tenTo_le_tenTo {m n : Nat} (h : m ≤ n) : tenTo m ≤ tenTo n :=
  Nat.pow_le_pow_right (by decide) h

/-- A power of two has about three decimal digits for each ten binary ones. -/
theorem two_pow_le_tenTo (k : Nat) : 2 ^ k ≤ tenTo (k * 30103 / 100000 + 1) := by
  -- the powers to the 100000th make the rounded exponent exact
  have hbase : twoTo 100000 ≤ tenTo 30103 := by decide +kernel
  have hexp : k * 30103 ≤ (k * 30103 / 100000 + 1) * 100000 := by omega
  refine (Nat.pow_le_pow_iff_left (n := 100000) (by decide)).mp ?_
  calc (2 ^ k) ^ 100000 = twoTo 100000 ^ k := by
        rw [twoTo_eq, ← Nat.pow_mul, ← Nat.pow_mul, Nat.mul_comm]
    _ ≤ tenTo 30103 ^ k := Nat.pow_le_pow_left hbase k
    _ = tenTo (k * 30103) := by rw [tenTo_eq, tenTo_eq, ← Nat.pow_mul, Nat.mul_comm]
    _ ≤ tenTo ((k * 30103 / 100000 + 1) * 100000) := tenTo_le_tenTo hexp
    _ = tenTo (k * 30103 / 100000 + 1) ^ 100000 := by rw [tenTo_eq, tenTo_eq, Nat.pow_mul]

theorem two_pow_le_tenTo_400 {k : Nat} (h : k ≤ 1200) : 2 ^ k ≤ tenTo 400 := by
  calc 2 ^ k ≤ 2 ^ 1200 := Nat.pow_le_pow_right (by decide) h
    _ = (2 ^ 3) ^ 400 := by rw [← Nat.pow_mul]
    _ ≤ 10 ^ 400 := Nat.pow_le_pow_left (by decide) 400
    _ = tenTo 400 := (tenTo_eq 400).symm

theorem nearestBits_mul_tenTo_min {digits : Nat} (exponent : Nat) (hd : digits ≠ 0) :
    nearestBits (digits * tenTo (min exponent 400)) 1 = nearestBits (digits * tenTo exponent) 1 := by
  rcases Nat.le_total exponent 400 with h | h
  · rw [Nat.min_eq_left h]
  · have hlarge : ∀ n, 400 ≤ n → 2 ^ 1024 * 1 ≤ digits * tenTo n := by
      intro n hn
      calc 2 ^ 1024 * 1 = 2 ^ 1024 := Nat.mul_one _
        _ ≤ tenTo 400 := two_pow_le_tenTo_400 (by decide)
        _ ≤ tenTo n := tenTo_le_tenTo hn
        _ ≤ digits * tenTo n := Nat.le_mul_of_pos_left _ (Nat.pos_of_ne_zero hd)
    rw [Nat.min_eq_right h, nearestBits_eq_infinityBits Nat.one_pos (hlarge 400 le_rfl),
      nearestBits_eq_infinityBits Nat.one_pos (hlarge exponent h)]

theorem nearestBits_tenTo_eq_zero {digits places : Nat}
    (h : digits.log2 * 30103 / 100000 + 400 < places) : nearestBits digits (tenTo places) = 0 := by
  apply nearestBits_eq_zero
  have hdigits : digits < 2 ^ (digits.log2 + 1) := Nat.lt_log2_self
  calc 2 ^ 1075 * digits < 2 ^ 1075 * 2 ^ (digits.log2 + 1) :=
        Nat.mul_lt_mul_of_pos_left hdigits (Nat.two_pow_pos _)
    _ = 2 ^ 1076 * 2 ^ digits.log2 := by
        rw [← Nat.pow_add, ← Nat.pow_add, Nat.add_comm digits.log2, ← Nat.add_assoc]
    _ ≤ tenTo 400 * tenTo (digits.log2 * 30103 / 100000 + 1) :=
        Nat.mul_le_mul (two_pow_le_tenTo_400 (by decide)) (two_pow_le_tenTo _)
    _ = tenTo (400 + (digits.log2 * 30103 / 100000 + 1)) := by
        rw [tenTo_eq, tenTo_eq, tenTo_eq, ← Nat.pow_add]
    _ ≤ tenTo places := tenTo_le_tenTo (by omega)

/-- The double of a decimal is the one nearest to its exact value. -/
theorem ofDecimal_eq_ofRatio (digits : Nat) (exponent : Int) :
    ofDecimal digits exponent =
      ofRatio false (digits * tenTo exponent.toNat) (tenTo (-exponent).toNat) := by
  unfold ofDecimal
  dsimp only
  split_ifs with hz hpos hsmall
  · subst hz
    apply ofRatio_congr
    rw [Nat.zero_mul, nearestBits_zero Nat.one_pos, nearestBits_zero (tenTo_pos _)]
  · rw [show (-exponent).toNat = 0 by omega]
    apply ofRatio_congr
    exact nearestBits_mul_tenTo_min exponent.toNat hz
  · rw [show exponent.toNat = 0 by omega, tenTo_eq 0, Nat.pow_zero, Nat.mul_one]
    apply ofRatio_congr
    rw [nearestBits_zero Nat.one_pos, nearestBits_tenTo_eq_zero (by omega)]
  · rw [show exponent.toNat = 0 by omega, tenTo_eq 0, Nat.pow_zero, Nat.mul_one]

end SheetFormulas.Binary64
