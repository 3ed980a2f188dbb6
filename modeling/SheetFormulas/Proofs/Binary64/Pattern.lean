import Mathlib
import SheetFormulas.Binary64.Nearest

/-!
Bit patterns of doubles. A pattern falls into a sign, an exponent field of eleven bits and a fraction
field of 52 bits; these fields decide whether the double is a number and whether it is finite, and
`Float.ofBits` keeps every pattern that stands for a number.
-/

namespace SheetFormulas.Binary64

open Float.Model Float.Model.UnpackedFloat

theorem toNat_unpackExponent (b : BitVec 64) :
    (@unpackExponent Format.binary64 b).toNat = b.toNat / 2 ^ 52 % 2 ^ 11 := by
  simp [unpackExponent, Nat.shiftRight_eq_div_pow]

theorem toNat_unpackMantissa (b : BitVec 64) :
    (@unpackMantissa Format.binary64 b).toNat = b.toNat % 2 ^ 52 := by
  simp [unpackMantissa]

theorem exponentField_eq (x : Float) : exponentField x = x.toBits.toNat / 2 ^ 52 % 2 ^ 11 := by
  simp only [exponentField, UInt64.toNat_and, UInt64.toNat_shiftRight, Nat.shiftRight_eq_div_pow]
  exact Nat.and_two_pow_sub_one_eq_mod _ 11

theorem fractionField_eq (x : Float) : fractionField x = x.toBits.toNat % 2 ^ 52 := by
  simp only [fractionField, UInt64.toNat_and]
  exact Nat.and_two_pow_sub_one_eq_mod _ 52

theorem toNat_unpackExponent_toBits (x : Float) :
    (@unpackExponent Format.binary64 x.toBits.toBitVec).toNat = exponentField x := by
  rw [toNat_unpackExponent, exponentField_eq]
  rfl

theorem toNat_unpackMantissa_toBits (x : Float) :
    (@unpackMantissa Format.binary64 x.toBits.toBitVec).toNat = fractionField x := by
  rw [toNat_unpackMantissa, fractionField_eq]
  rfl

theorem unpackExponent_eq_iff (x : Float) :
    @unpackExponent Format.binary64 x.toBits.toBitVec = -1#11 ↔
      exponentField x = 2047 := by
  rw [← BitVec.toNat_inj, toNat_unpackExponent_toBits]
  rfl

theorem unpackExponent_eq_zero_iff (x : Float) :
    @unpackExponent Format.binary64 x.toBits.toBitVec = 0#11 ↔ exponentField x = 0 := by
  rw [← BitVec.toNat_inj, toNat_unpackExponent_toBits]
  rfl

theorem unpackMantissa_eq_iff (x : Float) :
    @unpackMantissa Format.binary64 x.toBits.toBitVec = 0#52 ↔ fractionField x = 0 := by
  rw [← BitVec.toNat_inj, toNat_unpackMantissa_toBits]
  rfl

/-- A double is no number if its exponent field is full and its fraction field is not empty. -/
theorem isNaN_iff (x : Float) :
    x.isNaN = true ↔ exponentField x = 2047 ∧ fractionField x ≠ 0 := by
  rw [← unpackExponent_eq_iff, Ne, ← unpackMantissa_eq_iff]
  show (UnpackedFloat.unpack Format.binary64 x.toBits.toBitVec).isNaN = true ↔ _
  unfold UnpackedFloat.unpack
  dsimp only
  split_ifs <;> simp_all [UnpackedFloat.isNaN]

/-- A double is infinite if its exponent field is full and its fraction field is empty. -/
theorem isInf_iff (x : Float) :
    x.isInf = true ↔ exponentField x = 2047 ∧ fractionField x = 0 := by
  rw [← unpackExponent_eq_iff, ← unpackMantissa_eq_iff]
  show (UnpackedFloat.unpack Format.binary64 x.toBits.toBitVec).isInf = true ↔ _
  unfold UnpackedFloat.unpack
  dsimp only
  split_ifs <;> simp_all [UnpackedFloat.isInf]

/-- A double is finite if its exponent field is not full. -/
theorem isFinite_iff (x : Float) : x.isFinite = true ↔ exponentField x ≠ 2047 := by
  rw [Ne, ← unpackExponent_eq_iff]
  show (UnpackedFloat.unpack Format.binary64 x.toBits.toBitVec).isFinite = true ↔ _
  unfold UnpackedFloat.unpack
  dsimp only
  split_ifs <;> simp_all [UnpackedFloat.isFinite]

theorem isFinite_of_not {x : Float} (hn : x.isNaN = false) (hi : x.isInf = false) :
    x.isFinite = true := by
  rw [← Bool.not_eq_true, isNaN_iff] at hn
  rw [← Bool.not_eq_true, isInf_iff] at hi
  rw [isFinite_iff]
  tauto

/-- A double that equals zero has an empty exponent field. -/
theorem exponentField_of_beq_zero {x : Float} (h : (x == 0) = true) : exponentField x = 0 := by
  have hbits : (0 : Float).toBits = 0 := rfl
  have hzero : UnpackedFloat.unpack Format.binary64 (0 : Float).toBits.toBitVec = .zero .positive := by
    rw [hbits]
    rfl
  have hc : (UnpackedFloat.unpack Format.binary64 x.toBits.toBitVec).compare (.zero .positive) =
      some .eq := by
    rw [← hzero]
    exact beq_iff_eq.mp h
  rw [← unpackExponent_eq_zero_iff]
  unfold UnpackedFloat.unpack at hc
  dsimp only at hc
  generalize Sign.ofBitVec _ = sign at hc
  split_ifs at hc with hfull hf he hf
  · cases sign <;> cases hc
  · cases hc
  · exact he
  · exact he
  · cases sign <;> cases hc

/-- A pattern that stands for a number is kept. -/
theorem toBits_ofBits (b : UInt64)
    (h : b.toNat / 2 ^ 52 % 2 ^ 11 = 2047 → b.toNat % 2 ^ 52 = 0) :
    (Float.ofBits b).toBits = b := by
  apply UInt64.toBitVec_inj.mp
  show UnpackedFloat.pack Format.binary64
    (UnpackedFloat.unpack Format.binary64 b.toBitVec) = b.toBitVec
  have hnan : ¬ @isNaNBits Format.binary64 b.toBitVec = true := by
    unfold isNaNBits
    rw [decide_eq_true_eq]
    rintro ⟨he, hf⟩
    apply hf
    apply BitVec.eq_of_toNat_eq
    rw [toNat_unpackMantissa]
    apply h
    have hn := congrArg BitVec.toNat he
    rw [toNat_unpackExponent] at hn
    exact hn
  rw [pack_unpack _ (by decide), if_neg hnan]

end SheetFormulas.Binary64
