import Mathlib.Tactic
import SheetFormulas.Decimal.Significant
import SheetFormulas.Proofs.Binary64.Decimals

/-!
Quotients rounded to a count of significant digits. The first digit stands at the power of ten that
the quotient reaches, and the digits are the nearest ones, a tie going to the even digit. Below a
power of ten the digits are finer than above it, so a quotient that is rounded up to it is nearer.
-/

namespace SheetFormulas

/-- Two whole numbers that are as near to a quotient as any are neighbours, and it lies halfway. -/
theorem halfway_of_lt {num den a b : Nat} (h : 0 < den) (hlt : a < b)
    (hb : 2 * (b * den) ≤ 2 * num + den) (ha : 2 * num ≤ 2 * (a * den) + den) :
    b = a + 1 ∧ 2 * (b * den) = 2 * num + den ∧ 2 * num = 2 * (a * den) + den := by
  have hstep := Nat.mul_le_mul_right den (Nat.succ_le_of_lt hlt)
  rw [Nat.succ_mul] at hstep
  refine ⟨Nat.le_antisymm (Nat.le_of_mul_le_mul_right ?_ h) hlt, by omega, by omega⟩
  rw [Nat.add_mul]
  omega

/-- Rounding to a whole number, by the distance on both sides. -/
theorem roundQuotient_eq_iff {num den r : Nat} (h : 0 < den) :
    roundQuotient num den = r ↔
      2 * (r * den) ≤ 2 * num + den ∧ 2 * num ≤ 2 * (r * den) + den ∧
        (2 * (r * den) = 2 * num + den ∨ 2 * num = 2 * (r * den) + den → r % 2 = 0) := by
  have htie : ∀ n, n = roundQuotient num den →
      2 * (n * den) = 2 * num + den ∨ 2 * num = 2 * (n * den) + den → n % 2 = 0 := by
    intro n hn
    have hdiv := Nat.div_add_mod' num den
    have hmod := Nat.mod_lt num h
    unfold roundQuotient at hn
    dsimp only at hn
    split_ifs at hn with hlow hhigh
    · subst hn
      omega
    · subst hn
      rw [Nat.add_mul]
      omega
    · omega
  have habove := two_mul_roundQuotient_mul_le num h
  have hbelow := two_mul_le_two_mul_roundQuotient_mul num h
  constructor
  · rintro rfl
    exact ⟨habove, hbelow, htie _ rfl⟩
  · rintro ⟨hle, hge, hr⟩
    have heven := htie _ rfl
    generalize roundQuotient num den = n at habove hbelow heven ⊢
    rcases Nat.lt_trichotomy n r with hlt | heq | hgt
    · obtain ⟨hnext, habove', hbelow'⟩ := halfway_of_lt h hlt hle hbelow
      have hodd := hr (.inl habove')
      have heven' := heven (.inr hbelow')
      omega
    · exact heq
    · obtain ⟨hnext, habove', hbelow'⟩ := halfway_of_lt h hgt habove hge
      have hodd := heven (.inl habove')
      have heven' := hr (.inr hbelow')
      omega

theorem roundQuotient_eq_iff_abs {num den r : Nat} (h : 0 < den) :
    roundQuotient num den = r ↔
      |(num / den : ℚ) - r| ≤ 1 / 2 ∧ (|(num / den : ℚ) - r| = 1 / 2 → r % 2 = 0) := by
  have hden : (0 : ℚ) < den := Nat.cast_pos.mpr h
  have hquotient : (num / den : ℚ) - r = (num - r * den) / den := by field_simp
  have habove : 2 * (r * den) ≤ 2 * num + den ↔ -(1 / 2) ≤ (num / den : ℚ) - r := by
    rw [hquotient, le_div_iff₀ hden, ← @Nat.cast_le ℚ]
    push_cast
    constructor <;> intro hle <;> linarith
  have hbelow : 2 * num ≤ 2 * (r * den) + den ↔ (num / den : ℚ) - r ≤ 1 / 2 := by
    rw [hquotient, div_le_iff₀ hden, ← @Nat.cast_le ℚ]
    push_cast
    constructor <;> intro hle <;> linarith
  have htie : 2 * (r * den) = 2 * num + den ∨ 2 * num = 2 * (r * den) + den ↔
      |(num / den : ℚ) - r| = 1 / 2 := by
    rw [hquotient, abs_eq (by norm_num), div_eq_iff hden.ne', div_eq_iff hden.ne', or_comm,
      ← Nat.cast_inj (R := ℚ), ← Nat.cast_inj (R := ℚ)]
    push_cast
    constructor <;> rintro (he | he)
    · exact .inl (by linarith)
    · exact .inr (by linarith)
    · exact .inl (by linarith)
    · exact .inr (by linarith)
  rw [roundQuotient_eq_iff h, habove, hbelow, htie, abs_le, and_assoc]

namespace Decimal

/-! The power of ten that a quotient reaches. -/

/-- Whether the first digit of a positive number has this power of ten. -/
structure Leads (e : ℤ) (q : ℚ) : Prop where
  le : (10 : ℚ) ^ e ≤ q
  lt : q < (10 : ℚ) ^ (e + 1)

theorem Leads.unique {e e' : ℤ} {q : ℚ} (h : Leads e q) (h' : Leads e' q) : e = e' := by
  have hlt := (zpow_lt_zpow_iff_right₀ (by norm_num : (1 : ℚ) < 10)).mp (h.le.trans_lt h'.lt)
  have hlt' := (zpow_lt_zpow_iff_right₀ (by norm_num : (1 : ℚ) < 10)).mp (h'.le.trans_lt h.lt)
  omega

theorem zpow_le_iff_mul {a b : ℤ} {q : ℚ} :
    (10 : ℚ) ^ a ≤ q ↔ (10 : ℚ) ^ (a + b) ≤ q * 10 ^ b := by
  have hpos : (0 : ℚ) < 10 ^ b := by positivity
  rw [zpow_add₀ (by norm_num), mul_le_mul_iff_left₀ hpos]

theorem lt_zpow_iff_mul {a b : ℤ} {q : ℚ} :
    q < (10 : ℚ) ^ a ↔ q * 10 ^ b < (10 : ℚ) ^ (a + b) := by
  rw [← not_le, zpow_le_iff_mul, not_le]

/-- A quotient with the point moved. -/
theorem shifted_spec (num : Nat) {den : Nat} (hd : 0 < den) (shift : ℤ) :
    0 < (shifted num den shift).2 ∧
      ((shifted num den shift).1 / (shifted num den shift).2 : ℚ) = num / den * 10 ^ shift := by
  have hden : (0 : ℚ) < den := Nat.cast_pos.mpr hd
  unfold shifted
  split_ifs with hs
  · obtain ⟨n, rfl⟩ := Int.eq_ofNat_of_zero_le hs
    refine ⟨hd, ?_⟩
    rw [Int.toNat_natCast, Binary64.tenTo_eq]
    push_cast
    rw [zpow_natCast]
    ring
  · obtain ⟨n, hn⟩ := Int.eq_ofNat_of_zero_le (show 0 ≤ -shift by omega)
    refine ⟨Nat.mul_pos hd (tenTo_pos _), ?_⟩
    rw [hn, Int.toNat_natCast, Binary64.tenTo_eq, show shift = -(n : ℤ) by omega]
    push_cast
    rw [zpow_neg, zpow_natCast, ← div_eq_mul_inv, div_div]

theorem reaches_iff {num den : Nat} (hd : 0 < den) (e : ℤ) :
    reaches num den e = true ↔ (10 : ℚ) ^ e ≤ num / den := by
  obtain ⟨hpos, hvalue⟩ := shifted_spec num hd (-e)
  have hpos' : (0 : ℚ) < (shifted num den (-e)).2 := Nat.cast_pos.mpr hpos
  unfold reaches
  dsimp only
  rw [decide_eq_true_eq, zpow_le_iff_mul (b := -e), ← hvalue, add_neg_cancel, zpow_zero,
    one_le_div hpos', Nat.cast_le]

/-- The powers of ten and of two that the estimate of the exponent compares. -/
theorem ten_pow_between : (2 : ℚ) ^ 100000 ≤ 10 ^ 30103 ∧ (10 : ℚ) ^ 30103 ≤ 2 * 2 ^ 100000 := by
  have hlow : twoTo 100000 ≤ tenTo 30103 := by decide +kernel
  have hhigh : tenTo 30103 ≤ 2 * twoTo 100000 := by decide +kernel
  rw [Binary64.twoTo_eq, Binary64.tenTo_eq] at hlow hhigh
  exact ⟨by exact_mod_cast hlow, by exact_mod_cast hhigh⟩

theorem ten_zpow_between {k : ℤ} (h : |k| ≤ 100000) :
    ((2 : ℚ) ^ (k - 1)) ^ 100000 ≤ (10 ^ 30103) ^ k ∧
      ((10 : ℚ) ^ 30103) ^ k ≤ (2 ^ (k + 1)) ^ 100000 := by
  obtain ⟨hlow, hhigh⟩ := ten_pow_between
  have htwo : (0 : ℚ) < 2 ^ 100000 := by positivity
  have hpower (n : ℤ) : ((2 : ℚ) ^ n) ^ 100000 = (2 ^ 100000) ^ n := by
    rw [← zpow_natCast, ← zpow_natCast, ← zpow_mul, ← zpow_mul, mul_comm]
  have hgap {n : ℕ} (hn : n ≤ 100000) : (2 : ℚ) ^ n ≤ 2 ^ 100000 :=
    pow_le_pow_right₀ (by norm_num) hn
  rw [hpower, hpower, zpow_sub_one₀ htwo.ne', zpow_add_one₀ htwo.ne']
  generalize (10 : ℚ) ^ 30103 = ten at hlow hhigh ⊢
  generalize (2 : ℚ) ^ 100000 = two at hlow hhigh htwo hgap ⊢
  have hone : 1 ≤ two := (pow_zero (2 : ℚ)).symm.le.trans (hgap (Nat.zero_le _))
  have hten : 0 < ten := htwo.trans_le hlow
  have hbelow (n : ℕ) : two ^ n ≤ ten ^ n := pow_le_pow_left₀ htwo.le hlow n
  have hn : k.natAbs ≤ 100000 := by
    rw [Int.abs_eq_natAbs] at h
    exact_mod_cast h
  have habove : ten ^ k.natAbs ≤ two ^ k.natAbs * two := by
    calc ten ^ k.natAbs ≤ (2 * two) ^ k.natAbs := pow_le_pow_left₀ hten.le hhigh _
      _ = two ^ k.natAbs * 2 ^ k.natAbs := by rw [mul_pow, mul_comm]
      _ ≤ two ^ k.natAbs * two := mul_le_mul_of_nonneg_left (hgap hn) (pow_pos htwo _).le
  have hsign := k.natAbs_eq
  generalize k.natAbs = n at hsign habove
  have hpow : 0 < two ^ n := pow_pos htwo n
  rcases hsign with rfl | rfl
  · rw [zpow_natCast, zpow_natCast]
    exact ⟨(mul_le_of_le_one_right hpow.le (inv_le_one_of_one_le₀ hone)).trans (hbelow n), habove⟩
  · rw [zpow_neg, zpow_neg, zpow_natCast, zpow_natCast]
    constructor
    · rw [← mul_inv]
      exact inv_anti₀ (pow_pos hten n) habove
    · calc (ten ^ n)⁻¹ ≤ (two ^ n)⁻¹ := inv_anti₀ hpow (hbelow n)
        _ ≤ (two ^ n)⁻¹ * two := le_mul_of_one_le_right (inv_pos.mpr hpow).le hone

/-- The estimate of the exponent is right up to one place. -/
theorem estimate_between {bits estimate : ℤ} (hb : |bits| ≤ 100000)
    (he : estimate = bits * 30103 / 100000) :
    (10 : ℚ) ^ (estimate - 1) ≤ 2 ^ bits ∧ (2 : ℚ) ^ (bits + 2) ≤ 10 ^ (estimate + 2) := by
  obtain ⟨hlow, hhigh⟩ := ten_zpow_between hb
  have hpower (n : ℤ) : ((10 : ℚ) ^ n) ^ 100000 = 10 ^ (n * 100000) := by
    rw [← zpow_natCast, ← zpow_mul]
    norm_cast
  have hten (n : ℤ) : ((10 : ℚ) ^ 30103) ^ n = 10 ^ (30103 * n) := by
    rw [← zpow_natCast, ← zpow_mul]
    norm_cast
  rw [hten] at hlow hhigh
  constructor
  · refine (pow_le_pow_iff_left₀ (by positivity) (by positivity) (by norm_num : 100000 ≠ 0)).mp ?_
    calc ((10 : ℚ) ^ (estimate - 1)) ^ 100000 ≤ 10 ^ (30103 * bits - 100000) := by
          rw [hpower]
          exact zpow_le_zpow_right₀ (by norm_num) (by omega)
      _ = 10 ^ (30103 * bits) / 10 ^ 100000 := by
          rw [zpow_sub₀ (by norm_num)]
          norm_cast
      _ ≤ (2 ^ (bits + 1)) ^ 100000 / 2 ^ 100000 := by
          refine div_le_div₀ (by positivity) hhigh (by positivity) ?_
          exact pow_le_pow_left₀ (by norm_num) (by norm_num) _
      _ = ((2 : ℚ) ^ bits) ^ 100000 := by
          rw [← div_pow, zpow_add_one₀ (by norm_num), mul_div_cancel_right₀ _ (by norm_num)]
  · refine (pow_le_pow_iff_left₀ (by positivity) (by positivity) (by norm_num : 100000 ≠ 0)).mp ?_
    calc ((2 : ℚ) ^ (bits + 2)) ^ 100000 = (2 ^ (bits - 1)) ^ 100000 * 8 ^ 100000 := by
          rw [← mul_pow, show bits + 2 = bits - 1 + 3 by ring, zpow_add₀ (by norm_num)]
          norm_num
      _ ≤ 10 ^ (30103 * bits) * 10 ^ 100000 := by
          refine mul_le_mul hlow ?_ (by positivity) (by positivity)
          exact pow_le_pow_left₀ (by norm_num) (by norm_num) _
      _ = 10 ^ (30103 * bits + 100000) := by
          rw [zpow_add₀ (by norm_num)]
          norm_cast
      _ ≤ ((10 : ℚ) ^ (estimate + 2)) ^ 100000 := by
          rw [hpower]
          exact zpow_le_zpow_right₀ (by norm_num) (by omega)

theorem log2_between {n : Nat} (h : 0 < n) :
    (2 : ℚ) ^ (n.log2 : ℤ) ≤ n ∧ (n : ℚ) < 2 ^ ((n.log2 : ℤ) + 1) := by
  constructor
  · exact_mod_cast Nat.log2_self_le h.ne'
  · exact_mod_cast Nat.lt_log2_self

/-- The binary lengths of a quotient bound it. -/
theorem quotient_between {num den : Nat} (hn : 0 < num) (hd : 0 < den) :
    (2 : ℚ) ^ ((num.log2 : ℤ) - den.log2 - 1) ≤ num / den ∧
      (num / den : ℚ) < 2 ^ ((num.log2 : ℤ) - den.log2 - 1 + 2) := by
  have hden : (0 : ℚ) < den := Nat.cast_pos.mpr hd
  have hnum := log2_between hn
  have hden' := log2_between hd
  constructor
  · rw [le_div_iff₀ hden]
    calc (2 : ℚ) ^ ((num.log2 : ℤ) - den.log2 - 1) * den
        ≤ 2 ^ ((num.log2 : ℤ) - den.log2 - 1) * 2 ^ ((den.log2 : ℤ) + 1) :=
          mul_le_mul_of_nonneg_left hden'.2.le (by positivity)
      _ = 2 ^ (num.log2 : ℤ) := by
          rw [← zpow_add₀ (by norm_num)]
          congr 1
          ring
      _ ≤ num := hnum.1
  · rw [div_lt_iff₀ hden]
    calc (num : ℚ) < 2 ^ ((num.log2 : ℤ) + 1) := hnum.2
      _ = 2 ^ ((num.log2 : ℤ) - den.log2 - 1 + 2) * 2 ^ (den.log2 : ℤ) := by
          rw [← zpow_add₀ (by norm_num)]
          congr 1
          ring
      _ ≤ 2 ^ ((num.log2 : ℤ) - den.log2 - 1 + 2) * den :=
          mul_le_mul_of_nonneg_left hden'.1 (by positivity)

section

variable {num den : Nat} (hn : 0 < num) (hd : 0 < den)
  (hlog : |(num.log2 : ℤ) - den.log2 - 1| ≤ 100000)

include hn hd hlog

/-- The first digit of a quotient stands where the estimate and two comparisons put it. -/
theorem leads_leadingExponent : Leads (leadingExponent num den) (num / den) := by
  obtain ⟨hlow, hhigh⟩ := quotient_between hn hd
  unfold leadingExponent
  dsimp only
  obtain ⟨estimate, he⟩ : ∃ estimate : ℤ,
    estimate = ((num.log2 : ℤ) - den.log2 - 1) * 30103 / 100000 := ⟨_, rfl⟩
  obtain ⟨hbelow, habove⟩ := estimate_between hlog he
  rw [← he]
  split_ifs with hnext hreached
  · rw [reaches_iff hd] at hnext
    refine ⟨hnext, ?_⟩
    rw [add_assoc]
    exact hhigh.trans_le habove
  · rw [reaches_iff hd] at hnext hreached
    exact ⟨hreached, not_le.mp hnext⟩
  · rw [reaches_iff hd] at hreached
    refine ⟨hbelow.trans hlow, ?_⟩
    rw [sub_add_cancel]
    exact not_le.mp hreached

end

/-! Rounding to significant digits. -/

/-- The exact value of significant digits. -/
def Scientific.value (count : ℕ) (s : Scientific) : ℚ :=
  s.digits * 10 ^ (s.exponent + 1 - count)

/-- A number with the point behind the last of the significant digits. -/
def scaled (count : ℕ) (e : ℤ) (q : ℚ) : ℚ := q * 10 ^ ((count : ℤ) - 1 - e)

/-- Whether digits are those of a number rounded to a count of them: the nearest ones, a tie going
to the even digit. Where they are rounded up to a power of ten, the finer digits below it count. -/
structure IsRounding (count : ℕ) (q : ℚ) (s : Scientific) : Prop where
  le : 10 ^ (count - 1) ≤ s.digits
  lt : s.digits < 10 ^ count
  near : |scaled count s.exponent q - s.digits| ≤ 1 / 2
  tie : |scaled count s.exponent q - s.digits| = 1 / 2 → s.digits % 2 = 0
  carried : s.digits = 10 ^ (count - 1) → s.digits - scaled count s.exponent q ≤ 1 / 20

section

variable {count : ℕ} {q : ℚ} {s : Scientific}

theorem leads_iff_scaled (hc : 0 < count) {e : ℤ} :
    Leads e q ↔ (10 : ℚ) ^ (count - 1) ≤ scaled count e q ∧ scaled count e q < 10 ^ count := by
  have hlow : (10 : ℚ) ^ e ≤ q ↔ (10 : ℚ) ^ (count - 1) ≤ scaled count e q := by
    rw [zpow_le_iff_mul (b := (count : ℤ) - 1 - e), scaled, ← zpow_natCast,
      show e + ((count : ℤ) - 1 - e) = ((count - 1 : ℕ) : ℤ) by omega]
  have hhigh : q < (10 : ℚ) ^ (e + 1) ↔ scaled count e q < 10 ^ count := by
    rw [lt_zpow_iff_mul (b := (count : ℤ) - 1 - e), scaled, ← zpow_natCast,
      show e + 1 + ((count : ℤ) - 1 - e) = (count : ℤ) by omega]
  exact ⟨fun h => ⟨hlow.mp h.le, hhigh.mp h.lt⟩, fun h => ⟨hlow.mpr h.1, hhigh.mpr h.2⟩⟩

theorem scaled_eq_div (count : ℕ) (e : ℤ) (q : ℚ) :
    scaled count e q = q / 10 ^ (e + 1 - count) := by
  rw [scaled, div_eq_mul_inv, ← zpow_neg]
  congr 2
  ring

theorem scaled_sub_one (count : ℕ) (e : ℤ) (q : ℚ) :
    scaled count (e - 1) q = scaled count e q * 10 := by
  rw [scaled, scaled, show (count : ℤ) - 1 - (e - 1) = (count : ℤ) - 1 - e + 1 by ring,
    zpow_add_one₀ (by norm_num), mul_assoc]

theorem scaled_value (count : ℕ) (s : Scientific) :
    scaled count s.exponent (s.value count) = s.digits := by
  rw [scaled_eq_div, Scientific.value, mul_div_cancel_right₀ _ (by positivity)]

/-- The distance from the digits, in units of the last of them. -/
theorem abs_scaled_sub_digits (count : ℕ) (q : ℚ) (s : Scientific) :
    |scaled count s.exponent q - s.digits| =
      |q - s.value count| / 10 ^ (s.exponent + 1 - count) := by
  rw [← scaled_value count s, scaled_eq_div, scaled_eq_div, ← sub_div, abs_div,
    abs_of_pos (a := (10 : ℚ) ^ _) (by positivity)]

/-- Digits are a rounding of their own value. -/
theorem isRounding_value (hl : 10 ^ (count - 1) ≤ s.digits) (hu : s.digits < 10 ^ count) :
    IsRounding count (s.value count) s := by
  refine ⟨hl, hu, ?_, ?_, ?_⟩ <;> rw [scaled_value, sub_self]
  · norm_num
  · norm_num
  · intro
    norm_num

theorem IsRounding.abs_sub_value_le (h : IsRounding count q s) :
    |q - s.value count| ≤ 10 ^ (s.exponent + 1 - count) / 2 := by
  have hnear := h.near
  rw [abs_scaled_sub_digits, div_le_iff₀ (by positivity)] at hnear
  linarith

/-- A number that is as near to the digits as another is rounded to them as that one is, unless they
are a power of ten. -/
theorem IsRounding.of_near {q' : ℚ} (h : IsRounding count q s)
    (hn : |q' - s.value count| ≤ |q - s.value count|)
    (hc : s.digits = 10 ^ (count - 1) → s.digits - scaled count s.exponent q' ≤ 1 / 20) :
    IsRounding count q' s := by
  have hle : |scaled count s.exponent q' - s.digits| ≤ |scaled count s.exponent q - s.digits| := by
    rw [abs_scaled_sub_digits, abs_scaled_sub_digits]
    exact div_le_div_of_nonneg_right hn (by positivity)
  exact ⟨h.le, h.lt, hle.trans h.near, fun ht => h.tie (le_antisymm h.near (ht ▸ hle)), hc⟩

variable {num den : Nat} (hn : 0 < num) (hd : 0 < den)
  (hlog : |(num.log2 : ℤ) - den.log2 - 1| ≤ 100000) (hc : 0 < count)

include hn hd hlog hc

/-- What is chosen is a rounding. -/
theorem isRounding_significant : IsRounding count (num / den) (significant count num den) := by
  have hleads := leads_leadingExponent hn hd hlog
  unfold significant
  rw [if_neg hn.ne']
  dsimp only
  generalize leadingExponent num den = e at hleads ⊢
  obtain ⟨hpos, hquotient⟩ := shifted_spec num hd ((count : ℤ) - 1 - e)
  obtain ⟨hlow, hhigh⟩ := (leads_iff_scaled hc).mp hleads
  obtain ⟨rounded, hr⟩ : ∃ rounded, roundQuotient (shifted num den ((count : ℤ) - 1 - e)).1
    (shifted num den ((count : ℤ) - 1 - e)).2 = rounded := ⟨_, rfl⟩
  rw [hr]
  rw [roundQuotient_eq_iff_abs hpos, hquotient, ← scaled] at hr
  obtain ⟨hnear, htie⟩ := hr
  obtain ⟨hbelow, habove⟩ := abs_le.mp hnear
  have hten : (10 : ℚ) ^ count = 10 ^ (count - 1) * 10 := by
    rw [← pow_succ, Nat.sub_add_cancel hc]
  have hle : 10 ^ (count - 1) ≤ rounded := by
    have hlt : (10 ^ (count - 1) : ℚ) < rounded + 1 := by linarith
    exact Nat.lt_succ_iff.mp (by exact_mod_cast hlt)
  have hlt : rounded ≤ 10 ^ count := by
    have hlt : (rounded : ℚ) < 10 ^ count + 1 := by linarith
    exact Nat.lt_succ_iff.mp (by exact_mod_cast hlt)
  rw [Binary64.tenTo_eq, Binary64.tenTo_eq]
  split_ifs with hcarry
  · -- the carry is at most half of the finer digits below the power of ten
    have hfine : |scaled count (e + 1) (num / den) - (10 ^ (count - 1) : ℕ)| ≤ 1 / 20 := by
      have hscaled := scaled_sub_one count (e + 1) (num / den)
      rw [add_sub_cancel_right] at hscaled
      rw [hcarry] at hbelow habove
      push_cast at hbelow habove ⊢
      rw [abs_le]
      constructor <;> linarith
    refine ⟨le_refl _, ?_, ?_, ?_, ?_⟩
    · exact Nat.pow_lt_pow_right (by norm_num) (by omega)
    · exact hfine.trans (by norm_num)
    · intro ht
      rw [ht] at hfine
      norm_num at hfine
    · intro
      have habove' := (abs_le.mp hfine).1
      dsimp only
      linarith
  · refine ⟨hle, lt_of_le_of_ne hlt hcarry, hnear, htie, ?_⟩
    intro hpower
    dsimp only at hpower ⊢
    rw [hpower]
    push_cast
    linarith

/-- A rounding is what is chosen. -/
theorem significant_eq (h : IsRounding count (num / den) s) : significant count num den = s := by
  have hleads := leads_leadingExponent hn hd hlog
  obtain ⟨hbelow, habove⟩ := abs_le.mp h.near
  have hten : (10 : ℚ) ^ count = 10 ^ (count - 1) * 10 := by
    rw [← pow_succ, Nat.sub_add_cancel hc]
  have hone : (1 : ℚ) ≤ 10 ^ (count - 1) := one_le_pow₀ (by norm_num)
  have hle : (10 ^ (count - 1) : ℚ) ≤ s.digits := by exact_mod_cast h.le
  have hlt : (s.digits : ℚ) + 1 ≤ 10 ^ count := by exact_mod_cast h.lt
  unfold significant
  rw [if_neg hn.ne']
  dsimp only
  rcases le_or_gt ((10 : ℚ) ^ (count - 1)) (scaled count s.exponent (num / den))
    with hreach | hshort
  · have hexponent : leadingExponent num den = s.exponent :=
      hleads.unique ((leads_iff_scaled hc).mpr ⟨hreach, by linarith⟩)
    rw [hexponent]
    obtain ⟨hpos, hquotient⟩ := shifted_spec num hd ((count : ℤ) - 1 - s.exponent)
    have hrounded := (roundQuotient_eq_iff_abs (r := s.digits) hpos).mpr
      (by rw [hquotient, ← scaled]; exact ⟨h.near, h.tie⟩)
    rw [hrounded, Binary64.tenTo_eq, if_neg h.lt.ne]
  · -- below the power of ten the digits are rounded up to, with one digit more
    have hpower : s.digits = 10 ^ (count - 1) := by
      have hlt : (s.digits : ℚ) < 10 ^ (count - 1) + 1 := by linarith
      exact Nat.le_antisymm (Nat.lt_succ_iff.mp (by exact_mod_cast hlt)) h.le
    have hfine := h.carried hpower
    rw [hpower] at hfine
    push_cast at hfine
    have hexponent : leadingExponent num den = s.exponent - 1 := by
      refine hleads.unique ((leads_iff_scaled hc).mpr ?_)
      rw [scaled_sub_one]
      constructor <;> linarith
    rw [hexponent]
    obtain ⟨hpos, hquotient⟩ := shifted_spec num hd ((count : ℤ) - 1 - (s.exponent - 1))
    have hrounded := (roundQuotient_eq_iff_abs (r := 10 ^ count) hpos).mpr (by
      rw [hquotient, ← scaled, scaled_sub_one]
      push_cast
      refine ⟨?_, fun _ => ?_⟩
      · rw [abs_le]
        constructor <;> linarith
      · exact Nat.mod_eq_zero_of_dvd (dvd_pow (by norm_num) hc.ne'))
    rw [hrounded, Binary64.tenTo_eq, if_pos rfl, Binary64.tenTo_eq, ← hpower, sub_add_cancel]

end

end Decimal

end SheetFormulas
