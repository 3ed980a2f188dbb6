import SheetFormulas.Proofs.Binary64.Scaling
import SheetFormulas.Proofs.Number.Arithmetic

/-!
How far rounding moves a value. The doubles below a power of two are spaced evenly or more closely,
so that the result of an operation lies within half that spacing of the exact result. Exact values
are rational numbers here, and whole parts of doubles are found from bounds on their values.
-/

namespace SheetFormulas.Binary64

attribute [local irreducible] unitsPerOne

/-- The exact value of a finite double. -/
def value (x : Float) : ℚ := signedUnits x / unitsPerOne

theorem unitsPerOne_rat_pos : (0 : ℚ) < unitsPerOne := Nat.cast_pos.mpr unitsPerOne_pos

section Rounded

variable {num den e : Nat}

/-- A quotient that is rounded to a finite double becomes a multiple of the spacing of its binade, and
is moved by half of that spacing at most. -/
theorem exists_units_of_isFinite {negative : Bool} (hd : 0 < den)
    (hf : (ofRatio negative num den).isFinite = true) :
    ∃ q binade, binade = (num * unitsPerOne / den).log2 - 52 ∧
      units (ofRatio negative num den) = q * 2 ^ binade ∧
      2 * (q * 2 ^ binade * den) ≤ 2 * (num * unitsPerOne) + 2 ^ binade * den ∧
      2 * (num * unitsPerOne) ≤ 2 * (q * 2 ^ binade * den) + 2 ^ binade * den := by
  have hmagnitude := magnitude_ofRatio negative num den
  rw [isFinite_iff_magnitude] at hf
  rw [nearestBits_eq] at hmagnitude
  generalize ofRatio negative num den = x at *
  generalize num * unitsPerOne = num at *
  obtain ⟨binade, hbinade⟩ : ∃ binade, binade = (num / den).log2 - 52 := ⟨_, rfl⟩
  obtain ⟨q, hq⟩ : ∃ q, q = roundQuotient num (den <<< binade) := ⟨_, rfl⟩
  rw [nearestUnits, ← hbinade, ← hq] at hmagnitude
  have hspacing : 0 < den <<< binade := by
    rw [Nat.shiftLeft_eq]
    exact Nat.mul_pos hd (Nat.two_pow_pos _)
  have hupper : q ≤ 2 ^ 53 := by
    rw [hq, hbinade]
    exact roundQuotient_le _ _ _ (hbinade ▸ hspacing) (lt_shiftLeft_binade num den hd)
  have hfull : binade = 0 ∨ 2 ^ 52 ≤ q := by
    rcases Nat.lt_or_ge (num / den).log2 52 with hsmall | hlarge
    · exact .inl (by omega)
    · rw [hq, hbinade]
      exact .inr (two_pow_le_roundQuotient hlarge)
  have hproduct : q * 2 ^ binade * den = q * (den <<< binade) := by
    rw [Nat.shiftLeft_eq]
    ring
  have hshift : 2 ^ binade * den = den <<< binade := by
    rw [Nat.shiftLeft_eq, Nat.mul_comm]
  have habove := two_mul_roundQuotient_mul_le num hspacing
  have hbelow := two_mul_le_two_mul_roundQuotient_mul num hspacing
  rw [← hq] at habove hbelow
  refine ⟨q, binade, hbinade, units_of_magnitude_eq (by omega) hupper hfull, ?_, ?_⟩
  · rw [hproduct, hshift]
    omega
  · rw [hproduct, hshift]
    omega

/-- A quotient in the range is rounded to a multiple of the spacing of its binade, and moved by half
of that spacing at most. -/
theorem exists_units_ofRatio (negative : Bool) (hd : 0 < den)
    (h : (num * unitsPerOne / den).log2 ≤ 2096) :
    ∃ q binade, binade = (num * unitsPerOne / den).log2 - 52 ∧
      (ofRatio negative num den).isFinite = true ∧
      units (ofRatio negative num den) = q * 2 ^ binade ∧
      2 * (q * 2 ^ binade * den) ≤ 2 * (num * unitsPerOne) + 2 ^ binade * den ∧
      2 * (num * unitsPerOne) ≤ 2 * (q * 2 ^ binade * den) + 2 ^ binade * den := by
  have hshift : 0 < den <<< ((num * unitsPerOne / den).log2 - 52) := by
    rw [Nat.shiftLeft_eq]
    exact Nat.mul_pos hd (Nat.two_pow_pos _)
  have hupper := roundQuotient_le _ _ _ hshift (lt_shiftLeft_binade (num * unitsPerOne) den hd)
  have hfinite : (ofRatio negative num den).isFinite = true := by
    rw [isFinite_ofRatio_iff, nearestBits_eq, nearestUnits, infinityBits_eq]
    omega
  obtain ⟨q, binade, hbinade, hnear⟩ := exists_units_of_isFinite hd hfinite
  exact ⟨q, binade, hbinade, hfinite, hnear⟩

/-- Above a binade all doubles are multiples of its spacing. -/
theorem two_pow_dvd_units {x : Float} {binade : Nat} (h : 2 ^ (52 + binade) ≤ units x) :
    2 ^ binade ∣ units x := by
  have hlt := significand_lt x
  rw [units_eq, twoTo_eq] at h ⊢
  apply Dvd.dvd.mul_left
  apply pow_dvd_pow
  by_contra hscale
  have hle : significand x * 2 ^ scale x < 2 ^ (52 + binade) := by
    calc significand x * 2 ^ scale x < 2 ^ 53 * 2 ^ scale x :=
          Nat.mul_lt_mul_of_pos_right hlt (Nat.two_pow_pos _)
      _ = 2 ^ (53 + scale x) := by rw [pow_add]
      _ ≤ 2 ^ (52 + binade) := Nat.pow_le_pow_right (by decide) (by omega)
  omega

/-- Distinct multiples of a spacing are one spacing apart at least. -/
theorem le_sub_or_le_sub_of_ne {k q : ℕ} (hne : k ≠ q) (spacing : ℕ) :
    spacing ≤ k * spacing - q * spacing ∨ spacing ≤ q * spacing - k * spacing := by
  rw [← Nat.sub_mul, ← Nat.sub_mul]
  rcases Nat.lt_or_gt_of_ne hne with hlt | hgt
  · exact .inr (Nat.le_mul_of_pos_left _ (by omega))
  · exact .inl (Nat.le_mul_of_pos_left _ (by omega))

/-- A multiple of the spacing that is half of it away at most is the nearest one. -/
theorem multiple_nearest {q spacing : ℕ} (habove : 2 * (q * spacing) ≤ 2 * num + spacing)
    (hbelow : 2 * num ≤ 2 * (q * spacing) + spacing) (k : ℕ) :
    ((q * spacing : ℕ) - num : ℤ).natAbs ≤ ((k * spacing : ℕ) - num : ℤ).natAbs := by
  rcases eq_or_ne k q with rfl | hne
  · exact le_rfl
  · have hgap := le_sub_or_le_sub_of_ne hne spacing
    omega

/-- No other double is nearer to a quotient than the one that it is rounded to. -/
theorem units_ofRatio_nearest {negative : Bool} (hd : 0 < den)
    (hf : (ofRatio negative num den).isFinite = true) (x : Float) :
    (units (ofRatio negative num den) * den - num * unitsPerOne : ℤ).natAbs ≤
      (units x * den - num * unitsPerOne : ℤ).natAbs := by
  obtain ⟨q, binade, hbinade, hunits, habove, hbelow⟩ := exists_units_of_isFinite hd hf
  have hquotient := Nat.div_mul_le_self (num * unitsPerOne) den
  have hlog := Nat.log2_self_le (n := num * unitsPerOne / den)
  rw [hunits]
  rw [show (num * unitsPerOne : ℤ) = (num * unitsPerOne : ℕ) from (Nat.cast_mul _ _).symm]
  generalize num * unitsPerOne = num at *
  have hmultiple (k : ℕ) : ((q * 2 ^ binade : ℕ) * den - num : ℤ).natAbs ≤
      ((k * 2 ^ binade : ℕ) * den - num : ℤ).natAbs := by
    rw [Nat.mul_assoc q] at habove hbelow
    rw [← Nat.cast_mul, ← Nat.cast_mul, Nat.mul_assoc, Nat.mul_assoc]
    exact multiple_nearest habove hbelow k
  rcases Nat.lt_or_ge (units x) (2 ^ (52 + binade)) with hlow | hhigh
  · -- a double below the binade is farther away than the first one in it
    rcases Nat.eq_zero_or_pos binade with hzero | hpos
    · rw [hzero] at hmultiple ⊢
      simpa using hmultiple (units x)
    · have hfirst := hmultiple (2 ^ 52)
      rw [← pow_add] at hfirst
      have hne : num / den ≠ 0 := by
        intro hz
        rw [hz, Nat.log2_zero] at hbinade
        omega
      have hreach : 2 ^ (52 + binade) * den ≤ num := by
        rw [show 52 + binade = (num / den).log2 by omega]
        exact (Nat.mul_le_mul_right den (hlog hne)).trans hquotient
      have hless : units x * den ≤ 2 ^ (52 + binade) * den := Nat.mul_le_mul_right den hlow.le
      rw [← Nat.cast_mul] at hfirst ⊢
      rw [← Nat.cast_mul] at hfirst ⊢
      generalize 2 ^ (52 + binade) * den = first at *
      generalize q * 2 ^ binade * den = z at *
      generalize units x * den = w at *
      omega
  · obtain ⟨k, hk⟩ := two_pow_dvd_units hhigh
    rw [hk, Nat.mul_comm (2 ^ binade) k]
    exact hmultiple k

theorem log2_div_lt (hd : 0 < den) (h : num * unitsPerOne < 2 ^ (53 + e) * den) :
    (num * unitsPerOne / den).log2 < 53 + e := by
  rcases Nat.eq_zero_or_pos (num * unitsPerOne / den) with hz | hpos
  · rw [hz, Nat.log2_zero]
    omega
  · rwa [Nat.log2_lt hpos.ne', Nat.div_lt_iff_lt_mul hd]

/-- What is rounded below `2 ^ (53 + e)` units is moved by half of `2 ^ e` units at most. -/
theorem units_ofRatio_near (negative : Bool) (hd : 0 < den) (he : e ≤ 2044)
    (h : num * unitsPerOne < 2 ^ (53 + e) * den) :
    (ofRatio negative num den).isFinite = true ∧
      2 * (units (ofRatio negative num den) * den) ≤ 2 * (num * unitsPerOne) + 2 ^ e * den ∧
      2 * (num * unitsPerOne) ≤ 2 * (units (ofRatio negative num den) * den) + 2 ^ e * den := by
  have hlog := log2_div_lt hd h
  obtain ⟨q, binade, hbinade, hfinite, hunits, habove, hbelow⟩ :=
    exists_units_ofRatio negative hd (show (num * unitsPerOne / den).log2 ≤ 2096 by omega)
  have hfine : 2 ^ binade * den ≤ 2 ^ e * den :=
    Nat.mul_le_mul_right _ (Nat.pow_le_pow_right (by decide) (by omega))
  rw [hunits]
  exact ⟨hfinite, by omega, by omega⟩

/-- In the upper half of that range what is rounded is a multiple of `2 ^ e` units. -/
theorem two_pow_dvd_units_ofRatio (negative : Bool) (hd : 0 < den) (he : e ≤ 2044)
    (hlow : 2 ^ (52 + e) * den ≤ num * unitsPerOne) (h : num * unitsPerOne < 2 ^ (53 + e) * den) :
    2 ^ e ∣ units (ofRatio negative num den) := by
  have hlog := log2_div_lt hd h
  have hquotient : 2 ^ (52 + e) ≤ num * unitsPerOne / den := (Nat.le_div_iff_mul_le hd).mpr hlow
  have hlog' := (Nat.le_log2 ((Nat.two_pow_pos _).trans_le hquotient).ne').mpr hquotient
  obtain ⟨q, binade, hbinade, -, hunits, -⟩ :=
    exists_units_ofRatio negative hd (show (num * unitsPerOne / den).log2 ≤ 2096 by omega)
  rw [hunits, show binade = e by omega]
  exact Nat.dvd_mul_left _ _

theorem two_zpow_mul_unitsPerOne {k : ℤ} (h : k + 1074 = e) : (2 : ℚ) ^ k * unitsPerOne = 2 ^ e := by
  rw [unitsPerOne_eq, Nat.cast_pow, Nat.cast_two, ← zpow_natCast, ← zpow_natCast,
    ← zpow_add₀ two_ne_zero]
  congr 1

theorem abs_ratio {negative : Bool} {q : ℚ}
    (hq : q = if negative then -(num / den : ℚ) else num / den) : |q| = num / den := by
  have hratio : (0 : ℚ) ≤ num / den := by positivity
  rw [hq]
  split_ifs
  · rw [abs_neg, abs_of_nonneg hratio]
  · rw [abs_of_nonneg hratio]

/-- A quotient is below a power of two if its units are. -/
theorem ratio_lt_iff {k : ℤ} (hd : 0 < den) (he : k + 1074 = e) :
    (num / den : ℚ) < 2 ^ k ↔ num * unitsPerOne < 2 ^ e * den := by
  have hd' : (0 : ℚ) < den := Nat.cast_pos.mpr hd
  rw [div_lt_iff₀ hd', ← mul_lt_mul_iff_left₀ unitsPerOne_rat_pos, mul_right_comm,
    two_zpow_mul_unitsPerOne he]
  exact_mod_cast Iff.rfl

/-- A rounded quotient below `2 ^ k` lies within half the spacing of the doubles there. -/
theorem value_ofRatio_near {negative : Bool} {k : ℤ} {q : ℚ} (hd : 0 < den) (hlow : -1021 ≤ k)
    (hhigh : k ≤ 1023) (hq : q = if negative then -(num / den : ℚ) else num / den)
    (h : |q| < 2 ^ k) :
    (ofRatio negative num den).isFinite = true ∧
      |value (ofRatio negative num den) - q| ≤ 2 ^ (k - 54) := by
  obtain ⟨e, he⟩ : ∃ e : ℕ, (e : ℤ) = k + 1021 := ⟨(k + 1021).toNat, by omega⟩
  have hU := unitsPerOne_rat_pos
  have hd' : (0 : ℚ) < den := Nat.cast_pos.mpr hd
  have hspacing : (2 : ℚ) ^ (k - 54) * (2 * unitsPerOne) = 2 ^ e := by
    rw [← mul_assoc, ← zpow_add_one₀ two_ne_zero, show k - 54 + 1 = k - 53 by ring]
    exact two_zpow_mul_unitsPerOne (by omega)
  rw [abs_ratio hq, ratio_lt_iff hd (show k + 1074 = (53 + e : ℕ) by omega)] at h
  obtain ⟨hfinite, habove, hbelow⟩ := units_ofRatio_near negative hd (by omega) h
  refine ⟨hfinite, ?_⟩
  have habove' : (2 * (units (ofRatio negative num den) * den) : ℚ) ≤
      2 * (num * unitsPerOne) + 2 ^ e * den := by exact_mod_cast habove
  have hbelow' : (2 * (num * unitsPerOne) : ℚ) ≤
      2 * (units (ofRatio negative num den) * den) + 2 ^ e * den := by exact_mod_cast hbelow
  have hnear : |(units (ofRatio negative num den) / unitsPerOne : ℚ) - num / den| ≤ 2 ^ (k - 54) := by
    rw [div_sub_div _ _ hU.ne' hd'.ne', abs_div, abs_of_pos (mul_pos hU hd'),
      div_le_iff₀ (mul_pos hU hd'), abs_le]
    rw [← hspacing] at habove' hbelow'
    constructor <;> nlinarith
  rw [value, signedUnits_ofRatio, hq]
  split_ifs
  · rw [← abs_neg]
    push_cast
    convert hnear using 2
    ring
  · rw [Int.cast_natCast]
    exact hnear

/-- A quotient rounded in the binade below `2 ^ k` is a multiple of the spacing there. -/
theorem exists_value_ofRatio {negative : Bool} {k : ℤ} {q : ℚ} (hd : 0 < den) (hlow : -1021 ≤ k)
    (hhigh : k ≤ 1023) (hq : q = if negative then -(num / den : ℚ) else num / den)
    (hmin : 2 ^ (k - 1) ≤ |q|) (h : |q| < 2 ^ k) :
    ∃ n : ℤ, value (ofRatio negative num den) = n * 2 ^ (k - 53) := by
  obtain ⟨e, he⟩ : ∃ e : ℕ, (e : ℤ) = k + 1021 := ⟨(k + 1021).toNat, by omega⟩
  rw [abs_ratio hq, ← not_lt, ratio_lt_iff hd (show k - 1 + 1074 = (52 + e : ℕ) by omega), not_lt]
    at hmin
  rw [abs_ratio hq, ratio_lt_iff hd (show k + 1074 = (53 + e : ℕ) by omega)] at h
  obtain ⟨n, hn⟩ := two_pow_dvd_units_ofRatio negative hd (by omega) hmin h
  have hspacing := two_zpow_mul_unitsPerOne (show (k - 53) + 1074 = (e : ℕ) by omega)
  have hunits : (units (ofRatio negative num den) / unitsPerOne : ℚ) = n * 2 ^ (k - 53) := by
    rw [hn, Nat.cast_mul, Nat.cast_pow, Nat.cast_two, ← hspacing, mul_right_comm,
      mul_div_cancel_right₀ _ unitsPerOne_rat_pos.ne', mul_comm]
  rw [value, signedUnits_ofRatio]
  split_ifs
  · refine ⟨-n, ?_⟩
    push_cast
    rw [neg_div, hunits, neg_mul]
  · exact ⟨n, hunits⟩

end Rounded

section Operations

variable {x y : Float} {k : ℤ}

theorem value_eq_units (x : Float) :
    value x = if isNegative x then -(units x / unitsPerOne : ℚ) else units x / unitsPerOne := by
  rw [value, signedUnits]
  split_ifs
  · push_cast
    ring
  · push_cast
    rfl

theorem value_lt_iff (hx : x.isFinite = true) (hy : y.isFinite = true) :
    x < y ↔ value x < value y := by
  rw [lt_iff hx hy, value, value, div_lt_div_iff_of_pos_right unitsPerOne_rat_pos, Int.cast_lt]

theorem value_nonneg_iff (x : Float) : 0 ≤ value x ↔ 0 ≤ signedUnits x := by
  have hU := unitsPerOne_rat_pos
  rw [value, le_div_iff₀ hU, zero_mul, Int.cast_nonneg_iff]

theorem value_pos_iff (x : Float) : 0 < value x ↔ 0 < signedUnits x := by
  have hU := unitsPerOne_rat_pos
  rw [value, lt_div_iff₀ hU, zero_mul, Int.cast_pos]

theorem value_neg (hx : x.isFinite = true) : value (-x) = -value x := by
  rw [value, signedUnits_neg hx, value]
  push_cast
  ring

/-- The value of a whole number that is exactly a double. -/
theorem value_ofInt {n : Int} (h : n.natAbs ≤ 2 ^ 53) :
    (ofInt n).isFinite = true ∧ value (ofInt n) = n := by
  have hexact : (Number.int n).IsExact := Number.IsDatum.isExact h
  refine ⟨hexact.isFinite_double, ?_⟩
  have hunits : signedUnits (ofInt n) = n * unitsPerOne := hexact.signedUnits_double
  rw [value, hunits, Int.cast_mul, Int.cast_natCast, mul_div_cancel_right₀ _ unitsPerOne_rat_pos.ne']

/-- A sum of doubles is the rounded quotient of the exact sum. -/
theorem value_add_eq_ratio (x y : Float) :
    value x + value y =
      if sumIsNegative x y then -((signedUnits x + signedUnits y).natAbs / unitsPerOne : ℚ)
      else (signedUnits x + signedUnits y).natAbs / unitsPerOne := by
  have hsum : value x + value y = ((signedUnits x + signedUnits y : ℤ) : ℚ) / unitsPerOne := by
    rw [value, value, ← add_div]
    push_cast
    rfl
  rw [hsum]
  rcases eq_or_ne (signedUnits x + signedUnits y) 0 with hz | hne
  · simp [hz]
  · rw [sumIsNegative_of_ne hne, Nat.cast_natAbs]
    rcases lt_or_ge (signedUnits x + signedUnits y) 0 with hneg | hnonneg
    · rw [if_pos (decide_eq_true hneg), abs_of_neg hneg]
      push_cast
      ring
    · rw [if_neg (by simpa using hnonneg), abs_of_nonneg hnonneg]

theorem value_add_near (hx : x.isFinite = true) (hy : y.isFinite = true) (hlow : -1021 ≤ k)
    (hhigh : k ≤ 1023) (h : |value x + value y| < 2 ^ k) :
    (x + y).isFinite = true ∧ |value (x + y) - (value x + value y)| ≤ 2 ^ (k - 54) := by
  rw [add_eq hx hy]
  exact value_ofRatio_near unitsPerOne_pos hlow hhigh (value_add_eq_ratio x y) h

theorem exists_value_add (hx : x.isFinite = true) (hy : y.isFinite = true) (hlow : -1021 ≤ k)
    (hhigh : k ≤ 1023) (hmin : 2 ^ (k - 1) ≤ |value x + value y|) (h : |value x + value y| < 2 ^ k) :
    ∃ n : ℤ, value (x + y) = n * 2 ^ (k - 53) := by
  rw [add_eq hx hy]
  exact exists_value_ofRatio unitsPerOne_pos hlow hhigh (value_add_eq_ratio x y) hmin h

/-- A sum of doubles that are not negative is not below the first. -/
theorem value_le_add (hx : x.isFinite = true) (hy : y.isFinite = true) (hx0 : 0 ≤ value x)
    (hy0 : 0 ≤ value y) (hf : (x + y).isFinite = true) : value x ≤ value (x + y) := by
  rw [value_nonneg_iff] at hx0 hy0
  rw [value, value, div_le_div_iff_of_pos_right unitsPerOne_rat_pos, Int.cast_le]
  rcases hx0.eq_or_lt with hz | hpos
  · rw [← hz]
    exact add_nonneg_of_nonneg hx hy (by omega) hf
  · exact le_add_of_le hx hy hx hpos (by omega) hf

theorem value_sub_near (hx : x.isFinite = true) (hy : y.isFinite = true) (hlow : -1021 ≤ k)
    (hhigh : k ≤ 1023) (h : |value x - value y| < 2 ^ k) :
    (x - y).isFinite = true ∧ |value (x - y) - (value x - value y)| ≤ 2 ^ (k - 54) := by
  have hdifference : value x - value y = value x + value (-y) := by
    rw [value_neg hy]
    ring
  rw [hdifference] at h ⊢
  rw [sub_eq_add_neg hx hy]
  exact value_add_near hx (isFinite_neg hy) hlow hhigh h

/-- A difference is not below a positive double that it is not below exactly. -/
theorem value_le_sub {z : Float} (hx : x.isFinite = true) (hy : y.isFinite = true)
    (hz : z.isFinite = true) (hpos : 0 < value z) (h : value z ≤ value x - value y)
    (hf : (x - y).isFinite = true) : value z ≤ value (x - y) := by
  have hU := unitsPerOne_rat_pos
  rw [sub_eq_add_neg hx hy] at hf ⊢
  rw [value, value, value, ← sub_div, div_le_div_iff_of_pos_right hU] at h
  have hunits : signedUnits z ≤ signedUnits x + signedUnits (-y) := by
    rw [signedUnits_neg hy, ← Int.sub_eq_add_neg]
    exact_mod_cast h
  rw [value, value, div_le_div_iff_of_pos_right hU, Int.cast_le]
  exact le_add_of_le hx (isFinite_neg hy) hz ((value_pos_iff z).mp hpos) hunits hf

theorem value_mul_near (hx : x.isFinite = true) (hy : y.isFinite = true) (hlow : -1021 ≤ k)
    (hhigh : k ≤ 1023) (h : |value x * value y| < 2 ^ k) :
    (x * y).isFinite = true ∧ |value (x * y) - value x * value y| ≤ 2 ^ (k - 54) := by
  rw [mul_eq hx hy]
  refine value_ofRatio_near (Nat.mul_pos unitsPerOne_pos unitsPerOne_pos) hlow hhigh ?_ h
  rw [value_eq_units, value_eq_units]
  push_cast
  cases isNegative x <;> cases isNegative y <;> simp <;> ring

theorem value_div_near (hx : x.isFinite = true) (hy : y.isFinite = true) (hy0 : value y ≠ 0)
    (hlow : -1021 ≤ k) (hhigh : k ≤ 1023) (h : |value x / value y| < 2 ^ k) :
    (x / y).isFinite = true ∧ |value (x / y) - value x / value y| ≤ 2 ^ (k - 54) := by
  have hU := unitsPerOne_rat_pos
  have hunits : units y ≠ 0 := by
    intro hz
    apply hy0
    rw [value_eq_units, hz]
    simp
  rw [div_eq hx hy hunits]
  refine value_ofRatio_near (Nat.pos_of_ne_zero hunits) hlow hhigh ?_ h
  have hquotient : (units x / unitsPerOne : ℚ) / (units y / unitsPerOne) = units x / units y :=
    div_div_div_cancel_right₀ hU.ne' _ _
  rw [value_eq_units, value_eq_units, ← hquotient]
  cases isNegative x <;> cases isNegative y <;> simp [div_neg, neg_div]

theorem value_div_nonneg (hx : x.isFinite = true) (hy : y.isFinite = true) (hx0 : 0 ≤ value x)
    (hy0 : 0 < value y) : 0 ≤ value (x / y) := by
  rw [value_nonneg_iff] at hx0 ⊢
  exact div_nonneg_of_nonneg hx hy hx0 ((value_pos_iff y).mp hy0)

/-! Whole parts. -/

theorem floor_eq (x : Float) : floor x = ⌊value x⌋ := by
  rw [floor, value, Rat.floor_intCast_div_natCast]

/-- A double that is nearer to a whole number than a half is rounded to it. -/
theorem round_eq_of_near {n : Int} (h : |value x - n| < 1 / 2) : round x = n := by
  have hU := unitsPerOne_rat_pos
  obtain ⟨q, hq⟩ : ∃ q, q = roundQuotient (units x) unitsPerOne := ⟨_, rfl⟩
  have habove := two_mul_roundQuotient_mul_le (units x) unitsPerOne_pos
  have hbelow := two_mul_le_two_mul_roundQuotient_mul (units x) unitsPerOne_pos
  rw [← hq] at habove hbelow
  have hnear : |(q : ℚ) - units x / unitsPerOne| ≤ 1 / 2 := by
    have habove' : (2 * (q * unitsPerOne) : ℚ) ≤ 2 * units x + unitsPerOne := by exact_mod_cast habove
    have hbelow' : (2 * units x : ℚ) ≤ 2 * (q * unitsPerOne) + unitsPerOne := by exact_mod_cast hbelow
    rw [sub_div' hU.ne', abs_div, abs_of_pos hU, div_le_iff₀ hU, abs_le]
    constructor <;> linarith
  have hround : |(round x : ℚ) - value x| ≤ 1 / 2 := by
    rw [round, value_eq_units, ← hq]
    split_ifs
    · rw [← abs_neg]
      push_cast
      convert hnear using 2
      ring
    · exact_mod_cast hnear
  have hless : |((round x - n : ℤ) : ℚ)| < 1 := by
    push_cast
    calc |(round x : ℚ) - n| ≤ |(round x : ℚ) - value x| + |value x - n| := abs_sub_le _ _ _
      _ < 1 / 2 + 1 / 2 := add_lt_add_of_le_of_lt hround h
      _ = 1 := by norm_num
  have hint : |round x - n| < 1 := by exact_mod_cast hless
  exact sub_eq_zero.mp (Int.abs_lt_one_iff.mp hint)

end Operations

end SheetFormulas.Binary64
