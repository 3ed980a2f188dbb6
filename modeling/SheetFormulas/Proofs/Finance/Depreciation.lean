import SheetFormulas.Finance.Depreciation
import SheetFormulas.Proofs.Value.Data

/-!
Depreciation of data. Straight lines, sums of digits and declining balances never fail. A fixed
balance fails only where the power of its rate overflows: the salvage value is then above the cost,
and the life is less than a period. A declining balance is finite in every period from the first on.
-/

namespace SheetFormulas

open Outcome

attribute [local irreducible] Binary64.unitsPerOne

namespace Number

/-- A datum that is not negative. -/
structure IsAmount (a : Number) : Prop where
  datum : a.IsDatum
  nonneg : 0 ≤ a.signedUnits

variable {a b : Number}

theorem IsAmount.signedUnits_double (h : a.IsAmount) : 0 ≤ Binary64.signedUnits a.double := by
  rw [h.datum.isExact.signedUnits_double]
  exact h.nonneg

/-- An amount that is not zero becomes a double above zero. -/
theorem IsAmount.isPositive (h : a.IsAmount) (hz : a.isZero = false) :
    Binary64.IsPositive a.double := by
  have hne := h.datum.isExact.units_double_pos hz
  have hnonneg := h.signedUnits_double
  have habs := Binary64.natAbs_signedUnits a.double
  exact ⟨h.datum.isExact.isFinite_double, by omega⟩

theorem IsAmount.int_nonneg {n : Int} (h : (int n).IsAmount) : 0 ≤ n :=
  nonneg_of_mul_nonneg_left h.nonneg (by exact_mod_cast Binary64.unitsPerOne_pos)

/-- The difference of amounts does not leave the data. -/
theorem IsAmount.sub_answers (ha : a.IsAmount) (hb : b.IsAmount) : (a.sub b).Answers IsDatum := by
  have hfinite := Binary64.isFinite_sub_of_nonneg ha.datum.isExact.isFinite_double
    hb.datum.isExact.isFinite_double ha.signedUnits_double hb.signedUnits_double
  cases b with
  | float y =>
    rw [sub_float ha.datum.isExact.toFloat_eq]
    exact answers_ok hfinite
  | int n =>
    cases a with
    | float x =>
      rw [float_sub hb.datum.isExact.toFloat_eq]
      exact answers_ok hfinite
    | int m =>
      have hm : m.natAbs ≤ 2 ^ 53 := ha.datum
      have hn : n.natAbs ≤ 2 ^ 53 := hb.datum
      have hm0 := ha.int_nonneg
      have hn0 := hb.int_nonneg
      show (m - n).natAbs ≤ 2 ^ 53
      omega

/-- The product of an amount and a double that is not negative and at most one. -/
theorem IsAmount.mul_answers (ha : a.IsAmount) {x : Float} (hx : x.isFinite = true)
    (hx0 : 0 ≤ Binary64.signedUnits x) (hx1 : Binary64.units x ≤ Binary64.unitsPerOne) :
    (a.mul (float x)).Answers IsAmount := by
  rw [mul_float ha.datum.isExact.toFloat_eq]
  have hf := ha.datum.isExact.isFinite_double
  exact answers_ok ⟨(Binary64.units_mul_le_left hf hx hx1).1,
    Binary64.mul_nonneg_of_nonneg hf hx ha.signedUnits_double hx0⟩

end Number

namespace Binary64

variable {x y : Float}

/-- A quotient that is beyond the range, of doubles that are not negative. -/
theorem div_eq_infinity (hx : x.isFinite = true) (hx0 : 0 ≤ signedUnits x) (hy : IsPositive y)
    (h : (x / y).isFinite = false) : x / y = Float.ofBits 0x7ff0000000000000 := by
  have hneg : (isNegative x != isNegative y) = false := by
    rw [hy.isNegative_eq, Bool.bne_false, ← Bool.not_eq_true]
    intro hneg
    have hf := (units_div_le hx hy.finite isFinite_zero hy.units_pos (by
      rw [units_eq_zero_of_isNegative hneg hx0, Nat.zero_mul]
      exact Nat.zero_le _)).1
    rw [h] at hf
    cases hf
  rw [div_eq hx hy.finite hy.units_pos.ne', hneg] at h ⊢
  exact ofRatio_eq_infinity h

/-- One less a double that is less than one. -/
theorem one_sub_of_lt_one (hx : x.isFinite = true) (hx0 : 0 ≤ signedUnits x)
    (hx1 : units x < unitsPerOne) :
    IsPositive (1 - x) ∧ units (1 - x) ≤ unitsPerOne ∧ 2 ^ 74 ≤ units (1 - x) := by
  have hneg := isFinite_neg hx
  have hsum : signedUnits 1 + signedUnits (-x) = unitsPerOne - units x := by
    have habs := natAbs_signedUnits x
    rw [signedUnits_one, signedUnits_neg hx]
    omega
  obtain ⟨hf, hle⟩ := units_add_le isFinite_one hneg isFinite_one (by
    rw [hsum, units_one]
    omega)
  obtain ⟨z, hz, hunits⟩ := exists_two_pow (e := 1021) (by decide)
  have hgap := units_add_le_of_lt_one hx hx1
  have hzabs := signedUnits_abs hz
  have hpow : (0 : Int) < units z := by
    rw [hunits]
    positivity
  have hlow := le_add_of_le isFinite_one hneg (isFinite_abs hz) (by omega)
    (by rw [hsum, hzabs, hunits]; omega) hf
  rw [← sub_eq_add_neg isFinite_one hx] at hf hle hlow
  have hpositive : IsPositive (1 - x) := ⟨hf, by omega⟩
  refine ⟨hpositive, units_one ▸ hle, ?_⟩
  rw [hpositive.signedUnits_eq, hzabs, hunits] at hlow
  have hpowers : 2 ^ 74 ≤ 2 ^ 1021 := Nat.pow_le_pow_right (by decide) (by decide)
  omega

/-- One less than a positive double is not below minus one. -/
theorem sub_one_of_pos (hx : IsPositive x) :
    -unitsPerOne ≤ signedUnits (x - 1) ∧ (unitsPerOne ≤ units x → 0 ≤ signedUnits (x - 1)) := by
  have hf := isFinite_sub_one hx.finite
  have hunits := hx.signedUnits_eq
  have hsum : signedUnits x + signedUnits (-1) = units x - unitsPerOne := by
    rw [signedUnits_neg isFinite_one, signedUnits_one]
    omega
  rw [sub_eq_add_neg hx.finite isFinite_one] at hf ⊢
  have hnonneg (h : unitsPerOne ≤ units x) : 0 ≤ signedUnits (x + -1) :=
    add_nonneg_of_nonneg hx.finite (isFinite_neg isFinite_one) (by omega) hf
  refine ⟨?_, hnonneg⟩
  rcases Nat.le_total unitsPerOne (units x) with hge | hle
  · have := hnonneg hge
    omega
  · have hbound := (units_add_le hx.finite (isFinite_neg isFinite_one) isFinite_one (by
      rw [hsum, units_one]
      omega)).2
    have habs := natAbs_signedUnits (x + -1)
    rw [units_one] at hbound
    omega

end Binary64

namespace Finance.Depreciation

/-- A result of a calculation as an operand of the next. -/
theorem sized_ok {a : Number} {p : Nat} (h : a.Sized p) :
    Answers (Number.Sized p) (Except.ok a : Calculation) := answers_ok h

/-- One less than a positive number, which is not negative from one on. -/
theorem exists_sub_one {period : Number} (h : period.IsExact) (hpos : period.le (.int 0) = false) :
    ∃ (k : Number) (y : Float), (period - 1 : Calculation) = .ok k ∧ k.toFloat = .ok y ∧
      y.isFinite = true ∧ -(Binary64.unitsPerOne : Int) ≤ Binary64.signedUnits y ∧
      (period.lt (.int 1) = false → 0 ≤ Binary64.signedUnits y) := by
  have hpositive := h.isPositive hpos
  cases period with
  | float x =>
    have hx : Binary64.IsPositive x := hpositive
    obtain ⟨hlow, hnonneg⟩ := Binary64.sub_one_of_pos hx
    refine ⟨.float (x - 1), x - 1, Calculation.float_sub_one x, rfl, Binary64.isFinite_sub_one hx.finite,
      hlow, fun hl => hnonneg ?_⟩
    rw [← Bool.not_eq_true, h.lt_iff Number.isExact_one, Number.signedUnits_one, not_lt] at hl
    have hle : (Binary64.unitsPerOne : Int) ≤ Binary64.signedUnits x := hl
    rw [hx.signedUnits_eq] at hle
    exact_mod_cast hle
  | int n =>
    have hn : 0 < n := by
      have hunits := h.signedUnits_double ▸ hpositive.pos
      exact pos_of_mul_pos_left hunits (Int.natCast_nonneg _)
    have hf : (Binary64.ofInt (n - 1)).isFinite = true := by
      refine (Binary64.ofRatio_le (decide (n - 1 < 0)) Nat.one_pos h.isFinite_double ?_).1
      rw [h.units_double, Nat.mul_one]
      show (n - 1).natAbs * _ ≤ (n * (Binary64.unitsPerOne : Int)).natAbs
      rw [Int.natAbs_mul, Int.natAbs_natCast]
      exact Nat.mul_le_mul_right _ (by omega)
    have hnonneg : 0 ≤ Binary64.signedUnits (Binary64.ofInt (n - 1)) := by
      refine Binary64.signedUnits_ofRatio_nonneg Nat.one_pos fun hneg => ?_
      have := of_decide_eq_true hneg
      omega
    have hdouble : (Number.int (n - 1)).toFloat = .ok (Binary64.ofInt (n - 1)) :=
      if_neg (by rw [Binary64.not_isInf_of_isFinite hf]; exact Bool.false_ne_true)
    exact ⟨.int (n - 1), _, rfl, hdouble, hf, by omega, fun _ => hnonneg⟩

/-- The rate of a declining balance is not negative, and one only if it is infinite or from one on. -/
theorem lt_one_of_not_le {q : Float} (hq : q.isFinite = true)
    (h : ¬ (Number.int 1).le (.float q) = true) : Binary64.signedUnits q < Binary64.unitsPerOne := by
  rw [Number.isExact_one.le_iff (Number.isExact_float hq), Number.signedUnits_one, not_le] at h
  exact h

/-- Whether a double can be a share of something: it is finite and not negative. -/
structure IsShare (p : Float) : Prop where
  finite : p.isFinite = true
  nonneg : 0 ≤ Binary64.signedUnits p

/-- The share of an amount that is left after periods at a rate below one. -/
theorem share_eq {cost k : Number} (hc : cost.toFloat = .ok cost.double) {x y : Float}
    (hx : Binary64.IsPositive x) (hx1 : Binary64.units x ≤ Binary64.unitsPerOne)
    (hlarge : 2 ^ 74 ≤ Binary64.units x) (hk : k.toFloat = .ok y) (hy : y.isFinite = true)
    (hlow : -Binary64.unitsPerOne ≤ Binary64.signedUnits y) :
    (Except.ok cost * (Except.ok (.float x) : Calculation) ^ (Except.ok k : Calculation)) =
      .ok (.float (cost.double * Binary64.pow x y)) ∧ IsShare (Binary64.pow x y) := by
  have hf := Binary64.isFinite_pow_of_neg hx hy hlow hlarge hx1
  have hpow := Number.powFloat_eq hf (by rw [Number.IsPositive.beq_zero hx, Bool.false_and])
  rw [Calculation.ok_pow, Number.float_pow hk, hpow, ok_bind, Calculation.ok_mul, Number.mul_float hc]
  exact ⟨rfl, hf, Binary64.signedUnits_pow_nonneg hx hy⟩

/-- The value at the start of a period: the cost itself in the first, nothing, or a share of the cost,
which is at most one from the first period on. -/
def IsStart (cost period old : Number) : Prop :=
  old = cost ∧ period.eq (.int 1) = true ∨ old = .float 0 ∨
    ∃ p, old = .float (cost.double * p) ∧ IsShare p ∧
      (period.lt (.int 1) = false → Binary64.units p ≤ Binary64.unitsPerOne)

/-- A rate that is short of one is a share. -/
theorem isShare_rate {life factor : Number} (hlife : Binary64.IsPositive life.double)
    (hfactor : Binary64.IsPositive factor.double)
    (hrate : ¬ (Number.int 1).le (.float (factor.double / life.double)) = true) :
    IsShare (factor.double / life.double) ∧
      Binary64.units (factor.double / life.double) < Binary64.unitsPerOne := by
  have hnonneg := Binary64.div_nonneg_of_nonneg hfactor.finite hlife.finite hfactor.pos.le hlife.pos
  have hq : (factor.double / life.double).isFinite = true := by
    by_contra hinf
    rw [Bool.not_eq_true] at hinf
    rw [Binary64.div_eq_infinity hfactor.finite hfactor.pos.le hlife hinf] at hrate
    exact hrate (by decide +kernel)
  have hlt := lt_one_of_not_le hq hrate
  have habs := Binary64.natAbs_signedUnits (factor.double / life.double)
  exact ⟨⟨hq, hnonneg⟩, by omega⟩

section Ends

variable {cost life period factor : Number} (hc : cost.toFloat = .ok cost.double)
  (hl : life.IsExact) (hl0 : life.le (.int 0) = false) (hp : period.IsExact)
  (hp0 : period.le (.int 0) = false) (hf : factor.IsExact)

include hc hl hl0 hp hp0 hf

/-- A rate from one on leaves nothing after the first period. -/
theorem decliningEnds_of_one_le
    (hrate : (Number.int 1).le (.float (factor.double / life.double)) = true) :
    ∃ old q, decliningEnds cost life period factor = .ok (old, .float (cost.double * q)) ∧
      IsStart cost period old ∧ IsShare q ∧ Binary64.units q = 0 := by
  have hperiod := hp.isPositive hp0
  have hlz : life.isZero = false := (Bool.or_eq_false_iff.mp hl0).2
  obtain ⟨hzf, hz⟩ := Binary64.pow_zero_left Binary64.isFinite_zero Binary64.signedUnits_zero hperiod
  have hneg : ¬ period.double < 0 := by
    have hpos := hperiod.pos
    rw [Binary64.lt_iff hperiod.finite Binary64.isFinite_zero, Binary64.signedUnits_zero]
    omega
  have hpow := Number.powFloat_eq hzf (by rw [decide_eq_false hneg, Bool.and_false])
  unfold decliningEnds
  rw [Calculation.ok_div, hf.div_eq hl hlz, ok_bind, ok_bind, if_pos hrate, Calculation.ok_pow,
    Number.float_pow hp.toFloat_eq, hpow, ok_bind, Calculation.ok_mul, Number.mul_float hc, ok_bind]
  refine ⟨_, _, rfl, ?_, ⟨hzf, hz.ge⟩, ?_⟩
  · split_ifs with hone
    · exact .inl ⟨rfl, hone⟩
    · exact .inr (.inl rfl)
  · rw [← Binary64.natAbs_signedUnits, hz, Int.natAbs_zero]

/-- A rate short of one leaves a share of the cost at both ends of a period. -/
theorem decliningEnds_of_lt_one (hf0 : factor.le (.int 0) = false)
    (hrate : ¬ (Number.int 1).le (.float (factor.double / life.double)) = true) :
    ∃ old q, decliningEnds cost life period factor = .ok (old, .float (cost.double * q)) ∧
      IsStart cost period old ∧ IsShare q ∧ Binary64.units q ≤ Binary64.unitsPerOne := by
  have hperiod := hp.isPositive hp0
  have hperiod0 := hperiod.pos.le
  have hlz : life.isZero = false := (Bool.or_eq_false_iff.mp hl0).2
  obtain ⟨⟨hq, hnonneg⟩, hlt⟩ := isShare_rate (hl.isPositive hl0) (hf.isPositive hf0) hrate
  obtain ⟨hpos, hle, hlarge⟩ := Binary64.one_sub_of_lt_one hq hnonneg hlt
  have hbase : (1 - Except.ok (.float (factor.double / life.double)) : Calculation) =
      Except.ok (.float (1 - factor.double / life.double)) := by
    rw [Calculation.one_eq, Calculation.ok_sub, Number.sub_float Number.toFloat_one]
  obtain ⟨k, y, hk, hky, hy, hlow, hy0⟩ := exists_sub_one hp hp0
  obtain ⟨hold, hshare⟩ := share_eq hc hpos hle hlarge hky hy hlow
  obtain ⟨hnew, hshare'⟩ := share_eq hc hpos hle hlarge hp.toFloat_eq hperiod.finite (by omega)
  unfold decliningEnds
  rw [Calculation.ok_div, hf.div_eq hl hlz, ok_bind, ok_bind, if_neg hrate, hbase, hk, hold, ok_bind,
    hnew, ok_bind]
  refine ⟨_, _, rfl, .inr (.inr ⟨_, rfl, hshare, fun hfirst => ?_⟩), hshare', ?_⟩
  · exact (Binary64.units_pow_le_one hpos hy (hy0 hfirst) hle).2
  · exact (Binary64.units_pow_le_one hpos hperiod.finite hperiod0 hle).2

/-- The values at both ends of a period, the second of which is a share of the cost. -/
theorem decliningEnds_eq (hf0 : factor.le (.int 0) = false) :
    ∃ old q, decliningEnds cost life period factor = .ok (old, .float (cost.double * q)) ∧
      IsStart cost period old ∧ IsShare q ∧ Binary64.units q ≤ Binary64.unitsPerOne := by
  by_cases hrate : (Number.int 1).le (.float (factor.double / life.double)) = true
  · obtain ⟨old, q, heq, hstart, hshare, hzero⟩ := decliningEnds_of_one_le hc hl hl0 hp hp0 hf hrate
    exact ⟨old, q, heq, hstart, hshare, hzero.trans_le (Nat.zero_le _)⟩
  · exact decliningEnds_of_lt_one hc hl hl0 hp hp0 hf hf0 hrate

end Ends

end Finance.Depreciation

end SheetFormulas
