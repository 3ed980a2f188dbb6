import SheetFormulas.Proofs.Finance.Depreciation
import SheetFormulas.Proofs.Number.Differences
import SheetFormulas.Session

/-!
What a declining balance takes off. It is never negative, and it is at most what the asset can lose,
unless the value at the start of the period is above the cost. That is only so within the first
period: the power with a negative exponent is above one there.
-/

namespace SheetFormulas

open Outcome

attribute [local irreducible] Binary64.unitsPerOne

namespace Binary64

open Float.Model

variable {x y : Float}

/-- The double above all numbers. -/
def infinity : Float := Float.ofBits 0x7ff0000000000000

/-- A product of doubles that are not negative is not negative, or above all numbers. -/
theorem mul_nonneg_or_infinity (hx : x.isFinite = true) (hy : y.isFinite = true)
    (hx0 : 0 ≤ signedUnits x) (hy0 : 0 ≤ signedUnits y) :
    (x * y).isFinite = true ∧ 0 ≤ signedUnits (x * y) ∨ x * y = infinity := by
  cases hf : (x * y).isFinite with
  | true => exact .inl ⟨rfl, mul_nonneg_of_nonneg hx hy hx0 hy0⟩
  | false =>
    right
    have hpos : 0 < units x * units y := by
      by_contra hzero
      have hle := (units_mul_le hx hy isFinite_zero (by omega)).1
      rw [hf] at hle
      cases hle
    have hsign {v : Float} (hv0 : 0 ≤ signedUnits v) (hv : 0 < units v) : isNegative v = false := by
      rw [← Bool.not_eq_true]
      exact fun hneg => hv.ne' (units_eq_zero_of_isNegative hneg hv0)
    rw [mul_eq hx hy, hsign hx0 (Nat.pos_of_mul_pos_right hpos),
      hsign hy0 (Nat.pos_of_mul_pos_left hpos)] at hf ⊢
    exact ofRatio_eq_infinity hf

theorem infinity_sub (hy : y.isFinite = true) : infinity - y = infinity := by
  apply eq_of_toNat_toBits
  show (UnpackedFloat.pack Format.binary64
    (UnpackedFloat.sub Format.binary64 (unpacked infinity) (unpacked y))).toNat = _
  rw [unpacked_of_finite hy, show unpacked infinity = .infinity .positive from rfl]
  split <;> rfl

end Binary64

namespace Number

open Binary64 (infinity)

variable {a b cost salvage : Number}

/-- Whether an amount is at most what an asset can lose, in doubles. -/
def Within (amount cost salvage : Number) : Prop :=
  ∃ x, amount.toFloat = .ok x ∧ x ≤ cost.double - salvage.double

/-- The double of a difference of whole numbers that are doubles. -/
theorem ofInt_sub {m n : Int} (hm : (int m).IsExact) (hn : (int n).IsExact) :
    Binary64.ofInt (m - n) = (int m).double - (int n).double := by
  have hpos := unitsPerOne_pos
  have hy := Binary64.isFinite_neg hn.isFinite_double
  have hsum : Binary64.signedUnits (int m).double + Binary64.signedUnits (-(int n).double) =
      (m - n) * (Binary64.unitsPerOne : Int) := by
    rw [Binary64.signedUnits_neg hn.isFinite_double, hm.signedUnits_double, hn.signedUnits_double]
    exact (Int.sub_mul m n _).symm
  rw [Binary64.sub_eq_add_neg hm.isFinite_double hn.isFinite_double,
    Binary64.add_eq hm.isFinite_double hy, hsum]
  apply Binary64.eq_of_magnitude
  · rw [Binary64.ofInt, Binary64.isNegative_ofRatio, Binary64.isNegative_ofRatio]
    rcases eq_or_ne m n with rfl | hne
    · rw [Binary64.sumIsNegative, hsum, Binary64.isNegative_neg hn.isFinite_double]
      simp
    · have hdiff : m - n ≠ 0 := by omega
      rw [Binary64.sumIsNegative_of_ne (hsum ▸ Int.mul_ne_zero hdiff hpos.ne'), hsum]
      exact decide_eq_decide.mpr
        ⟨fun h => Int.mul_neg_of_neg_of_pos h hpos, fun h => neg_of_mul_neg_left h hpos.le⟩
  · rw [Binary64.ofInt, Binary64.magnitude_ofRatio, Binary64.magnitude_ofRatio,
      Binary64.nearestBits_unitsPerOne, Binary64.nearestBits_eq, Int.natAbs_mul, Int.natAbs_natCast]

/-- Finite numbers that are doubles, and not negative. -/
structure IsWorth (a : Number) : Prop where
  exact : a.IsExact
  nonneg : 0 ≤ a.signedUnits

namespace IsWorth

theorem signedUnits_double (h : a.IsWorth) : 0 ≤ Binary64.signedUnits a.double :=
  h.exact.signedUnits_double ▸ h.nonneg

theorem isFinite_sub (ha : a.IsWorth) (hb : b.IsWorth) : (a.double - b.double).isFinite = true :=
  Binary64.isFinite_sub_of_nonneg ha.exact.isFinite_double hb.exact.isFinite_double
    ha.signedUnits_double hb.signedUnits_double

/-- A difference is that of the doubles. -/
theorem sub_eq (ha : a.IsWorth) (hb : b.IsWorth) :
    ∃ d, a.sub b = .ok d ∧ d.toFloat = .ok (a.double - b.double) := by
  cases b with
  | float y => exact ⟨_, sub_float ha.exact.toFloat_eq, rfl⟩
  | int n =>
    cases a with
    | float x => exact ⟨_, float_sub hb.exact.toFloat_eq, rfl⟩
    | int m =>
      refine ⟨int (m - n), rfl, ?_⟩
      have hf := ha.isFinite_sub hb
      rw [← ofInt_sub ha.exact hb.exact] at hf ⊢
      show (if (Binary64.ofInt (m - n)).isInf then _ else _) = _
      rw [Binary64.not_isInf_of_isFinite hf]
      rfl

/-- A difference of less is within a difference of more. -/
theorem within_of_sub {d : Number} (ha : a.IsWorth) (hb : b.IsWorth) (hc : cost.IsWorth)
    (hs : salvage.IsWorth) (hac : a.signedUnits ≤ cost.signedUnits)
    (hsb : salvage.signedUnits ≤ b.signedUnits) (hd : d.toFloat = .ok (a.double - b.double)) :
    d.Within cost salvage := by
  refine ⟨_, hd, ?_⟩
  have ha' := ha.exact.signedUnits_double
  have hb' := hb.exact.signedUnits_double
  have hc' := hc.exact.signedUnits_double
  have hs' := hs.exact.signedUnits_double
  rw [Binary64.le_iff (ha.isFinite_sub hb) (hc.isFinite_sub hs)]
  exact Binary64.signedUnits_sub_mono ha.exact.isFinite_double hb.exact.isFinite_double
    hc.exact.isFinite_double hs.exact.isFinite_double (ha.isFinite_sub hb) (hc.isFinite_sub hs)
    (by omega)

theorem within_zero (hc : cost.IsWorth) (hs : salvage.IsWorth)
    (hsc : salvage.signedUnits ≤ cost.signedUnits) : (float 0).Within cost salvage := by
  refine ⟨0, rfl, ?_⟩
  have hf := hc.isFinite_sub hs
  have hs' := hs.exact.isFinite_double
  rw [Binary64.le_iff Binary64.isFinite_zero hf, Binary64.signedUnits_zero]
  rw [Binary64.sub_eq_add_neg hc.exact.isFinite_double hs'] at hf ⊢
  refine Binary64.add_nonneg_of_nonneg hc.exact.isFinite_double (Binary64.isFinite_neg hs') ?_ hf
  rw [Binary64.signedUnits_neg hs', hc.exact.signedUnits_double, hs.exact.signedUnits_double]
  omega

end IsWorth

/-- A number that is less than nothing is replaced by nothing. -/
theorem zero_le_max (h : a.isNaN = false) : (int 0).le (a.max (float 0)) = true := by
  unfold max
  split_ifs with hlt
  · decide +kernel
  · obtain ⟨value, hvalue⟩ := exists_exactValue h
    have hzero : (float 0).exactValue? = some (0, 0) := exactValue?_float Binary64.isFinite_zero
    rw [lt_iff] at hlt
    refine (le_iff _ _).mpr ⟨_, _, exactValue?_int 0, hvalue, ?_⟩
    rw [Int.zero_mul]
    by_contra hle
    exact hlt ⟨_, _, hvalue, hzero, not_le.mp hle⟩

theorem isNaN_of_toFloat {x : Float} (h : a.toFloat = .ok x) (hx : x.isFinite = true) :
    a.isNaN = false := by
  cases a with
  | int n => rfl
  | float y =>
    cases h
    exact Binary64.not_isNaN_of_isFinite hx

/-- What is taken off from one worth to another. -/
theorem IsWorth.taken_spec (ha : a.IsWorth) (hb : b.IsWorth) :
    ∃ d, a.sub b = .ok d ∧ (int 0).le (d.max (float 0)) = true ∧
      ∀ {cost salvage : Number}, cost.IsWorth → salvage.IsWorth →
        a.signedUnits ≤ cost.signedUnits → salvage.signedUnits ≤ b.signedUnits →
        salvage.signedUnits ≤ cost.signedUnits → (d.max (float 0)).Within cost salvage := by
  obtain ⟨d, hd, hx⟩ := ha.sub_eq hb
  refine ⟨d, hd, zero_le_max (isNaN_of_toFloat hx (ha.isFinite_sub hb)), ?_⟩
  intro cost salvage hc hs hac hsb hsc
  unfold max
  split_ifs
  · exact hc.within_zero hs hsc
  · exact ha.within_of_sub hb hc hs hac hsb hx

theorem isWorth_zero : (float 0).IsWorth :=
  ⟨isExact_float Binary64.isFinite_zero, Binary64.signedUnits_zero.ge⟩

theorem isWorth_of_not_lt (h : a.IsExact) (hl : a.lt (int 0) = false) : a.IsWorth := by
  rw [← Bool.not_eq_true, h.lt_iff isExact_zero, signedUnits_zero, not_lt] at hl
  exact ⟨h, hl⟩

theorem lt_infinity (h : a.IsExact) : a.lt (float infinity) = true := by
  have hinf : (float infinity).exactValue? = some (1, 0) := rfl
  refine (lt_iff _ _).mpr ⟨_, _, h.exactValue?_eq, hinf, ?_⟩
  exact Prod.Lex.toLex_lt_toLex.mpr (.inl Int.zero_lt_one)

/-- Nothing above all numbers is left out. -/
theorem infinity_taken (hb : b.IsWorth) :
    (float infinity).sub b = .ok (float infinity) ∧
      (int 0).le ((float infinity).max (float 0)) = true := by
  refine ⟨?_, by decide +kernel⟩
  rw [float_sub hb.exact.toFloat_eq, Binary64.infinity_sub hb.exact.isFinite_double]

end Number

namespace Finance.Depreciation

open Number (IsWorth)

variable {cost salvage life period factor : Number}

/-- The numbers that a declining balance accepts, where they are doubles. -/
structure Accepted (cost salvage life period factor : Number) : Prop where
  exact : ∀ a ∈ [cost, salvage, life, period, factor], a.IsExact
  cost_nonneg : cost.lt (.int 0) = false
  salvage_nonneg : salvage.lt (.int 0) = false
  life_pos : life.le (.int 0) = false
  period_pos : period.le (.int 0) = false
  period_le : life.lt period = false
  factor_pos : factor.le (.int 0) = false

/-- Whether the value at the start of a period is above the cost, as it can be within the first. -/
structure StartsAboveCost (cost life period factor : Number) : Prop where
  partialPeriod : period.lt (.int 1) = true
  above : ∃ start next, decliningEnds cost life period factor = .ok (start, next) ∧
    cost.lt start = true

namespace Accepted

variable (h : Accepted cost salvage life period factor)

include h

theorem isWorth_cost : cost.IsWorth :=
  Number.isWorth_of_not_lt (h.exact cost (by simp)) h.cost_nonneg

theorem isWorth_salvage : salvage.IsWorth :=
  Number.isWorth_of_not_lt (h.exact salvage (by simp)) h.salvage_nonneg

end Accepted

/-- A value at the start that is not above the cost, or else the period is within the first. -/
theorem start_cases {start : Number} (hc : cost.IsWorth) (h : IsStart cost period start) :
    start.IsWorth ∧ start.signedUnits ≤ cost.signedUnits ∨
      period.lt (.int 1) = true ∧ cost.lt start = true ∧
        (start.IsWorth ∨ start = .float Binary64.infinity) := by
  rcases h with ⟨rfl, -⟩ | rfl | ⟨p, rfl, hp, hp1⟩
  · exact .inl ⟨hc, le_rfl⟩
  · exact .inl ⟨Number.isWorth_zero, Binary64.signedUnits_zero.trans_le hc.nonneg⟩
  have hcf := hc.exact.isFinite_double
  cases hfirst : period.lt (.int 1) with
  | false =>
    have hp1 := hp1 hfirst
    have hamount := Binary64.mul_nonneg_of_nonneg hcf hp.finite hc.signedUnits_double hp.nonneg
    obtain ⟨hf, hle⟩ := Binary64.units_mul_le_left hcf hp.finite hp1
    have hunits := hc.exact.units_double
    have habs := Binary64.natAbs_signedUnits (cost.double * p)
    have hcost := hc.nonneg
    refine .inl ⟨⟨Number.isExact_float hf, hamount⟩, ?_⟩
    show Binary64.signedUnits (cost.double * p) ≤ _
    omega
  | true =>
    rcases Binary64.mul_nonneg_or_infinity hcf hp.finite hc.signedUnits_double hp.nonneg with
      ⟨hf, hnonneg⟩ | hinf
    · have hworth : (Number.float (cost.double * p)).IsWorth := ⟨Number.isExact_float hf, hnonneg⟩
      rcases le_or_gt (Number.float (cost.double * p)).signedUnits cost.signedUnits with hle | hgt
      · exact .inl ⟨hworth, hle⟩
      · exact .inr ⟨rfl, (hc.exact.lt_iff hworth.exact).mpr hgt, .inl hworth⟩
    · rw [hinf]
      exact .inr ⟨rfl, Number.lt_infinity hc.exact, .inr rfl⟩

/-- What is taken off in a period that is accepted. -/
theorem declining_spec (h : Accepted cost salvage life period factor) (hle : salvage.le cost = true) :
    ∃ amount, declining cost salvage life period factor = .ok amount ∧
      (Number.int 0).le amount = true ∧
      (amount.Within cost salvage ∨ StartsAboveCost cost life period factor) := by
  have hc := h.isWorth_cost
  have hs := h.isWorth_salvage
  have hsc : salvage.signedUnits ≤ cost.signedUnits := (hs.exact.le_iff hc.exact).mp hle
  obtain ⟨start, q, heq, hstart, hq, hq1⟩ := decliningEnds_eq hc.exact.toFloat_eq
    (h.exact life (by simp)) h.life_pos (h.exact period (by simp)) h.period_pos
    (h.exact factor (by simp)) h.factor_pos
  have hnew : (Number.float (cost.double * q)).IsWorth :=
    ⟨Number.isExact_float (Binary64.units_mul_le_left hc.exact.isFinite_double hq.finite hq1).1,
      Binary64.mul_nonneg_of_nonneg hc.exact.isFinite_double hq.finite hc.signedUnits_double hq.nonneg⟩
  unfold declining
  rw [heq, ok_bind]
  dsimp only
  rcases start_cases hc hstart with ⟨hworth, hle⟩ | ⟨hfirst, habove, hcases⟩
  · obtain ⟨d, hd, hd0, hwithin⟩ := hworth.taken_spec hs
    obtain ⟨e, he, he0, hwithin'⟩ := hworth.taken_spec hnew
    split_ifs with hclamped
    · rw [hd]
      exact ⟨_, rfl, hd0, .inl (hwithin hc hs hle le_rfl hsc)⟩
    · rw [hnew.exact.lt_iff hs.exact, not_lt] at hclamped
      rw [he]
      exact ⟨_, rfl, he0, .inl (hwithin' hc hs hle hclamped hsc)⟩
  · have hstarts : StartsAboveCost cost life period factor := ⟨hfirst, _, _, heq, habove⟩
    have htaken {b : Number} (hb : b.IsWorth) :
        ∃ d, start.sub b = .ok d ∧ (Number.int 0).le (d.max (.float 0)) = true := by
      rcases hcases with hworth | rfl
      · obtain ⟨d, hd, hd0, -⟩ := hworth.taken_spec hb
        exact ⟨d, hd, hd0⟩
      · obtain ⟨hd, hd0⟩ := Number.infinity_taken hb
        exact ⟨_, hd, hd0⟩
    obtain ⟨d, hd, hd0⟩ := htaken hs
    obtain ⟨e, he, he0⟩ := htaken hnew
    split_ifs
    · rw [hd]
      exact ⟨_, rfl, hd0, .inr hstarts⟩
    · rw [he]
      exact ⟨_, rfl, he0, .inr hstarts⟩

theorem decliningBalance_eq (h : Accepted cost salvage life period factor) :
    decliningBalance (.number cost) (.number salvage) (.number life) (.number period)
      (.number factor) = declining cost salvage life period factor := by
  have hnumber {a : Number} (ha : a ∈ [cost, salvage, life, period, factor]) :
      (Value.number a).toNumber = .ok a :=
    Value.toNumber_number (Number.isNaN_of_toFloat (h.exact a ha).toFloat_eq (h.exact a ha).isFinite_double)
  rw [decliningBalance, hnumber (a := cost) (by simp), ok_bind, hnumber (a := salvage) (by simp), ok_bind,
    hnumber (a := life) (by simp), ok_bind, hnumber (a := period) (by simp), ok_bind,
    hnumber (a := factor) (by simp), ok_bind, h.cost_nonneg, h.salvage_nonneg, h.life_pos,
    h.period_pos, h.period_le, h.factor_pos]
  rfl

/-- Calls of the declining balance, with the factor that they take. -/
inductive DecliningCall (cost salvage life period : Number) : List Value → Number → Prop where
  | double : DecliningCall cost salvage life period
      [.number cost, .number salvage, .number life, .number period] (.int 2)
  | multiple (factor : Number) : DecliningCall cost salvage life period
      [.number cost, .number salvage, .number life, .number period, .number factor] factor

/-- What a declining balance takes off is not negative, and it is at most the cost without the salvage
value, unless the value that the period starts from is above the cost, as it can be only in a part of
the first period. -/
theorem declining_amount_within_unless_partial (context : Context) {arguments : List Value}
    (hcall : DecliningCall cost salvage life period arguments factor)
    (h : Accepted cost salvage life period factor) (hle : salvage.le cost = true) :
    ∃ amount, (Catalog.standard.call context "DDB" arguments []).Yields (.ok (.number amount)) [] ∧
      (Number.int 0).le amount = true ∧
      (amount.Within cost salvage ∨ StartsAboveCost cost life period factor) := by
  obtain ⟨amount, heq, hnonneg, hwithin⟩ := declining_spec h hle
  rw [← decliningBalance_eq h] at heq
  refine ⟨amount, ?_, hnonneg, hwithin⟩
  cases hcall with
  | double => exact Catalog.standard_call_yields_ok rfl rfl rfl rfl heq
  | multiple => exact Catalog.standard_call_yields_ok rfl rfl rfl rfl heq

/-- In the first half of a period more is taken off than there is to take. -/
theorem declining_amount_above_in_half_period :
    let context := Environment.contextAt ⟨Catalog.standard, [], ⟨⟨2024, 1, 15⟩, .midnight⟩⟩ 1
    let arguments : List Value := [.ofInt 1000, .ofInt 850, .ofInt 10, .ofFloat 0.5]
    (Catalog.standard.call context "DDB" arguments []).Yields (.ok (.ofFloat 223.60679774997902)) [] ∧
      ¬ (Number.float 223.60679774997902).Within (.int 1000) (.int 850) ∧
      StartsAboveCost (.int 1000) (.int 10) (.float 0.5) (.int 2) := by
  intro context arguments
  have haccepted : Accepted (.int 1000) (.int 850) (.int 10) (.float 0.5) (.int 2) := by
    refine ⟨?_, by decide +kernel, by decide +kernel, by decide +kernel, by decide +kernel,
      by decide +kernel, by decide +kernel⟩
    have hwhole {n : Int} (h : n.natAbs ≤ 2 ^ 53) : (Number.int n).IsExact := Number.IsDatum.isExact h
    simp only [List.forall_mem_cons, List.not_mem_nil, false_imp_iff, implies_true, and_true]
    exact ⟨hwhole (by decide), hwhole (by decide), hwhole (by decide),
      Number.isExact_float (by decide +kernel), hwhole (by decide)⟩
  have hamount : declining (.int 1000) (.int 850) (.int 10) (.float 0.5) (.int 2) =
      .ok (.float 223.60679774997902) := by
    have hcheck : (match declining (.int 1000) (.int 850) (.int 10) (.float 0.5) (.int 2) with
      | .ok (.float x) => decide (x = 223.60679774997902)
      | _ => false) = true := by decide +kernel
    split at hcheck
    next x hx => rw [hx, of_decide_eq_true hcheck]
    next => cases hcheck
  have habove : ¬ (Number.float 223.60679774997902).Within (.int 1000) (.int 850) := by
    rintro ⟨x, hx, hle⟩
    cases hx
    exact absurd hle (by decide +kernel)
  rw [← decliningBalance_eq haccepted] at hamount
  have hcall : (Catalog.standard.call context "DDB" arguments []).Yields
      (.ok (.ofFloat 223.60679774997902)) [] :=
    Catalog.standard_call_yields_ok rfl rfl rfl rfl hamount
  obtain ⟨amount, hyields, -, hwithin⟩ :=
    declining_amount_within_unless_partial context .double haccepted (by decide +kernel)
  cases (hcall.unique hyields).1
  exact ⟨hcall, habove, hwithin.resolve_left habove⟩

end Finance.Depreciation

end SheetFormulas
