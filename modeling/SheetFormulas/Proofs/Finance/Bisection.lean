import SheetFormulas.Proofs.Binary64.RoundingError
import SheetFormulas.Proofs.Finance.InterestRate
import SheetFormulas.Proofs.Number.ArithmeticFaults
import SheetFormulas.Proofs.Number.Signs

/-!
The halving of brackets of rates. As long as the signs of the worths at the low end and in the middle
can be told from their product, the half that is kept has a change of sign, or a solution at its high
end. It shrinks until two rates next to each other enclose the solution.
-/

namespace SheetFormulas.Finance.PaymentPlan

open Outcome Binary64

attribute [local irreducible] unitsPerOne

section Middles

variable {low high : Float}

theorem value_two : (2 : Float).isFinite = true ∧ value 2 = 2 := by
  have hunits : signedUnits 2 = 2 * unitsPerOne := by decide +kernel
  refine ⟨rfl, ?_⟩
  rw [value, hunits, Int.cast_mul, Int.cast_natCast,
    mul_div_cancel_right₀ _ unitsPerOne_rat_pos.ne']
  rfl

/-- The middle of two rates, up to rounding. -/
theorem value_middle_near (hl : low.isFinite = true) (hh : high.isFinite = true)
    (hmin : -1 ≤ value low) (hle : value low ≤ value high) (hmax : value high ≤ 5) :
    ((low + high) / 2).isFinite = true ∧
      |value ((low + high) / 2) - (value low + value high) / 2| ≤ 2 ^ (-50 : ℤ) := by
  obtain ⟨htwo, hvalue⟩ := value_two
  have hsize : |value low + value high| < 2 ^ (4 : ℤ) := by
    rw [abs_lt]
    norm_num
    constructor <;> linarith
  obtain ⟨hsum, hnear⟩ := value_add_near hl hh (by decide) (by decide) hsize
  have hbounds := abs_le.mp hnear
  norm_num at hbounds
  have hsize' : |value (low + high) / value 2| < 2 ^ (3 : ℤ) := by
    rw [hvalue, abs_lt]
    norm_num
    constructor <;> linarith [hbounds.1, hbounds.2]
  obtain ⟨hmiddle, hnear'⟩ := value_div_near hsum htwo (by rw [hvalue]; norm_num) (by decide)
    (by decide) hsize'
  rw [hvalue] at hnear'
  have hbounds' := abs_le.mp hnear'
  norm_num at hbounds'
  refine ⟨hmiddle, ?_⟩
  rw [abs_le]
  norm_num
  constructor <;> linarith [hbounds.1, hbounds.2, hbounds'.1, hbounds'.2]

/-- The distance at which a bracket is not halved any more. -/
theorem value_closeRates : (1e-12 : Float).isFinite = true ∧
    2 ^ (-40 : ℤ) + 2 ^ (-51 : ℤ) ≤ value 1e-12 ∧ value 1e-12 ≤ 1 / 10 ^ 12 := by
  have hU := unitsPerOne_rat_pos
  have hlow : (unitsPerOne : Int) * (2 ^ 11 + 1) ≤ signedUnits 1e-12 * 2 ^ 51 := by decide +kernel
  have hhigh : signedUnits 1e-12 * 10 ^ 12 ≤ (unitsPerOne : Int) := by decide +kernel
  refine ⟨by decide +kernel, ?_, ?_⟩
  · rw [value, le_div_iff₀ hU]
    have hlow' : (unitsPerOne : ℚ) * (2 ^ 11 + 1) ≤ signedUnits 1e-12 * 2 ^ 51 := by
      exact_mod_cast hlow
    norm_num at hlow' ⊢
    linarith
  · rw [value, div_le_iff₀ hU]
    have hhigh' : (signedUnits 1e-12 * 10 ^ 12 : ℚ) ≤ unitsPerOne := by exact_mod_cast hhigh
    norm_num at hhigh' ⊢
    linarith

/-- A bracket is closed where its ends are next to each other. -/
theorem width_le_of_closed (hl : low.isFinite = true) (hh : high.isFinite = true)
    (hsize : |value high - value low| < 2 ^ (3 : ℤ)) (h : high - low < 1e-12) :
    value high - value low ≤ 1 / 10 ^ 12 := by
  obtain ⟨hclose, hlower, hupper⟩ := value_closeRates
  obtain ⟨hf, -⟩ := value_sub_near hh hl (by decide) (by decide) hsize
  rw [value_lt_iff hf hclose] at h
  by_contra hwide
  rw [not_le] at hwide
  have hpos : 0 < value 1e-12 := lt_of_lt_of_le (by positivity) hlower
  exact (value_le_sub hh hl hclose hpos (hupper.trans hwide.le) hf).not_gt h

/-- What is not closed is wide enough to be halved. -/
theorem le_width_of_not_closed (hl : low.isFinite = true) (hh : high.isFinite = true)
    (hsize : |value high - value low| < 2 ^ (3 : ℤ)) (h : ¬ high - low < 1e-12) :
    2 ^ (-40 : ℤ) ≤ value high - value low := by
  obtain ⟨hclose, hlower, -⟩ := value_closeRates
  obtain ⟨hf, hnear⟩ := value_sub_near hh hl (by decide) (by decide) hsize
  rw [value_lt_iff hf hclose, not_lt] at h
  have hbounds := (abs_le.mp hnear).2
  norm_num at hbounds hlower ⊢
  linarith

end Middles

/-! The signs of worths. -/

section Worths

variable {v w middle product : Number}

/-- Whether two worths have opposite signs, or one of them is zero. -/
def Enclosing (v w : Number) : Prop :=
  v.isZero = true ∨ w.isZero = true ∨ v.lt (.int 0) = true ∧ (Number.int 0).lt w = true ∨
    (Number.int 0).lt v = true ∧ w.lt (.int 0) = true

/-- Whether two worths have the same sign. -/
def SameSign (v w : Number) : Prop :=
  v.lt (.int 0) = true ∧ w.lt (.int 0) = true ∨
    (Number.int 0).lt v = true ∧ (Number.int 0).lt w = true

/-- Whether the product of two worths that are not zero has no sign: it is too small for a double, or
one of them is no number. -/
structure Blurred (v w : Number) : Prop where
  left_ne : v.isZero = false
  right_ne : w.isZero = false
  product : ∃ product, v.mul w = .ok product ∧ product.lt (.int 0) = false ∧
    (Number.int 0).lt product = false

instance (v w : Number) : Decidable (Enclosing v w) := inferInstanceAs (Decidable (_ ∨ _ ∨ _ ∨ _))

instance (v w : Number) : Decidable (Blurred v w) :=
  decidable_of_iff (v.isZero = false ∧ w.isZero = false ∧ ¬ ∀ product, v.mul w = .ok product →
      ¬ (product.lt (.int 0) = false ∧ (Number.int 0).lt product = false))
    ⟨fun ⟨hv, hw, h⟩ => ⟨hv, hw, by simpa using h⟩,
      fun h => ⟨h.left_ne, h.right_ne, by simpa using h.product⟩⟩

theorem enclosing_of_mul_lt_zero (h : v.mul w = .ok product) (hp : product.lt (.int 0) = true) :
    Enclosing v w :=
  .inr (.inr (Number.opposite_of_mul_lt_zero h hp))

/-- The ends of a bracket that is not skipped. -/
theorem enclosing_or_blurred (hv : v.isZero = false) (h : v.mul w = .ok product)
    (hp : (Number.int 0).lt product = false) : Enclosing v w ∨ Blurred v w := by
  cases hw : w.isZero with
  | true => exact .inl (.inr (.inl hw))
  | false =>
    cases hneg : product.lt (.int 0) with
    | true => exact .inl (enclosing_of_mul_lt_zero h hneg)
    | false => exact .inr ⟨hv, hw, product, h, hneg, hp⟩

/-- A worth of the same sign can take the place of another. -/
theorem Enclosing.of_same (h : Enclosing v w) (hv : v.isZero = false) (hsame : SameSign v middle) :
    Enclosing middle w := by
  rcases h with hzero | hzero | ⟨hneg, hw⟩ | ⟨hpos, hw⟩
  · rw [hv] at hzero
    cases hzero
  · exact .inr (.inl hzero)
  · rcases hsame with ⟨-, hmiddle⟩ | ⟨hcontra, -⟩
    · exact .inr (.inr (.inl ⟨hmiddle, hw⟩))
    · exact absurd hcontra (Number.not_zero_lt_of_lt_zero hneg)
  · rcases hsame with ⟨hcontra, -⟩ | ⟨-, hmiddle⟩
    · exact absurd hpos (Number.not_zero_lt_of_lt_zero hcontra)
    · exact .inr (.inr (.inr ⟨hmiddle, hw⟩))

/-- The half that is kept where a product is not below zero. -/
theorem same_or_blurred (hv : v.isZero = false) (hw : w.isZero = false)
    (h : v.mul w = .ok product) (hp : product.lt (.int 0) = false) :
    SameSign v w ∨ Blurred v w := by
  cases hpos : (Number.int 0).lt product with
  | true => exact .inl (Number.same_of_zero_lt_mul h hpos)
  | false => exact .inr ⟨hv, hw, product, h, hp, hpos⟩

/-- A worth of zero is below the tolerance. -/
theorem lt_rateTolerance_of_isZero (h : v.isZero = true) :
    v.abs.lt (.float rateTolerance) = true := by
  have hfinite : rateTolerance.isFinite = true := by decide +kernel
  have hpos : 0 < signedUnits rateTolerance := by decide +kernel
  cases v with
  | int n =>
    rw [(Number.isZero_int n).mp h]
    exact (Number.isExact_zero.lt_iff (Number.isExact_float hfinite)).mpr
      (Number.signedUnits_zero.trans_lt hpos)
  | float x =>
    rw [Number.isZero_float, beq_zero_iff] at h
    obtain ⟨hx, hunits⟩ := h
    refine ((Number.isExact_float (isFinite_abs hx)).lt_iff (Number.isExact_float hfinite)).mpr ?_
    show signedUnits x.abs < signedUnits rateTolerance
    rwa [signedUnits_abs hx, ← natAbs_signedUnits, hunits]

end Worths

/-! The halving of a bracket. -/

/-- Whether a worth is that of an annuity at a rate. -/
def WorthAt (plan : PaymentPlan) (rate : Float) (value : Number) : Prop :=
  ∃ slope, plan.worth (.float rate) = .ok (value, slope)

/-- What the `n`th bracket has if no sign was lost. Its ends lie in the range that is halved, and it
is wide enough for its middle to lie inside. -/
structure Enclosure (plan : PaymentPlan) (low high : Float) (n : Nat) (bracket : Bracket) : Prop where
  finite_low : bracket.low.isFinite = true
  finite_high : bracket.high.isFinite = true
  low_le : value low ≤ value bracket.low
  le_high : value bracket.high ≤ value high
  wide : 2 ^ (-42 : ℤ) ≤ value bracket.high - value bracket.low
  narrow : value bracket.high - value bracket.low ≤ 6 / 2 ^ n + 2 ^ (-49 : ℤ)
  atLow : plan.WorthAt bracket.low bracket.atLow
  atLow_ne : bracket.atLow.isZero = false
  atHigh : ∃ w, plan.WorthAt bracket.high w ∧ Enclosing bracket.atLow w

/-- Whether a rate lies between two others that are next to each other in a range and enclose a
solution. -/
structure Pinned (plan : PaymentPlan) (low high rate a b : Float) : Prop where
  finite_left : a.isFinite = true
  finite_right : b.isFinite = true
  low_le : value low ≤ value a
  le_high : value b ≤ value high
  lt : value a < value b
  near : value b - value a ≤ 1 / 10 ^ 12
  left_le : value a ≤ value rate
  le_right : value rate ≤ value b
  encloses : ∃ v w, plan.WorthAt a v ∧ plan.WorthAt b w ∧ Enclosing v w

/-- Whether a rate in a range solves a plan: its worth is almost nothing, or it is pinned. -/
def Solves (plan : PaymentPlan) (low high rate : Float) : Prop :=
  (∃ v, plan.WorthAt rate v ∧ v.abs.lt (.float rateTolerance) = true) ∨
    ∃ a b, plan.Pinned low high rate a b

/-- Whether the halving of a range, with its worths at both ends, loses the sign of a worth: the first
one is zero, or the wrong way is taken because a product has no sign. -/
inductive LosesSign (plan : PaymentPlan) (low high : Float) (atLow atHigh : Number) : Prop where
  | zero : atLow.isZero = true → LosesSign plan low high atLow atHigh
  | ends : Blurred atLow atHigh → ¬ Enclosing atLow atHigh → LosesSign plan low high atLow atHigh
  | halving {n : Nat} {bracket : Bracket} {v : Number} : n < halvings →
      Visits plan.halve ⟨low, high, atLow⟩ n bracket → plan.WorthAt bracket.middle v →
      Blurred bracket.atLow v → ¬ SameSign bracket.atLow v →
      LosesSign plan low high atLow atHigh

section Halvings

variable {plan : PaymentPlan} {low high : Float} {n : Nat} {bracket half : Bracket} {rate : Float}

/-- Where the halving of a bracket ends. -/
theorem halve_eq_inl (h : plan.halve bracket = .ok (.inl rate)) :
    rate = bracket.middle ∧ ∃ v, plan.WorthAt bracket.middle v ∧
      (v.abs.lt (.float rateTolerance) = true ∨ bracket.high - bracket.low < 1e-12) := by
  obtain ⟨⟨v, slope⟩, hworth, h⟩ := bind_eq_ok_iff.mp h
  dsimp only at h
  split_ifs at h with hdone
  · cases h
    refine ⟨rfl, v, ⟨slope, hworth⟩, ?_⟩
    simpa only [Bool.or_eq_true, decide_eq_true_eq] using hdone
  · obtain ⟨product, -, h⟩ := bind_eq_ok_iff.mp h
    split_ifs at h <;> cases h

/-- How the halving of a bracket goes on. -/
theorem halve_eq_inr (h : plan.halve bracket = .ok (.inr half)) :
    ∃ v product, plan.WorthAt bracket.middle v ∧ v.abs.lt (.float rateTolerance) = false ∧
      ¬ bracket.high - bracket.low < 1e-12 ∧ bracket.atLow.mul v = .ok product ∧
      (product.lt (.int 0) = true ∧ half = ⟨bracket.low, bracket.middle, bracket.atLow⟩ ∨
        product.lt (.int 0) = false ∧ half = ⟨bracket.middle, bracket.high, v⟩) := by
  obtain ⟨⟨v, slope⟩, hworth, h⟩ := bind_eq_ok_iff.mp h
  dsimp only at h
  split_ifs at h with hdone
  · cases h
  · simp only [Bool.or_eq_true, decide_eq_true_eq, not_or, Bool.not_eq_true] at hdone
    obtain ⟨product, hproduct, h⟩ := bind_eq_ok_iff.mp h
    refine ⟨v, product, ⟨slope, hworth⟩, hdone.1, hdone.2, hproduct, ?_⟩
    split_ifs at h with hneg
    · cases h
      exact .inl ⟨hneg, rfl⟩
    · cases h
      exact .inr ⟨Bool.eq_false_iff.mpr hneg, rfl⟩

/-- A worth of zero at the low end is left behind. -/
theorem halve_leaves_zero (hz : bracket.atLow.isZero = true)
    (h : plan.halve bracket = .ok (.inr half)) :
    half.low = bracket.middle ∧ half.high = bracket.high := by
  obtain ⟨v, product, -, -, -, hproduct, ⟨hneg, -⟩ | ⟨-, rfl⟩⟩ := halve_eq_inr h
  · obtain ⟨u, hu, hsign⟩ := Number.exists_sign?_of_mul_lt_zero hproduct hneg
    rw [(Number.isZero_iff_sign? _).mp hz] at hsign
    exact absurd (Option.some.inj hsign).symm hu
  · exact ⟨rfl, rfl⟩

/-- Whether a range is one of those whose middles are worked out without much error. -/
structure Modest (low high : Float) : Prop where
  finite_low : low.isFinite = true
  finite_high : high.isFinite = true
  min : -1 ≤ value low
  max : value high ≤ 5
  wide : 2 ^ (-42 : ℤ) ≤ value high - value low

/-- Whether a bracket lies in a range and is wide enough for its middle to lie inside. -/
structure Nested (low high : Float) (bracket : Bracket) : Prop where
  finite_low : bracket.low.isFinite = true
  finite_high : bracket.high.isFinite = true
  low_le : value low ≤ value bracket.low
  le_high : value bracket.high ≤ value high
  wide : 2 ^ (-42 : ℤ) ≤ value bracket.high - value bracket.low

theorem Enclosure.nested (he : plan.Enclosure low high n bracket) : Nested low high bracket :=
  ⟨he.finite_low, he.finite_high, he.low_le, he.le_high, he.wide⟩

namespace Nested

variable (hn : Nested low high bracket) (hm : Modest low high)

include hn hm

theorem width_lt : |value bracket.high - value bracket.low| < 2 ^ (3 : ℤ) := by
  have hmin := hm.min
  have hmax := hm.max
  have hwide := hn.wide
  have hlow := hn.low_le
  have hhigh := hn.le_high
  rw [abs_lt]
  norm_num at hwide ⊢
  constructor <;> linarith

/-- The middle of a bracket lies inside it, half of its width from the ends. -/
theorem middle_spec : bracket.middle.isFinite = true ∧
    value bracket.low ≤ value bracket.middle ∧ value bracket.middle ≤ value bracket.high ∧
    |value bracket.middle - (value bracket.low + value bracket.high) / 2| ≤ 2 ^ (-50 : ℤ) := by
  have hwide := hn.wide
  norm_num at hwide
  obtain ⟨hf, hnear⟩ := value_middle_near hn.finite_low hn.finite_high (hm.min.trans hn.low_le)
    (by linarith) (hn.le_high.trans hm.max)
  have hbounds := abs_le.mp hnear
  norm_num at hbounds
  refine ⟨hf, ?_, ?_, hnear⟩
  · rw [Bracket.middle]
    linarith [hbounds.1]
  · rw [Bracket.middle]
    linarith [hbounds.2]

/-- Either half of a bracket that is not closed lies in the range too, whatever the signs are. -/
theorem of_halve (h : plan.halve bracket = .ok (.inr half)) : Nested low high half := by
  obtain ⟨v, product, -, -, hopen, -, hcases⟩ := halve_eq_inr h
  obtain ⟨hf, hlow, hhigh, hnear⟩ := hn.middle_spec hm
  have hwide := le_width_of_not_closed hn.finite_low hn.finite_high (hn.width_lt hm) hopen
  have hbounds := abs_le.mp hnear
  norm_num at hwide hbounds
  rcases hcases with ⟨-, rfl⟩ | ⟨-, rfl⟩
  · refine ⟨hn.finite_low, hf, hn.low_le, hhigh.trans hn.le_high, ?_⟩
    norm_num
    linarith [hbounds.1]
  · refine ⟨hf, hn.finite_high, hn.low_le.trans hlow, hn.le_high, ?_⟩
    norm_num
    linarith [hbounds.2]

end Nested

namespace Enclosure

variable (he : plan.Enclosure low high n bracket) (hm : Modest low high)

include he hm

/-- A bracket ends at a solution. -/
theorem solves (h : plan.halve bracket = .ok (.inl rate)) : plan.Solves low high rate := by
  obtain ⟨rfl, v, hworth, hsmall | hclosed⟩ := halve_eq_inl h
  · exact .inl ⟨v, hworth, hsmall⟩
  · obtain ⟨-, hlow, hhigh, -⟩ := he.nested.middle_spec hm
    obtain ⟨w, hw, henclosing⟩ := he.atHigh
    have hpos : (0 : ℚ) < 2 ^ (-42 : ℤ) := by positivity
    exact .inr ⟨bracket.low, bracket.high, he.finite_low, he.finite_high, he.low_le, he.le_high,
      sub_pos.mp (hpos.trans_le he.wide),
      width_le_of_closed he.finite_low he.finite_high (he.nested.width_lt hm) hclosed, hlow, hhigh,
      bracket.atLow, w, he.atLow, hw, henclosing⟩

/-- The half that is kept encloses a solution too, unless the sign in the middle is lost. -/
theorem of_halve (h : plan.halve bracket = .ok (.inr half)) :
    plan.Enclosure low high (n + 1) half ∨
      ∃ v, plan.WorthAt bracket.middle v ∧ Blurred bracket.atLow v ∧
        ¬ SameSign bracket.atLow v := by
  have hnested := he.nested.of_halve hm h
  obtain ⟨v, product, hworth, hlarge, -, hproduct, hcases⟩ := halve_eq_inr h
  obtain ⟨-, -, -, hnear⟩ := he.nested.middle_spec hm
  have hnarrow := he.narrow
  have hhalf : (6 : ℚ) / 2 ^ (n + 1) = 6 / 2 ^ n / 2 := by
    rw [pow_succ, div_div]
  have hbounds := abs_le.mp hnear
  norm_num at hnarrow hbounds
  have hv : v.isZero = false := by
    rw [Bool.eq_false_iff]
    intro hzero
    rw [lt_rateTolerance_of_isZero hzero] at hlarge
    cases hlarge
  obtain ⟨w, hw, henclosing⟩ := he.atHigh
  rcases hcases with ⟨hneg, rfl⟩ | ⟨hneg, rfl⟩
  -- the lower half, with a change of sign in the middle
  · refine .inl ⟨hnested.finite_low, hnested.finite_high, hnested.low_le, hnested.le_high,
      hnested.wide, ?_, he.atLow, he.atLow_ne, v, hworth, enclosing_of_mul_lt_zero hproduct hneg⟩
    rw [hhalf]
    norm_num
    linarith [hbounds.2]
  -- the upper half, where the middle has the sign of the low end
  · by_cases hsame : SameSign bracket.atLow v
    · refine .inl ⟨hnested.finite_low, hnested.finite_high, hnested.low_le, hnested.le_high,
        hnested.wide, ?_, hworth, hv, w, hw, henclosing.of_same he.atLow_ne hsame⟩
      rw [hhalf]
      norm_num
      linarith [hbounds.1]
    · have hblurred := (same_or_blurred he.atLow_ne hv hproduct hneg).resolve_left hsame
      exact .inr ⟨v, hworth, hblurred, hsame⟩

end Enclosure

/-- All brackets that a range is halved to enclose a solution, as long as no sign is lost. -/
theorem enclosure_of_visits {atLow atHigh : Number} (hm : Modest low high)
    (hstart : plan.Enclosure low high 0 ⟨low, high, atLow⟩)
    (hkept : ¬ plan.LosesSign low high atLow atHigh) (hn : n ≤ halvings)
    (h : Visits plan.halve ⟨low, high, atLow⟩ n bracket) : plan.Enclosure low high n bracket := by
  -- along the halvings: each of them keeps the enclosure or loses a sign
  induction h with
  | start => exact hstart
  | next hvisits hstep ih =>
    rcases (ih (Nat.le_of_succ_le hn)).of_halve hm hstep with
      hnext | ⟨v, hworth, hblurred, hdiffer⟩
    · exact hnext
    · exact absurd (.halving hn hvisits hworth hblurred hdiffer) hkept

/-- The halving of a range ends at a solution, unless it loses a sign. -/
theorem solves_of_bisect {atLow atHigh : Number} (hm : Modest low high)
    (hstart : plan.Enclosure low high 0 ⟨low, high, atLow⟩)
    (hkept : ¬ plan.LosesSign low high atLow atHigh)
    (h : plan.bisect low high atLow halvings = .ok rate) : plan.Solves low high rate := by
  rw [bisect_eq_loop] at h
  rcases loop_eq_ok h with ⟨n, hn, bracket, hvisits, hstep⟩ | ⟨bracket, hvisits, -⟩
  · exact (enclosure_of_visits hm hstart hkept hn.le hvisits).solves hm hstep
  · -- so often no bracket is halved
    have he := enclosure_of_visits hm hstart hkept le_rfl hvisits
    have hwide := he.wide
    have hnarrow := he.narrow
    rw [halvings] at hnarrow
    norm_num at hwide hnarrow
    linarith

end Halvings

/-! The ranges that are halved. -/

theorem modest_of_units {low high : Float} (hl : low.isFinite = true) (hh : high.isFinite = true)
    (hmin : -(unitsPerOne : Int) ≤ signedUnits low) (hmax : signedUnits high ≤ 5 * unitsPerOne)
    (hwide : (unitsPerOne : Int) ≤ (signedUnits high - signedUnits low) * 2 ^ 42) :
    Modest low high := by
  have hU := unitsPerOne_rat_pos
  refine ⟨hl, hh, ?_, ?_, ?_⟩
  · rw [value, le_div_iff₀ hU, neg_one_mul]
    exact_mod_cast hmin
  · rw [value, div_le_iff₀ hU]
    exact_mod_cast hmax
  · have hwide' : (unitsPerOne : ℚ) ≤ (signedUnits high - signedUnits low) * 2 ^ 42 := by
      exact_mod_cast hwide
    rw [value, value, ← sub_div, le_div_iff₀ hU]
    norm_num at hwide' ⊢
    linarith

theorem modest_of_mem_brackets : ∀ range ∈ brackets, Modest range.1 range.2 := by
  have hunits : ∀ range ∈ brackets, range.1.isFinite = true ∧ range.2.isFinite = true ∧
      -(unitsPerOne : Int) ≤ signedUnits range.1 ∧ signedUnits range.2 ≤ 5 * unitsPerOne ∧
      (unitsPerOne : Int) ≤ (signedUnits range.2 - signedUnits range.1) * 2 ^ 42 := by
    decide +kernel
  intro range hmem
  obtain ⟨hl, hh, hmin, hmax, hwide⟩ := hunits range hmem
  exact modest_of_units hl hh hmin hmax hwide

theorem far_of_mem_brackets : ∀ range ∈ brackets,
    (Number.float range.1).abs.lt (.float 1e-10) = false ∧
      (Number.float range.2).abs.lt (.float 1e-10) = false := by
  decide +kernel

section Ranges

variable {plan : PaymentPlan} {low high rate : Float} {v w product : Number}
variable {ranges : List (Float × Float)}

theorem worthAt_of_ends? (h : plan.ends? low high = .ok (some (v, w))) :
    plan.WorthAt low v ∧ plan.WorthAt high w := by
  obtain ⟨atLow, hlow, h⟩ := bind_eq_ok_iff.mp h
  cases atLow with
  | none => cases h
  | some atLow =>
    obtain ⟨atHigh, hhigh, h⟩ := bind_eq_ok_iff.mp h
    cases atHigh with
    | none => cases h
    | some atHigh =>
      cases h
      exact ⟨⟨_, worth?_eq_some_iff.mp hlow⟩, ⟨_, worth?_eq_some_iff.mp hhigh⟩⟩

/-- The range that is halved is the first whose ends have no product above zero. -/
theorem exists_of_bisectFirst (h : plan.bisectFirst ranges = .ok (some rate)) :
    ∃ low high v w product, (low, high) ∈ ranges ∧ plan.ends? low high = .ok (some (v, w)) ∧
      v.mul w = .ok product ∧ (Number.int 0).lt product = false ∧
      plan.bisect low high v halvings = .ok rate := by
  induction ranges with
  | nil => cases h
  | cons range rest ih =>
    obtain ⟨low, high⟩ := range
    have hrest (h : plan.bisectFirst rest = .ok (some rate)) :
        ∃ low' high' v w product, (low', high') ∈ (low, high) :: rest ∧
          plan.ends? low' high' = .ok (some (v, w)) ∧ v.mul w = .ok product ∧
          (Number.int 0).lt product = false ∧ plan.bisect low' high' v halvings = .ok rate := by
      obtain ⟨low', high', v, w, product, hmem, hfound⟩ := ih h
      exact ⟨low', high', v, w, product, List.mem_cons_of_mem _ hmem, hfound⟩
    obtain ⟨ends, hends, h⟩ := bind_eq_ok_iff.mp h
    cases ends with
    | none => exact hrest h
    | some ends =>
      obtain ⟨v, w⟩ := ends
      obtain ⟨product, hproduct, h⟩ := bind_eq_ok_iff.mp h
      split_ifs at h with hpos
      · exact hrest h
      · obtain ⟨result, hresult, h⟩ := bind_eq_ok_iff.mp h
        cases h
        exact ⟨low, high, v, w, product, List.mem_cons_self, hends, hproduct,
          Bool.eq_false_iff.mpr hpos, hresult⟩

/-- The first bracket of a range encloses a solution, unless a sign is lost there. -/
theorem enclosure_of_ends (hm : Modest low high) (hv : plan.WorthAt low v) (hw : plan.WorthAt high w)
    (hproduct : v.mul w = .ok product) (hp : (Number.int 0).lt product = false)
    (hkept : ¬ plan.LosesSign low high v w) : plan.Enclosure low high 0 ⟨low, high, v⟩ := by
  have hne : v.isZero = false := by
    rw [Bool.eq_false_iff]
    exact fun hzero => hkept (.zero hzero)
  have hmin := hm.min
  have hmax := hm.max
  refine ⟨hm.finite_low, hm.finite_high, le_rfl, le_rfl, hm.wide, ?_, hv, hne, w, hw, ?_⟩
  · norm_num
    linarith
  · by_contra hopen
    exact hkept (.ends ((enclosing_or_blurred hne hproduct hp).resolve_left hopen) hopen)

/-! A worth can only fail in its arithmetic. -/

theorem worthAtZero_computes (plan : PaymentPlan) : plan.worthAtZero.Computes fun _ => True := by
  open Calculation in
  have hvalue : Computes (Number.DoubleIf false)
      (plan.present + plan.payment * plan.periods + plan.future : Calculation) :=
    computes_add (computes_add (computes_ok _) (computes_mul (computes_ok _) (computes_ok _)))
      (computes_ok _)
  have hslope : Computes (Number.DoubleIf true)
      (-plan.payment * plan.periods * (plan.periods + 1) / 2
        + plan.payment * plan.advance * plan.periods - plan.future * plan.periods : Calculation) :=
    computes_sub
      (computes_add
        (computes_div (computes_mul (computes_mul (computes_neg (computes_ok _)) (computes_ok _))
          (computes_add (computes_ok _) (computes_ok _))) (computes_ok _))
        (computes_mul (computes_mul (computes_ok _) (computes_ok _)) (computes_ok _)))
      (computes_mul (computes_ok _) (computes_ok _))
  exact hvalue.bind fun _ _ => hslope.bind fun _ _ => trivial

/-- A worth is a double, unless the rate is almost zero. -/
theorem worth_computes (plan : PaymentPlan) (rate : Number) :
    (plan.worth rate).Computes fun worth =>
      rate.abs.lt (.float 1e-10) = false → worth.1.DoubleIf true := by
  open Calculation in
  unfold worth
  split_ifs with hzero
  · rw [← bind_pure plan.worthAtZero]
    exact (worthAtZero_computes plan).bind fun _ _ hfar => absurd hzero (by rw [hfar]; decide)
  have hgrowth : Computes (Number.DoubleIf false) (1 + rate : Calculation) :=
    computes_add (computes_ok _) (computes_ok _)
  refine (computes_pow hgrowth (computes_ok _)).bind fun discount _ => ?_
  refine (Number.isFinite_computes discount).bind fun _ _ =>
    computes_ite (fun _ => computes_overflow) fun _ => ?_
  have hrest : Computes (Number.DoubleIf false) (1 - discount : Calculation) :=
    computes_sub (computes_ok _) (computes_ok _)
  refine (computes_div hrest (computes_ok rate)).bind fun factor hfactor => ?_
  have hfactorSlope : Computes (Number.DoubleIf true)
      (plan.periods * discount / (rate * (1 + rate))
        - (1 - discount) / rate ^ (2 : Calculation) : Calculation) :=
    computes_sub
      (computes_div (computes_mul (computes_ok _) (computes_ok _))
        (computes_mul (computes_ok _) hgrowth))
      (computes_div hrest (computes_pow (computes_ok _) (computes_ok _)))
  refine hfactorSlope.bind fun factorSlope _ => ?_
  have hadjusted : Computes (Number.DoubleIf false)
      (plan.payment * (1 + rate * plan.advance) : Calculation) :=
    computes_mul (computes_ok _)
      (computes_add (computes_ok _) (computes_mul (computes_ok _) (computes_ok _)))
  refine hadjusted.bind fun adjusted _ => ?_
  have hok : Computes (Number.DoubleIf true) (Except.ok factor : Calculation) := hfactor
  have hvalue : Computes (Number.DoubleIf true)
      (plan.present + adjusted * factor + plan.future * discount : Calculation) :=
    computes_add (computes_add (computes_ok _) (computes_mul (computes_ok _) hok))
      (computes_mul (computes_ok _) (computes_ok _))
  refine hvalue.bind fun value hvalue => ?_
  have hslope : Computes (Number.DoubleIf true)
      (adjusted * factorSlope + plan.payment * plan.advance * factor
        - plan.future * plan.periods * discount / (1 + rate) : Calculation) :=
    computes_sub
      (computes_add (computes_mul (computes_ok _) (computes_ok _))
        (computes_mul (computes_mul (computes_ok _) (computes_ok _)) hok))
      (computes_div (computes_mul (computes_mul (computes_ok _) (computes_ok _)) (computes_ok _))
        hgrowth)
  exact hslope.bind fun _ _ _ => hvalue

theorem exists_worth? (plan : PaymentPlan) (rate : Number) :
    ∃ worth, plan.worth? rate = .ok worth := by
  have hcomputes := worth_computes plan rate
  unfold worth?
  generalize plan.worth rate = outcome at hcomputes
  cases outcome with
  | ok worth => exact ⟨_, rfl⟩
  | error fault =>
    rcases hcomputes with rfl | rfl
    · exact ⟨_, rfl⟩
    · exact ⟨_, rfl⟩

theorem exists_ends? (plan : PaymentPlan) (low high : Float) :
    ∃ ends, plan.ends? low high = .ok ends := by
  obtain ⟨atLow, hlow⟩ := exists_worth? plan (.float low)
  obtain ⟨atHigh, hhigh⟩ := exists_worth? plan (.float high)
  rw [ends?, hlow, hhigh]
  cases atLow with
  | none => exact ⟨_, rfl⟩
  | some atLow =>
    cases atHigh with
    | none => exact ⟨_, rfl⟩
    | some atHigh => exact ⟨_, rfl⟩

/-- The worth at a rate that is not almost zero is a double. -/
theorem WorthAt.exists_float (h : plan.WorthAt rate v)
    (hr : (Number.float rate).abs.lt (.float 1e-10) = false) : ∃ x, v = .float x := by
  obtain ⟨slope, hworth⟩ := h
  have hcomputes := worth_computes plan (.float rate)
  rw [hworth] at hcomputes
  exact hcomputes hr rfl

/-- Ranges are skipped whose ends enclose nothing and have a product with a sign. -/
theorem bisectFirst_eq_none
    (hfar : ∀ range ∈ ranges, (Number.float range.1).abs.lt (.float 1e-10) = false ∧
      (Number.float range.2).abs.lt (.float 1e-10) = false)
    (h : ∀ low high, (low, high) ∈ ranges → ∀ v w, plan.WorthAt low v → plan.WorthAt high w →
      ¬ Enclosing v w ∧ ¬ Blurred v w) : plan.bisectFirst ranges = .ok none := by
  induction ranges with
  | nil => rfl
  | cons range rest ih =>
    obtain ⟨low, high⟩ := range
    have hrest := ih (fun range hmem => hfar range (List.mem_cons_of_mem _ hmem))
      fun low high hmem => h low high (List.mem_cons_of_mem _ hmem)
    obtain ⟨ends, hends⟩ := exists_ends? plan low high
    rw [bisectFirst, hends, ok_bind]
    cases ends with
    | none => exact hrest
    | some ends =>
      obtain ⟨v, w⟩ := ends
      obtain ⟨hv, hw⟩ := worthAt_of_ends? hends
      obtain ⟨hlow, hhigh⟩ := hfar _ List.mem_cons_self
      obtain ⟨x, rfl⟩ := hv.exists_float hlow
      obtain ⟨y, rfl⟩ := hw.exists_float hhigh
      obtain ⟨hopen, hsharp⟩ := h low high List.mem_cons_self _ _ hv hw
      have hproduct : (Number.float x).mul (.float y) = .ok (.float (x * y)) := rfl
      have hpos : (Number.int 0).lt (.float (x * y)) = true := by
        by_contra hpos
        have hne : (Number.float x).isZero = false := by
          rw [Bool.eq_false_iff]
          exact fun hzero => hopen (.inl hzero)
        rcases enclosing_or_blurred hne hproduct (Bool.eq_false_iff.mpr hpos) with henclosing | hblurred
        · exact hopen henclosing
        · exact hsharp hblurred
      dsimp only
      rw [hproduct, ok_bind, if_pos hpos]
      exact hrest

end Ranges

/-- The rate that the halving of ranges comes to solves the plan, unless a sign is lost: its worth is
almost nothing, or it lies between two rates next to each other that enclose a solution. If no range
encloses one by the worths at its ends, and no sign is lost there, there is no such rate. -/
theorem bisection_keeps_solution_unless_sign_lost (plan : PaymentPlan) :
    (∀ rate, plan.bisectFirst brackets = .ok (some rate) →
      ∃ low high v w, (low, high) ∈ brackets ∧ plan.WorthAt low v ∧ plan.WorthAt high w ∧
        (plan.Solves low high rate ∨ plan.LosesSign low high v w)) ∧
    ((∀ low high, (low, high) ∈ brackets → ∀ v w, plan.WorthAt low v → plan.WorthAt high w →
      ¬ Enclosing v w ∧ ¬ Blurred v w) → plan.bisectFirst brackets = .ok none) := by
  constructor
  · intro rate h
    obtain ⟨low, high, v, w, product, hmem, hends, hproduct, hp, hbisect⟩ := exists_of_bisectFirst h
    obtain ⟨hv, hw⟩ := worthAt_of_ends? hends
    have hm := modest_of_mem_brackets _ hmem
    refine ⟨low, high, v, w, hmem, hv, hw, or_iff_not_imp_right.mpr fun hkept => ?_⟩
    exact solves_of_bisect hm (enclosure_of_ends hm hv hw hproduct hp hkept) hkept hbisect
  · exact bisectFirst_eq_none far_of_mem_brackets

/-- A loan that is not paid back in full. -/
def lossyLoan : PaymentPlan := ⟨.int 1, .int 0, .int (-1), .float 0.7575, .int 0⟩

/-- Payments in only, which no rate balances. -/
def paymentsIn : PaymentPlan := ⟨.int 1, .int 1, .int 1, .int 1, .int 0⟩

theorem bisection_keeps_solution_of_lossyLoan :
    (∃ low high v w, (low, high) ∈ brackets ∧ lossyLoan.WorthAt low v ∧ lossyLoan.WorthAt high w ∧
      (lossyLoan.Solves low high (-0.2425) ∨ lossyLoan.LosesSign low high v w)) ∧
    paymentsIn.bisectFirst brackets = .ok none := by
  have hbisect : lossyLoan.bisectFirst brackets = .ok (some (-0.2425)) := by
    decide +kernel
  have hends : ∀ range ∈ brackets,
      ∀ atLow, paymentsIn.worth (.float range.1) = .ok atLow →
      ∀ atHigh, paymentsIn.worth (.float range.2) = .ok atHigh →
        ¬ Enclosing atLow.1 atHigh.1 ∧ ¬ Blurred atLow.1 atHigh.1 := by decide +kernel
  refine ⟨(bisection_keeps_solution_unless_sign_lost lossyLoan).1 _ hbisect,
    (bisection_keeps_solution_unless_sign_lost paymentsIn).2 ?_⟩
  rintro low high hmem v w ⟨slope, hv⟩ ⟨slope', hw⟩
  exact hends (low, high) hmem _ hv _ hw

end SheetFormulas.Finance.PaymentPlan
