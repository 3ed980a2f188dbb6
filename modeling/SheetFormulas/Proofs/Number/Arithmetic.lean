import SheetFormulas.Number.Calculation
import SheetFormulas.Proofs.Binary64.Power
import SheetFormulas.Proofs.Number.ExactValue
import SheetFormulas.Proofs.Run.Answers

/-!
Arithmetic of numbers whose whole ones stay within the range of doubles. Such calculations do not
fail, unless they divide by zero; and finite numbers compare as their exact values.
-/

namespace SheetFormulas

open Outcome

-- the number of units has 324 digits, and no proof looks at them
attribute [local irreducible] Binary64.unitsPerOne

namespace Number

/-- Whether the number becomes a finite double. -/
def IsFinite (a : Number) : Prop := a.isFinite = .ok true

/-- Doubles of any kind, and whole numbers with a limited number of places. -/
def Sized (places : Nat) : Number → Prop
  | int n => n.natAbs ≤ 2 ^ places
  | float _ => True

/-- The data of calculations: finite doubles, and whole numbers that doubles hold exactly. -/
def IsDatum : Number → Prop
  | int n => n.natAbs ≤ 2 ^ 53
  | float x => x.isFinite = true

/-- The double of a number that has one. -/
def double : Number → Float
  | int n => Binary64.ofInt n
  | float x => x

/-- The exact value in units, of a finite number. -/
def signedUnits : Number → Int
  | int n => n * (Binary64.unitsPerOne : Int)
  | float x => Binary64.signedUnits x

variable {a b : Number} {p q : Nat}

theorem Sized.mono (h : a.Sized p) (hpq : p ≤ q) : a.Sized q := by
  cases a with
  | int n => exact Nat.le_trans h (Nat.pow_le_pow_right (by decide) hpq)
  | float x => trivial

theorem natAbs_lt_of_le {n : Int} (h : n.natAbs ≤ 2 ^ p) (hp : p ≤ 1000) : n.natAbs < 2 ^ 1023 :=
  h.trans_lt (pow_lt_pow_right₀ (by decide) (by omega))

theorem Sized.toFloat_eq (h : a.Sized p) (hp : p ≤ 1000) : a.toFloat = .ok a.double := by
  cases a with
  | int n => exact toFloat_int n (natAbs_lt_of_le h hp)
  | float x => rfl

theorem Sized.isFinite_iff (h : a.Sized p) (hp : p ≤ 1000) :
    a.IsFinite ↔ a.double.isFinite = true := by
  have heq : a.isFinite = .ok a.double.isFinite := by
    rw [isFinite, h.toFloat_eq hp]
    rfl
  rw [IsFinite, heq, Except.ok.injEq]

theorem isFinite_float (x : Float) : (float x).IsFinite ↔ x.isFinite = true :=
  Sized.isFinite_iff (p := 0) trivial (by decide)

theorem isFinite_of_sized_int {n : Int} (h : (int n).Sized p) (hp : p ≤ 1000) : (int n).IsFinite :=
  isFinite_int n (natAbs_lt_of_le h hp)

/-- Whether a number is a finite double, or a whole number that is exactly one. -/
structure IsExact (a : Number) : Prop where
  toFloat_eq : a.toFloat = .ok a.double
  isFinite_double : a.double.isFinite = true
  signedUnits_double : Binary64.signedUnits a.double = a.signedUnits

theorem isExact_float {x : Float} (hx : x.isFinite = true) : (float x).IsExact := ⟨rfl, hx, rfl⟩

/-- A whole number whose units fit in a significand is exactly its double. -/
theorem isExact_int {n : Int} {m e : Nat} (hm : m < 2 ^ 53) (he : e ≤ 2045)
    (h : n.natAbs * Binary64.unitsPerOne = m * 2 ^ e) : (int n).IsExact := by
  obtain ⟨hf, hunits⟩ := Binary64.units_ofRatio_exact (n < 0) Nat.one_pos hm he
    (show n.natAbs * Binary64.unitsPerOne = m * 2 ^ e * 1 by rw [Nat.mul_one, h])
  refine ⟨?_, hf, ?_⟩
  · have hinf := Binary64.not_isInf_of_isFinite hf
    show (if (Binary64.ofRatio (n < 0) n.natAbs 1).isInf then _ else _) = _
    rw [hinf]
    rfl
  · show Binary64.signedUnits (Binary64.ofRatio (n < 0) n.natAbs 1) = n * Binary64.unitsPerOne
    rw [Binary64.signedUnits_ofRatio, hunits, ← h]
    push_cast
    split_ifs with hneg
    · have hneg' : n < 0 := by simpa using hneg
      rw [abs_of_neg hneg']
      ring
    · have hneg' : ¬ n < 0 := by simpa using hneg
      rw [abs_of_nonneg (by omega)]

theorem IsDatum.isExact (h : a.IsDatum) : a.IsExact := by
  cases a with
  | float x => exact isExact_float h
  | int n =>
    have hle : n.natAbs ≤ 2 ^ 53 := h
    rcases hle.lt_or_eq with hlt | heq
    · refine isExact_int (e := 1074) hlt (by decide) ?_
      rw [Binary64.unitsPerOne_eq]
    · refine isExact_int (m := 2 ^ 52) (e := 1075) (by decide) (by decide) ?_
      rw [Binary64.unitsPerOne_eq, heq, ← pow_add, ← pow_add]

theorem IsDatum.sized (h : a.IsDatum) : a.Sized 53 := by
  cases a with
  | int n => exact h
  | float x => trivial

theorem IsExact.isFinite (h : a.IsExact) : a.IsFinite := by
  rw [IsFinite, Number.isFinite, h.toFloat_eq, ok_bind, h.isFinite_double]
  rfl

/-! The order of finite numbers. -/

theorem exactValue?_float {x : Float} (hx : x.isFinite = true) :
    (float x).exactValue? = some (0, Binary64.signedUnits x) := by
  unfold exactValue?
  dsimp only
  rw [Binary64.not_isNaN_of_isFinite hx, Binary64.not_isInf_of_isFinite hx]
  rfl

theorem IsExact.exactValue?_eq (h : a.IsExact) : a.exactValue? = some (0, a.signedUnits) := by
  cases a with
  | int n => rfl
  | float x => exact exactValue?_float h.isFinite_double

theorem IsExact.lt_iff (ha : a.IsExact) (hb : b.IsExact) :
    a.lt b = true ↔ a.signedUnits < b.signedUnits := by
  rw [Number.lt_iff, ha.exactValue?_eq, hb.exactValue?_eq]
  simp [Prod.Lex.toLex_lt_toLex]

theorem IsExact.le_iff (ha : a.IsExact) (hb : b.IsExact) :
    a.le b = true ↔ a.signedUnits ≤ b.signedUnits := by
  rw [Number.le_iff, ha.exactValue?_eq, hb.exactValue?_eq]
  simp [Prod.Lex.toLex_le_toLex]

theorem IsExact.eq_iff (ha : a.IsExact) (hb : b.IsExact) :
    a.eq b = true ↔ a.signedUnits = b.signedUnits := by
  rw [eq, beq_iff_eq, compare?_eq_some_iff, ha.exactValue?_eq, hb.exactValue?_eq]
  simp

theorem isDatum_zero : (int 0).IsDatum := Nat.zero_le _

theorem isDatum_one : (int 1).IsDatum := show (1 : Int).natAbs ≤ 2 ^ 53 by decide

theorem isExact_zero : (int 0).IsExact := isDatum_zero.isExact

theorem isExact_one : (int 1).IsExact := isDatum_one.isExact

theorem signedUnits_zero : (int 0).signedUnits = 0 := Int.zero_mul _

theorem signedUnits_one : (int 1).signedUnits = Binary64.unitsPerOne := Int.one_mul _

theorem IsExact.isZero_iff (h : a.IsExact) : a.isZero = true ↔ a.signedUnits = 0 := by
  rw [isZero, h.eq_iff isExact_zero, signedUnits_zero]

theorem isZero_float (x : Float) : (float x).isZero = (x == 0) := by
  rw [Bool.eq_iff_iff, Binary64.beq_zero_iff, isZero, eq, beq_iff_eq, compare?_eq_some_iff]
  simp only [exactValue?_int, Int.zero_mul, Option.some.injEq, cmp_eq_eq_iff]
  constructor
  · rintro ⟨value, zero, hx, rfl, heq⟩
    have hvalue : value = (0, 0) := toLex.injective heq
    subst hvalue
    obtain ⟨hf, hu⟩ := exactValue?_of_finite hx rfl
    exact ⟨hf, hu.symm⟩
  · rintro ⟨hx, hu⟩
    exact ⟨(0, 0), (0, 0), by rw [exactValue?_float hx, hu], rfl, rfl⟩

theorem isZero_int (n : Int) : (int n).isZero = true ↔ n = 0 := by
  rw [isZero, eq, beq_iff_eq, compare?_eq_some_iff]
  have hne := Binary64.unitsPerOne_pos.ne'
  simp [exactValue?_int, toLex.injective.eq_iff, hne]

/-- A number above zero becomes a double above zero. -/
theorem IsExact.isPositive (h : a.IsExact) (hp : a.le (int 0) = false) :
    Binary64.IsPositive a.double := by
  rw [← Bool.not_eq_true, h.le_iff isExact_zero, signedUnits_zero, not_le] at hp
  exact ⟨h.isFinite_double, h.signedUnits_double ▸ hp⟩

/-! Calculations that do not fail. -/

theorem double_beq_zero (h : a.isZero = false) : (a.double == 0) = false := by
  cases a with
  | int n => exact Binary64.ofInt_beq_zero (fun hn => by rw [(isZero_int n).mpr hn] at h; cases h)
  | float x => rwa [← isZero_float]

/-- The quotient of doubles after conversions that succeed. -/
theorem quotient_of_doubles {x y : Float} (ha : a.toFloat = .ok x) (hb : b.toFloat = .ok y)
    (hz : (y == 0) = false) :
    (do
      let x ← a.toFloat
      let y ← b.toFloat
      if y == 0 then fail .zeroDivision else return x / y : Outcome Float) = .ok (x / y) := by
  rw [ha, hb]
  simp only [ok_bind, hz]
  rfl

/-! An operand that is a double makes the operation one on doubles. -/

theorem add_float {x y : Float} (ha : a.toFloat = .ok x) : a.add (float y) = .ok (float (x + y)) := by
  have hadd : a.add (float y) = do return float ((← a.toFloat) + (← (float y).toFloat)) := by
    cases a <;> rfl
  rw [hadd, ha]
  rfl

theorem sub_float {x y : Float} (ha : a.toFloat = .ok x) : a.sub (float y) = .ok (float (x - y)) := by
  have hsub : a.sub (float y) = do return float ((← a.toFloat) - (← (float y).toFloat)) := by
    cases a <;> rfl
  rw [hsub, ha]
  rfl

theorem mul_float {x y : Float} (ha : a.toFloat = .ok x) : a.mul (float y) = .ok (float (x * y)) := by
  have hmul : a.mul (float y) = do return float ((← a.toFloat) * (← (float y).toFloat)) := by
    cases a <;> rfl
  rw [hmul, ha]
  rfl

theorem float_sub {x y : Float} (hb : b.toFloat = .ok y) : (float x).sub b = .ok (float (x - y)) := by
  have hsub : (float x).sub b = do return float ((← (float x).toFloat) - (← b.toFloat)) := by
    cases b <;> rfl
  rw [hsub, hb]
  rfl

theorem float_add {x y : Float} (hb : b.toFloat = .ok y) : (float x).add b = .ok (float (x + y)) := by
  have hadd : (float x).add b = do return float ((← (float x).toFloat) + (← b.toFloat)) := by
    cases b <;> rfl
  rw [hadd, hb]
  rfl

theorem float_mul {x y : Float} (hb : b.toFloat = .ok y) : (float x).mul b = .ok (float (x * y)) := by
  have hmul : (float x).mul b = do return float ((← (float x).toFloat) * (← b.toFloat)) := by
    cases b <;> rfl
  rw [hmul, hb]
  rfl

theorem float_div_of_zero {x y : Float} (hz : (y == 0) = true) :
    (float x).div (float y) = fail .zeroDivision := by
  have hdiv : (float x).div (float y) = if y == 0 then fail .zeroDivision else return x / y := rfl
  rw [hdiv, hz]
  rfl

/-- An operation on doubles after conversions that succeed. -/
theorem answers_of_doubles {f : Float → Float → Float} (ha : a.Sized p) (hb : b.Sized q)
    (hp : p ≤ 1000) (hq : q ≤ 1000) (places : Nat) :
    (do return float (f (← a.toFloat) (← b.toFloat)) : Outcome Number).Answers (Sized places) := by
  rw [ha.toFloat_eq hp, hb.toFloat_eq hq]
  trivial

theorem add_answers (ha : a.Sized p) (hb : b.Sized p) (hp : p ≤ 1000) :
    (a.add b).Answers (Sized (p + 1)) := by
  cases a <;> cases b
  case int.int m n =>
    show (m + n).natAbs ≤ 2 ^ (p + 1)
    have hm : m.natAbs ≤ 2 ^ p := ha
    have hn : n.natAbs ≤ 2 ^ p := hb
    rw [pow_succ]
    omega
  all_goals exact answers_of_doubles ha hb hp hp _

theorem sub_answers (ha : a.Sized p) (hb : b.Sized p) (hp : p ≤ 1000) :
    (a.sub b).Answers (Sized (p + 1)) := by
  cases a <;> cases b
  case int.int m n =>
    show (m - n).natAbs ≤ 2 ^ (p + 1)
    have hm : m.natAbs ≤ 2 ^ p := ha
    have hn : n.natAbs ≤ 2 ^ p := hb
    rw [pow_succ]
    omega
  all_goals exact answers_of_doubles ha hb hp hp _

theorem mul_answers (ha : a.Sized p) (hb : b.Sized q) (hp : p ≤ 1000) (hq : q ≤ 1000) :
    (a.mul b).Answers (Sized (p + q)) := by
  cases a <;> cases b
  case int.int m n =>
    show (m * n).natAbs ≤ 2 ^ (p + q)
    rw [Int.natAbs_mul, pow_add]
    exact Nat.mul_le_mul ha hb
  all_goals exact answers_of_doubles ha hb hp hq _

theorem Sized.neg (h : a.Sized p) : a.neg.Sized p := by
  cases a with
  | int n =>
    show (-n).natAbs ≤ 2 ^ p
    rw [Int.natAbs_neg]
    exact h
  | float x => trivial

/-- A quotient of whole numbers that is not too large does not overflow. -/
theorem div_int {m n : Int} (hm : (int m).Sized p) (hp : p ≤ 1000) (hn : n ≠ 0) :
    ∃ x, (int m).div (int n) = .ok x ∧ x.isFinite = true := by
  have hf : (Binary64.ofRatio ((m < 0) != (n < 0)) m.natAbs n.natAbs).isFinite = true := by
    rw [Binary64.isFinite_ofRatio_iff]
    refine Binary64.nearestBits_lt _ _ (by omega) ((natAbs_lt_of_le hm hp).trans_le ?_)
    exact Nat.le_mul_of_pos_right _ (by omega)
  refine ⟨_, ?_, hf⟩
  rw [div]
  dsimp only
  rw [if_neg hn, Binary64.not_isInf_of_isFinite hf]
  rfl

/-- Only a division by zero fails. -/
theorem div_answers (ha : a.Sized p) (hb : b.Sized q) (hp : p ≤ 1000) (hq : q ≤ 1000)
    (hz : b.isZero = false) : (a.div b).Answers fun _ => True := by
  have hquotient := quotient_of_doubles (ha.toFloat_eq hp) (hb.toFloat_eq hq) (double_beq_zero hz)
  cases a <;> cases b
  case int.int m n =>
    have hn : n ≠ 0 := fun hn => by
      rw [(isZero_int n).mpr hn] at hz
      cases hz
    obtain ⟨x, hx, -⟩ := div_int ha hp hn
    rw [hx]
    trivial
  all_goals
    refine Eq.subst hquotient.symm ?_
    trivial

theorem IsExact.units_double (h : a.IsExact) :
    Binary64.units a.double = a.signedUnits.natAbs := by
  rw [← h.signedUnits_double, Binary64.natAbs_signedUnits]

theorem IsExact.units_double_pos (h : a.IsExact) (hz : a.isZero = false) :
    0 < Binary64.units a.double := by
  have hne : a.signedUnits ≠ 0 := fun heq => by
    rw [h.isZero_iff.mpr heq] at hz
    cases hz
  rw [h.units_double]
  omega

/-- The quotient of numbers that are exactly doubles is the quotient of the doubles. -/
theorem IsExact.div_eq (ha : a.IsExact) (hb : b.IsExact) (hz : b.isZero = false) :
    a.div b = .ok (a.double / b.double) := by
  have hquotient := quotient_of_doubles ha.toFloat_eq hb.toFloat_eq (double_beq_zero hz)
  cases a <;> cases b
  case int.int m n =>
    have hn : n ≠ 0 := fun hn => by
      rw [(isZero_int n).mpr hn] at hz
      cases hz
    have hm := ha.units_double
    have hpos := hb.units_double_pos hz
    have hn' := hb.units_double
    have heq : (int m).double / (int n).double =
        Binary64.ofRatio ((m < 0) != (n < 0)) m.natAbs n.natAbs := by
      rw [Binary64.div_eq ha.isFinite_double hb.isFinite_double hpos.ne', hm, hn']
      show Binary64.ofRatio (Binary64.isNegative (Binary64.ofInt m) !=
        Binary64.isNegative (Binary64.ofInt n)) (m * (Binary64.unitsPerOne : Int)).natAbs
        (n * (Binary64.unitsPerOne : Int)).natAbs = _
      rw [Binary64.ofInt, Binary64.ofInt, Binary64.isNegative_ofRatio, Binary64.isNegative_ofRatio,
        Int.natAbs_mul, Int.natAbs_mul, Int.natAbs_natCast]
      apply Binary64.ofRatio_congr
      rw [Binary64.nearestBits_eq, Binary64.nearestBits_eq, Nat.mul_right_comm,
        Binary64.nearestUnits_mul_mul _ _ Binary64.unitsPerOne_pos]
    have hf : (Binary64.ofRatio ((m < 0) != (n < 0)) m.natAbs n.natAbs).isFinite = true := by
      refine (Binary64.ofRatio_le _ (by omega) ha.isFinite_double ?_).1
      rw [hm]
      show m.natAbs * _ ≤ (m * (Binary64.unitsPerOne : Int)).natAbs * n.natAbs
      rw [Int.natAbs_mul, Int.natAbs_natCast]
      exact Nat.le_mul_of_pos_right _ (by omega)
    rw [div, heq]
    dsimp only
    rw [if_neg hn, Binary64.not_isInf_of_isFinite hf]
    rfl
  all_goals exact hquotient

/-! Powers. -/

/-- A power that is finite does not fail, unless the exponent of zero is negative. -/
theorem powFloat_eq {x y : Float} (h : (Binary64.pow x y).isFinite = true)
    (hz : (x == 0 && y < 0) = false) : powFloat x y = .ok (Binary64.pow x y) := by
  unfold powFloat
  dsimp only
  rw [hz, h, if_pos rfl, if_neg Bool.false_ne_true]
  exact ite_self _

theorem IsPositive.beq_zero {x : Float} (hx : Binary64.IsPositive x) : (x == 0) = false := by
  rw [← Bool.not_eq_true, Binary64.beq_zero_iff]
  exact fun h => hx.pos.ne' h.2

theorem float_pow {x y : Float} (hb : b.toFloat = .ok y) :
    (float x).pow b = powFloat x y >>= fun r => Except.ok (float r) := by
  have hpow : (float x).pow b = do return float (← powFloat (← (float x).toFloat) (← b.toFloat)) := by
    cases b <;> rfl
  rw [hpow, hb]
  rfl

theorem double_one : (int 1).double = 1 := show Binary64.ofInt 1 = 1 by decide +kernel

theorem toFloat_one : (int 1).toFloat = .ok 1 := by
  rw [isExact_one.toFloat_eq, double_one]

end Number

namespace Calculation

/-! Calculations with results of calculations. -/

theorem one_eq : (1 : Calculation) = Except.ok (.int 1) := rfl

theorem ok_add (a b : Number) : (Except.ok a + Except.ok b : Calculation) = a.add b := rfl

theorem ok_sub (a b : Number) : (Except.ok a - Except.ok b : Calculation) = a.sub b := rfl

theorem ok_mul (a b : Number) : (Except.ok a * Except.ok b : Calculation) = a.mul b := rfl

theorem ok_div (a b : Number) :
    (Except.ok a / Except.ok b : Calculation) = a.div b >>= fun x => Except.ok (.float x) := rfl

theorem ok_pow (a b : Number) : (Except.ok a : Calculation) ^ (Except.ok b : Calculation) = a.pow b := rfl

/-! The left operand comes first. -/

theorem float_add_one (x : Float) :
    (Except.ok (.float x) + 1 : Calculation) = .ok (.float (x + 1)) := by
  rw [one_eq, ok_add]
  exact Number.float_add Number.toFloat_one

theorem float_sub_one (x : Float) :
    (Except.ok (.float x) - 1 : Calculation) = .ok (.float (x - 1)) := by
  rw [one_eq, ok_sub]
  exact Number.float_sub Number.toFloat_one

variable {x y : Calculation} {p q : Nat}

/-! The same for calculations whose operands are calculations. -/

theorem add_answers (hx : x.Answers (Number.Sized p)) (hy : y.Answers (Number.Sized p))
    (hp : p ≤ 1000) : (x + y).Answers (Number.Sized (p + 1)) :=
  hx.bind fun _ ha => hy.bind fun _ hb => Number.add_answers ha hb hp

theorem sub_answers (hx : x.Answers (Number.Sized p)) (hy : y.Answers (Number.Sized p))
    (hp : p ≤ 1000) : (x - y).Answers (Number.Sized (p + 1)) :=
  hx.bind fun _ ha => hy.bind fun _ hb => Number.sub_answers ha hb hp

theorem mul_answers (hx : x.Answers (Number.Sized p)) (hy : y.Answers (Number.Sized q))
    (hp : p ≤ 1000) (hq : q ≤ 1000) : (x * y).Answers (Number.Sized (p + q)) :=
  hx.bind fun _ ha => hy.bind fun _ hb => Number.mul_answers ha hb hp hq

theorem div_answers (hx : x.Answers (Number.Sized p))
    (hy : y.Answers fun b => b.Sized q ∧ b.isZero = false) (hp : p ≤ 1000) (hq : q ≤ 1000) :
    (x / y).Answers fun quotient => ∃ z, quotient = .float z :=
  hx.bind fun _ ha => hy.bind fun _ hb =>
    (Number.div_answers ha hb.1 hp hq hb.2).bind fun z _ => answers_ok ⟨z, rfl⟩

end Calculation

end SheetFormulas
