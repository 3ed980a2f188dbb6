import SheetFormulas.Proofs.Binary64.Scaling
import SheetFormulas.Proofs.Number.Arithmetic
import SheetFormulas.Proofs.Run.Loop

/-!
Numbers multiplied by a power of two. Whole numbers stay whole and doubles stay doubles, so that both
calculations take the same course; the quotient of two numbers that are multiplied is the same.
-/

namespace SheetFormulas.Number

open Outcome

attribute [local irreducible] Binary64.unitsPerOne

variable {j : Nat} {a b c d : Number}

/-- Whether a number has a double that stays in the range when it is multiplied. -/
def Fits (j : Nat) (a : Number) : Prop := Binary64.Fits j a.double

/-- Whether a number is `2 ^ j` times another of its kind, both in the range of doubles. -/
inductive Scaled (j : Nat) : Number → Number → Prop where
  | ofInt {n : Int} : (int n).Fits j → Scaled j (int n) (int (n * 2 ^ j))
  | ofFloat {x y : Float} : Binary64.Scaled j x y → Scaled j (float x) (float y)

/-- Whether the product of an amount has a double that stays in the range, and above the least
doubles unless it is a product of zero. -/
def KeepsProduct (j : Nat) (amount factor : Number) : Prop :=
  ∀ r, amount.mul factor = .ok r → r.Fits j ∧
    (Binary64.units amount.double = 0 ∨ Binary64.units factor.double = 0 ∨
      2 ^ 52 < Binary64.units r.double)

/-- Whether the quotient of an amount stays in the range, and above the least doubles unless it is a
quotient of zero or by an infinity. -/
def KeepsQuotient (j : Nat) (amount divisor : Number) : Prop :=
  ∀ x, amount.div divisor = .ok x → Binary64.Fits j x ∧
    (Binary64.units amount.double = 0 ∨ divisor.isFinite = .ok false ∨ 2 ^ 52 < Binary64.units x)

instance (j : Nat) (a : Number) : Decidable (a.Fits j) :=
  inferInstanceAs (Decidable (Binary64.Fits j a.double))

instance (j : Nat) (amount factor : Number) : Decidable (amount.KeepsProduct j factor) :=
  decidableForallOk (amount.mul factor)

instance (j : Nat) (amount divisor : Number) : Decidable (amount.KeepsQuotient j divisor) :=
  decidableForallOk (amount.div divisor)

theorem toFloat_of_isFinite (h : a.double.isFinite = true) : a.toFloat = .ok a.double := by
  cases a with
  | int n =>
    have hinf : ¬ (Binary64.ofInt n).isInf = true :=
      Bool.not_eq_true _ ▸ Binary64.not_isInf_of_isFinite h
    exact if_neg hinf
  | float x => rfl

/-- A whole number is finite or has no double. -/
theorem isFinite_int_ne_false (n : Int) : (int n).isFinite ≠ .ok false := by
  intro h
  by_cases hinf : (Binary64.ofInt n).isInf = true
  · have hfail : (int n).toFloat = fail .overflow := if_pos hinf
    rw [isFinite, hfail] at h
    cases h
  · have hok : (int n).toFloat = .ok (Binary64.ofInt n) := if_neg hinf
    have hfinite : (Binary64.ofInt n).isFinite = true :=
      Binary64.isFinite_of_not (Binary64.isNaN_ofRatio _ _ _) (Bool.not_eq_true _ ▸ hinf)
    rw [isFinite, hok, ok_bind, hfinite] at h
    cases h

/-- A division of numbers that are not both whole is one of doubles. -/
theorem div_of_doubles {x : Float} (hk : ∀ m n : Int, ¬ (a = int m ∧ b = int n))
    (ha : a.toFloat = .ok x) :
    a.div b = b.toFloat >>= fun y => if y == 0 then fail .zeroDivision else .ok (x / y) := by
  have hdiv : a.div b = do
      let x ← a.toFloat
      let y ← b.toFloat
      if y == 0 then fail .zeroDivision else return x / y := by
    cases a with
    | float x => rfl
    | int m =>
      cases b with
      | float y => rfl
      | int n => exact absurd ⟨rfl, rfl⟩ (hk m n)
  rw [hdiv, ha]
  rfl

theorem Fits.neg (h : a.Fits j) : a.neg.Fits j := by
  cases a with
  | int n =>
    have hmagnitude : Binary64.magnitude (Binary64.ofInt (-n)) =
        Binary64.magnitude (Binary64.ofInt n) := by
      rw [Binary64.ofInt, Binary64.ofInt, Binary64.magnitude_ofRatio, Binary64.magnitude_ofRatio,
        Int.natAbs_neg]
    refine ⟨(Binary64.isFinite_iff_magnitude _).mpr (hmagnitude ▸
      (Binary64.isFinite_iff_magnitude _).mp h.finite), ?_⟩
    exact Binary64.units_of_magnitude hmagnitude ▸ h.lt
  | float x => exact ⟨Binary64.isFinite_neg h.finite, Binary64.units_neg h.finite ▸ h.lt⟩

namespace Scaled

theorem double (h : Scaled j a b) : Binary64.Scaled j a.double b.double := by
  cases h with
  | ofInt hf => exact .ofInt hf
  | ofFloat h => exact h

theorem toFloat_left (h : Scaled j a b) : a.toFloat = .ok a.double :=
  toFloat_of_isFinite h.double.finite_left

theorem toFloat_right (h : Scaled j a b) : b.toFloat = .ok b.double :=
  toFloat_of_isFinite h.double.finite_right

theorem isNaN_left (h : Scaled j a b) : a.isNaN = false := by
  cases h with
  | ofInt => rfl
  | ofFloat h => exact Binary64.not_isNaN_of_isFinite h.finite_left

theorem isNaN_right (h : Scaled j a b) : b.isNaN = false := by
  cases h with
  | ofInt => rfl
  | ofFloat h => exact Binary64.not_isNaN_of_isFinite h.finite_right

theorem isZero_eq (h : Scaled j a b) : a.isZero = b.isZero := by
  rw [Bool.eq_iff_iff]
  cases h with
  | ofInt =>
    rw [isZero_int, isZero_int, mul_eq_zero]
    exact (or_iff_left (pow_ne_zero j two_ne_zero)).symm
  | ofFloat h =>
    rw [isZero_float, isZero_float, Binary64.beq_zero_iff, Binary64.beq_zero_iff, h.signedUnits_eq,
      mul_eq_zero, h.finite_left, h.finite_right]
    exact and_congr_right fun _ => (or_iff_left (pow_ne_zero j two_ne_zero)).symm

theorem neg (h : Scaled j a b) : Scaled j a.neg b.neg := by
  cases h with
  | ofInt hf =>
    rw [Number.neg, Number.neg, ← Int.neg_mul]
    exact .ofInt hf.neg
  | ofFloat h => exact .ofFloat h.neg

theorem add (ha : Scaled j a b) (hc : Scaled j c d)
    (hr : ∀ r, a.add c = .ok r → r.Fits j) : Related (Scaled j) (a.add c) (b.add d) := by
  have hdoubles : a.add c = .ok (float (a.double + c.double)) →
      b.add d = .ok (float (b.double + d.double)) → Related (Scaled j) (a.add c) (b.add d) := by
    intro hleft hright
    rw [hleft, hright]
    exact .ok (.ofFloat (ha.double.add hc.double (hr _ hleft)))
  have hz := hc.toFloat_left
  have hw := hc.toFloat_right
  cases hc with
  | ofFloat hc => exact hdoubles (add_float ha.toFloat_left) (add_float ha.toFloat_right)
  | ofInt =>
    cases ha with
    | ofFloat ha => exact hdoubles (float_add hz) (float_add hw)
    | ofInt =>
      rw [Number.add, Number.add, ← Int.add_mul]
      exact .ok (.ofInt (hr _ rfl))

theorem sub (ha : Scaled j a b) (hc : Scaled j c d)
    (hr : ∀ r, a.sub c = .ok r → r.Fits j) : Related (Scaled j) (a.sub c) (b.sub d) := by
  have hdoubles : a.sub c = .ok (float (a.double - c.double)) →
      b.sub d = .ok (float (b.double - d.double)) → Related (Scaled j) (a.sub c) (b.sub d) := by
    intro hleft hright
    rw [hleft, hright]
    exact .ok (.ofFloat (ha.double.sub hc.double (hr _ hleft)))
  have hz := hc.toFloat_left
  have hw := hc.toFloat_right
  cases hc with
  | ofFloat hc => exact hdoubles (sub_float ha.toFloat_left) (sub_float ha.toFloat_right)
  | ofInt =>
    cases ha with
    | ofFloat ha => exact hdoubles (float_sub hz) (float_sub hw)
    | ofInt =>
      rw [Number.sub, Number.sub, ← Int.sub_mul]
      exact .ok (.ofInt (hr _ rfl))

/-- Products with a common factor. -/
theorem mul (h : Scaled j a b) (hr : a.KeepsProduct j c) :
    Related (Scaled j) (a.mul c) (b.mul c) := by
  have hdoubles : a.mul c = .ok (float (a.double * c.double)) →
      b.mul c = .ok (float (b.double * c.double)) → Related (Scaled j) (a.mul c) (b.mul c) := by
    intro hleft hright
    rw [hleft, hright]
    obtain ⟨hfits, hnormal⟩ := hr _ hleft
    exact .ok (.ofFloat (h.double.mul ⟨hfits, hnormal⟩))
  cases c with
  | float z => exact hdoubles (mul_float h.toFloat_left) (mul_float h.toFloat_right)
  | int n =>
    cases h with
    | ofInt =>
      rw [Number.mul, Number.mul, Int.mul_right_comm]
      exact .ok (.ofInt (hr _ rfl).1)
    | ofFloat h =>
      by_cases hinf : (Binary64.ofInt n).isInf = true
      · -- the factor has no double, and neither product is worked out
        have hfactor : (int n).toFloat = fail .overflow := if_pos hinf
        have hfail (x : Float) : (float x).mul (int n) = fail .overflow := by
          have hmul : (float x).mul (int n) = do return float (x * (← (int n).toFloat)) := rfl
          rw [hmul, hfactor]
          rfl
        rw [hfail, hfail]
        exact .error _
      · have hfactor : (int n).toFloat = .ok (int n).double := if_neg hinf
        exact hdoubles (float_mul hfactor) (float_mul hfactor)

/-- The product of two numbers that are multiplied is worked out in both cases. -/
theorem mul_scaled (ha : Scaled j a b) (hc : Scaled j c d) :
    Related (fun _ _ => True) (a.mul c) (b.mul d) := by
  have hdoubles {r s : Number} : a.mul c = .ok r → b.mul d = .ok s →
      Related (fun _ _ => True) (a.mul c) (b.mul d) := by
    intro hleft hright
    rw [hleft, hright]
    exact .ok trivial
  have hz := hc.toFloat_left
  have hw := hc.toFloat_right
  cases hc with
  | ofFloat hc => exact hdoubles (mul_float ha.toFloat_left) (mul_float ha.toFloat_right)
  | ofInt =>
    cases ha with
    | ofFloat ha => exact hdoubles (float_mul hz) (float_mul hw)
    | ofInt => exact hdoubles rfl rfl

/-- Quotients of whole numbers, which are rounded once. -/
theorem ofInt_div {m n : Int} (hf : (Number.int m).Fits j) (hn : n ≠ 0)
    (hr : (Number.int m).KeepsQuotient j (.int n)) :
    Related (Binary64.Scaled j) ((Number.int m).div (.int n))
      ((Number.int (m * 2 ^ j)).div (.int n)) := by
  have hd : 0 < n.natAbs := Int.natAbs_pos.mpr hn
  have hdiv {k : Int}
      (hfinite : (Binary64.ofRatio ((k < 0) != (n < 0)) k.natAbs n.natAbs).isFinite = true) :
      (Number.int k).div (.int n) =
        .ok (Binary64.ofRatio ((k < 0) != (n < 0)) k.natAbs n.natAbs) := by
    rw [Number.div, if_neg hn]
    exact if_neg (Bool.not_eq_true _ ▸ Binary64.not_isInf_of_isFinite hfinite)
  -- no quotient is above its dividend
  have hfinite : (Binary64.ofRatio ((m < 0) != (n < 0)) m.natAbs n.natAbs).isFinite = true := by
    have hdividend := (Binary64.isFinite_ofRatio_iff ..).mp (show
      (Binary64.ofRatio (m < 0) m.natAbs 1).isFinite = true from hf.finite)
    rw [Binary64.isFinite_ofRatio_iff]
    refine lt_of_le_of_lt ?_ hdividend
    rw [Binary64.nearestBits_eq, Binary64.nearestBits_eq]
    exact Binary64.nearestUnits_le_nearestUnits hd Nat.one_pos
      (by rw [Nat.mul_one]; exact Nat.le_mul_of_pos_right _ hd)
  obtain ⟨hfits, hnormal⟩ := hr _ (hdiv hfinite)
  rcases hnormal with hz | hinfinite | hnormal
  · obtain rfl : m = 0 := by
      by_contra hm
      refine absurd (Binary64.ofInt_beq_zero hm) (Bool.not_eq_false _ ▸ ?_)
      exact (Binary64.beq_zero_iff_units hf.finite).mpr hz
    rw [Int.zero_mul, hdiv hfinite]
    refine .ok (.of_zero hfinite ?_)
    exact Binary64.units_ofRatio_zero _ hd
  · exact absurd hinfinite (isFinite_int_ne_false n)
  · have hscaled := Binary64.Scaled.ofRatio _ hd hfits hnormal
    rw [← Binary64.natAbs_mul_two_pow, ← Binary64.decide_mul_lt_zero (j := j)] at hscaled
    rw [hdiv hfinite, hdiv hscaled.finite_right]
    rw [Binary64.decide_mul_lt_zero] at hscaled ⊢
    exact .ok hscaled

/-- Quotients with a common divisor. -/
theorem div (h : Scaled j a b) (hr : a.KeepsQuotient j c) :
    Related (Binary64.Scaled j) (a.div c) (b.div c) := by
  have hdoubles (hk : ∀ k n : Int, ¬ (a = int k ∧ c = int n))
      (hk' : ∀ k n : Int, ¬ (b = int k ∧ c = int n)) :
      Related (Binary64.Scaled j) (a.div c) (b.div c) := by
    have hleft := div_of_doubles hk h.toFloat_left
    have hright := div_of_doubles hk' h.toFloat_right
    cases hz : c.toFloat with
    | error fault =>
      rw [hleft, hright, hz]
      exact .error fault
    | ok z =>
      rw [hz, ok_bind] at hleft hright
      by_cases hzero : (z == 0) = true
      · rw [hleft, hright, if_pos hzero, if_pos hzero]
        exact .error _
      · rw [if_neg hzero] at hleft hright
        rw [hleft, hright]
        obtain ⟨hfits, hnormal⟩ := hr _ hleft
        refine .ok (h.double.div ⟨hfits, hnormal.imp_right (Or.imp_left fun hinfinite => ?_)⟩)
        rw [isFinite, hz] at hinfinite
        exact Except.ok.inj hinfinite
  cases c with
  | float z => exact hdoubles (fun _ _ hc => by cases hc.2) (fun _ _ hc => by cases hc.2)
  | int n =>
    cases h with
    | ofFloat h => exact hdoubles (fun _ _ hc => by cases hc.1) (fun _ _ hc => by cases hc.1)
    | ofInt hf =>
      by_cases hn : n = 0
      · rw [Number.div, Number.div, if_pos hn, if_pos hn]
        exact .error _
      · exact ofInt_div hf hn hr

/-- The quotient of two numbers that are multiplied is the same. -/
theorem div_eq_div (ha : Scaled j a b) (hc : Scaled j c d) : a.div c = b.div d := by
  have hdoubles (hk : ∀ k n : Int, ¬ (a = int k ∧ c = int n))
      (hk' : ∀ k n : Int, ¬ (b = int k ∧ d = int n)) : a.div c = b.div d := by
    have hx := ha.double
    have hz := hc.double
    rw [div_of_doubles hk ha.toFloat_left, div_of_doubles hk' ha.toFloat_right,
      hc.toFloat_left, hc.toFloat_right, ok_bind, ok_bind]
    by_cases hzero : Binary64.units c.double = 0
    · have hboth : (c.double == 0) = true := (Binary64.beq_zero_iff_units hz.finite_left).mpr hzero
      rw [hz.eq_of_zero hzero, if_pos hboth, if_pos hboth]
    · have hleft : ¬ (c.double == 0) = true := mt (Binary64.beq_zero_iff_units hz.finite_left).mp hzero
      have hright : ¬ (d.double == 0) = true := by
        rw [Binary64.beq_zero_iff_units hz.finite_right, hz.units_eq, mul_eq_zero, not_or]
        exact ⟨hzero, (Nat.two_pow_pos j).ne'⟩
      rw [hx.div_eq_div hz hzero, if_neg hleft, if_neg hright]
  cases hc with
  | ofFloat hz => exact hdoubles (fun _ _ hc => by cases hc.2) (fun _ _ hc => by cases hc.2)
  | @ofInt n =>
    cases ha with
    | ofFloat hx => exact hdoubles (fun _ _ hc => by cases hc.1) (fun _ _ hc => by cases hc.1)
    | @ofInt m =>
      rw [Number.div, Number.div]
      have hzero : n = 0 ↔ n * 2 ^ j = 0 := by
        rw [mul_eq_zero]
        exact (or_iff_left (pow_ne_zero j two_ne_zero)).symm
      have hratio : Binary64.ofRatio ((m * 2 ^ j < 0) != (n * 2 ^ j < 0)) (m * 2 ^ j).natAbs
          (n * 2 ^ j).natAbs = Binary64.ofRatio ((m < 0) != (n < 0)) m.natAbs n.natAbs := by
        rw [Binary64.decide_mul_lt_zero, Binary64.decide_mul_lt_zero, Binary64.natAbs_mul_two_pow,
          Binary64.natAbs_mul_two_pow]
        apply Binary64.ofRatio_congr
        rw [Binary64.nearestBits_eq, Binary64.nearestBits_eq, Nat.mul_right_comm,
          Binary64.nearestUnits_mul_mul _ _ (Nat.two_pow_pos j)]
      rw [hratio]
      exact if_congr hzero rfl rfl

end Scaled

end SheetFormulas.Number
