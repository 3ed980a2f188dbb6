import SheetFormulas.Proofs.Number.Arithmetic

/-!
What can go wrong in arithmetic: a result may be too large, or a divisor zero. Nothing else does, and a
formula is a double as soon as one of its operands is.
-/

namespace SheetFormulas

namespace Outcome

variable {α β : Type} {P Q : α → Prop} {R : β → Prop} {outcome : Outcome α}

/-- Whether an outcome is a result with a property, an overflow or a division by zero. -/
def Computes (P : α → Prop) : Outcome α → Prop
  | .ok a => P a
  | .error fault => fault = .failure .overflow ∨ fault = .failure .zeroDivision

theorem computes_overflow : Computes P (fail .overflow) := .inl rfl

theorem computes_zeroDivision : Computes P (fail .zeroDivision) := .inr rfl

theorem Computes.bind {f : α → Outcome β} (h : outcome.Computes P)
    (hf : ∀ a, P a → (f a).Computes R) : (outcome >>= f).Computes R := by
  cases outcome with
  | ok a => exact hf a h
  | error fault => exact h

theorem Computes.mono (h : outcome.Computes P) (hpq : ∀ a, P a → Q a) : outcome.Computes Q := by
  cases outcome with
  | ok a => exact hpq a h
  | error fault => exact h

theorem computes_ite {c : Prop} [Decidable c] {a b : Outcome α} (ha : c → a.Computes P)
    (hb : ¬ c → b.Computes P) : (if c then a else b).Computes P := by
  split_ifs with h
  · exact ha h
  · exact hb h

theorem computes_foldlM {f : β → α → Outcome β} {start : β} (items : List α) (hs : R start)
    (hf : ∀ b, R b → ∀ a, (f b a).Computes R) : (items.foldlM f start).Computes R := by
  induction items generalizing start with
  | nil => exact hs
  | cons item rest ih =>
    rw [List.foldlM_cons]
    exact (hf start hs item).bind fun next hn => ih hn

/-- What neither fails nor is refused is a result. -/
theorem Computes.exists_ok (h : outcome.Computes P) (ha : outcome.Answers Q) :
    ∃ a, outcome = .ok a ∧ Q a := by
  rcases outcome with (cause | cause) | a
  · rcases h with h | h <;> cases h
  · exact absurd ha id
  · exact ⟨a, rfl, ha⟩

end Outcome

open Outcome

namespace Number

variable {d e : Bool} {a b : Number}

/-- Whether a number is a double, if it should be. -/
def DoubleIf (d : Bool) (a : Number) : Prop := d = true → ∃ x, a = float x

theorem doubleIf_float (d : Bool) (x : Float) : (float x).DoubleIf d := fun _ => ⟨x, rfl⟩

theorem doubleIf_false (a : Number) : a.DoubleIf false := by
  rintro ⟨⟩

theorem not_doubleIf_int {n : Int} (h : (int n).DoubleIf d) : d = false := by
  rw [Bool.eq_false_iff]
  intro hd
  obtain ⟨x, hx⟩ := h hd
  cases hx

theorem toFloat_computes (a : Number) : a.toFloat.Computes fun _ => True := by
  cases a with
  | int n => exact computes_ite (fun _ => computes_overflow) fun _ => trivial
  | float x => trivial

/-- An operation on whole numbers, and on the doubles of all others. -/
theorem computes_of_mixed {op : Number → Number → Calculation} {onInts : Int → Int → Int}
    {onDoubles : Float → Float → Float} (hints : ∀ m n, op (int m) (int n) = .ok (int (onInts m n)))
    (hleft : ∀ x b, op (float x) b = do return float (onDoubles x (← b.toFloat)))
    (hright : ∀ m y, op (int m) (float y) = do return float (onDoubles (← (int m).toFloat) y))
    (ha : a.DoubleIf d) (hb : b.DoubleIf e) : (op a b).Computes (DoubleIf (d || e)) := by
  cases a with
  | float x =>
    rw [hleft]
    exact (toFloat_computes b).bind fun _ _ => doubleIf_float _ _
  | int m =>
    cases b with
    | float y =>
      rw [hright]
      exact (toFloat_computes (int m)).bind fun _ _ => doubleIf_float _ _
    | int n =>
      rw [hints, not_doubleIf_int ha, not_doubleIf_int hb]
      rintro ⟨⟩

theorem add_computes (ha : a.DoubleIf d) (hb : b.DoubleIf e) :
    (a.add b).Computes (DoubleIf (d || e)) :=
  computes_of_mixed (fun _ _ => rfl) (fun _ _ => rfl) (fun _ _ => rfl) ha hb

theorem sub_computes (ha : a.DoubleIf d) (hb : b.DoubleIf e) :
    (a.sub b).Computes (DoubleIf (d || e)) :=
  computes_of_mixed (fun _ _ => rfl) (fun _ _ => rfl) (fun _ _ => rfl) ha hb

theorem mul_computes (ha : a.DoubleIf d) (hb : b.DoubleIf e) :
    (a.mul b).Computes (DoubleIf (d || e)) :=
  computes_of_mixed (fun _ _ => rfl) (fun _ _ => rfl) (fun _ _ => rfl) ha hb

theorem div_computes (a b : Number) : (a.div b).Computes fun _ => True := by
  have hdoubles (a b : Number) : (do
      let x ← a.toFloat
      let y ← b.toFloat
      if y == 0 then fail .zeroDivision else return x / y : Outcome Float).Computes fun _ => True :=
    (toFloat_computes a).bind fun _ _ => (toFloat_computes b).bind fun _ _ =>
      computes_ite (fun _ => computes_zeroDivision) fun _ => trivial
  cases a with
  | float x => exact hdoubles (float x) b
  | int m =>
    cases b with
    | float y => exact hdoubles (int m) (float y)
    | int n =>
      exact computes_ite (fun _ => computes_zeroDivision) fun _ =>
        computes_ite (fun _ => computes_overflow) fun _ => trivial

theorem powFloat_computes (x y : Float) : (powFloat x y).Computes fun _ => True :=
  computes_ite
    (fun _ => computes_ite (fun _ => computes_zeroDivision) fun _ =>
      computes_ite (fun _ => trivial) fun _ => computes_overflow)
    fun _ => trivial

theorem pow_computes (a b : Number) : (a.pow b).Computes fun _ => True := by
  have hdoubles (a b : Number) :
      (do return float (← powFloat (← a.toFloat) (← b.toFloat)) : Calculation).Computes
        fun _ => True :=
    (toFloat_computes a).bind fun x _ => (toFloat_computes b).bind fun y _ =>
      (powFloat_computes x y).bind fun _ _ => trivial
  cases a with
  | float x => exact hdoubles (float x) b
  | int m =>
    cases b with
    | float y => exact hdoubles (int m) (float y)
    | int n => exact computes_ite (fun _ => trivial) fun _ => hdoubles (int m) (int n)

theorem isFinite_computes (a : Number) : a.isFinite.Computes fun _ => True :=
  (toFloat_computes a).bind fun _ _ => trivial

end Number

namespace Calculation

open Number (DoubleIf)

variable {d e : Bool} {x y : Calculation}

theorem computes_ok (a : Number) : Computes (DoubleIf false) (.ok a) := Number.doubleIf_false a

theorem computes_neg (h : x.Computes (DoubleIf d)) : (-x).Computes (DoubleIf d) := by
  refine h.bind fun a ha hd => ?_
  obtain ⟨y, rfl⟩ := ha hd
  exact ⟨-y, rfl⟩

theorem computes_add (hx : x.Computes (DoubleIf d)) (hy : y.Computes (DoubleIf e)) :
    (x + y).Computes (DoubleIf (d || e)) :=
  hx.bind fun _ ha => hy.bind fun _ hb => Number.add_computes ha hb

theorem computes_sub (hx : x.Computes (DoubleIf d)) (hy : y.Computes (DoubleIf e)) :
    (x - y).Computes (DoubleIf (d || e)) :=
  hx.bind fun _ ha => hy.bind fun _ hb => Number.sub_computes ha hb

theorem computes_mul (hx : x.Computes (DoubleIf d)) (hy : y.Computes (DoubleIf e)) :
    (x * y).Computes (DoubleIf (d || e)) :=
  hx.bind fun _ ha => hy.bind fun _ hb => Number.mul_computes ha hb

/-- A quotient is a double. -/
theorem computes_div (hx : x.Computes (DoubleIf d)) (hy : y.Computes (DoubleIf e)) :
    (x / y).Computes (DoubleIf true) :=
  hx.bind fun a _ => hy.bind fun b _ => (Number.div_computes a b).bind fun _ _ =>
    Number.doubleIf_float true _

theorem computes_pow (hx : x.Computes (DoubleIf d)) (hy : y.Computes (DoubleIf e)) :
    (x ^ y).Computes (DoubleIf false) := by
  refine hx.bind fun a _ => hy.bind fun b _ => ?_
  rw [← bind_pure (a.pow b)]
  exact (Number.pow_computes a b).bind fun c _ => computes_ok c

end Calculation

end SheetFormulas
