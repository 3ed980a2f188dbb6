import SheetFormulas.Proofs.Binary64.Power
import SheetFormulas.Proofs.Value.Order

/-!
Whole numbers as arguments. A number is asked whether it is finite before its whole part is taken,
and that is a question about its double: a whole number without one fails with an overflow, and any
other is its own whole part.
-/

namespace SheetFormulas

attribute [local irreducible] Binary64.unitsPerOne

namespace Number

theorem hasDouble_int_iff (n : Int) :
    (int n).hasDouble = true ↔ (Binary64.ofInt n).isFinite = true := by
  rw [Number.hasDouble, Bool.not_eq_true']
  exact ⟨Binary64.isFinite_of_not (Binary64.isNaN_ofRatio _ _ _), Binary64.not_isInf_of_isFinite⟩

theorem hasDouble_int_of_lt {n : Int} (h : n.natAbs < 2 ^ 64) : (int n).hasDouble = true :=
  hasDouble_int (lt_two_pow h (by decide))

/-- Whole numbers nearer to zero have doubles too. -/
theorem hasDouble_int_of_le {m n : Int} (h : n.natAbs ≤ m.natAbs)
    (hm : (int m).hasDouble = true) : (int n).hasDouble = true := by
  rw [hasDouble_int_iff, Binary64.ofInt, Binary64.isFinite_ofRatio_iff] at *
  refine Nat.lt_of_le_of_lt ?_ hm
  rw [Binary64.nearestBits_eq, Binary64.nearestBits_eq]
  exact Binary64.nearestUnits_mono Nat.one_pos (Nat.mul_le_mul_right _ h)

end Number

namespace Value

theorem ofInt_injective : Function.Injective ofInt := by
  rintro m n ⟨⟩
  rfl

theorem ofNat_injective : Function.Injective ofNat := fun _ _ h =>
  Int.ofNat.inj (ofInt_injective h)

theorem toFinite_ofInt (n : Int) :
    (ofInt n).toFinite = if (Number.int n).hasDouble then .ok (.int n) else fail .overflow := by
  have hn : (ofInt n).toNumber = .ok (.int n) := toNumber_number rfl
  rw [toFinite, hn, Outcome.ok_bind, Number.isFinite]
  cases hd : (Number.int n).hasDouble with
  | true =>
    rw [Number.toFloat_int_of_hasDouble hd, Outcome.ok_bind, Outcome.pure_eq,
      (Number.hasDouble_int_iff n).mp hd]
    rfl
  | false =>
    rw [Number.toFloat_of_not_hasDouble hd]
    rfl

theorem toInt_ofInt_eq (n : Int) :
    (ofInt n).toInt = if (Number.int n).hasDouble then .ok n else fail .overflow := by
  rw [toInt, toFinite_ofInt]
  cases (Number.int n).hasDouble <;> rfl

theorem toFloor_ofInt_eq (n : Int) :
    (ofInt n).toFloor = if (Number.int n).hasDouble then .ok n else fail .overflow := by
  rw [toFloor, toFinite_ofInt]
  cases (Number.int n).hasDouble <;> rfl

theorem toInt_ofInt_of_hasDouble {n : Int} (h : (Number.int n).hasDouble = true) :
    (ofInt n).toInt = .ok n := by
  rw [toInt_ofInt_eq, if_pos h]

end Value

end SheetFormulas
