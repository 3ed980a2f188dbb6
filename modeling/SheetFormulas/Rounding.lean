/-!
Quotients of whole numbers rounded to the nearest whole number, a half going to the even neighbour.
-/

namespace SheetFormulas

/-- The quotient `num / den` to the nearest whole number, a half to the even neighbour. -/
def roundQuotient (num den : Nat) : Nat :=
  let quotient := num / den
  let remainder := num % den
  if 2 * remainder < den then quotient
  else if den < 2 * remainder then quotient + 1
  else quotient + quotient % 2

/-- The rounded quotient is at most half a unit above the exact one. -/
theorem two_mul_roundQuotient_mul_le (num : Nat) {den : Nat} (h : 0 < den) :
    2 * (roundQuotient num den * den) ≤ 2 * num + den := by
  have hd := Nat.div_add_mod num den
  have hm := Nat.mod_lt num h
  have he : num / den * den = den * (num / den) := Nat.mul_comm _ _
  unfold roundQuotient
  dsimp only
  split
  · omega
  · split
    · rw [Nat.add_mul]; omega
    · have : num / den % 2 * den ≤ 1 * den := Nat.mul_le_mul_right _ (by omega)
      rw [Nat.add_mul]; omega

/-- The rounded quotient is at most half a unit below the exact one. -/
theorem two_mul_le_two_mul_roundQuotient_mul (num : Nat) {den : Nat} (h : 0 < den) :
    2 * num ≤ 2 * (roundQuotient num den * den) + den := by
  have hd := Nat.div_add_mod num den
  have hm := Nat.mod_lt num h
  have he : num / den * den = den * (num / den) := Nat.mul_comm _ _
  unfold roundQuotient
  dsimp only
  split
  · omega
  · split
    · rw [Nat.add_mul]; omega
    · rw [Nat.add_mul]; omega

/-- A whole quotient is not changed. -/
theorem roundQuotient_mul (n : Nat) {den : Nat} (h : 0 < den) :
    roundQuotient (n * den) den = n := by
  simp [roundQuotient, Nat.mul_div_cancel n h, h]

end SheetFormulas
