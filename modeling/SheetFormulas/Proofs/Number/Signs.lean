import SheetFormulas.Proofs.Binary64.NonFinite
import SheetFormulas.Proofs.Number.Arithmetic
import SheetFormulas.Proofs.Value.WholeNumber

/-!
Signs of numbers and of their products. A number has a sign, zero or not, unless it is no number at
all. A product that is not zero has the product of the signs of its factors, infinities included.
-/

namespace SheetFormulas

open Float.Model Float.Model.UnpackedFloat Outcome

attribute [local irreducible] Binary64.unitsPerOne

namespace Binary64

variable {x y : Float} {sign : Sign} {s : Int}

/-- The sign of a double, unless it is no number. -/
def sign? (x : Float) : Option Int :=
  if x.isNaN then none
  else if x.isInf then some (if isNegative x then -1 else 1)
  else some ((signedUnits x).sign)

theorem sign?_of_isFinite (hx : x.isFinite = true) :
    sign? x = some ((signedUnits x).sign) := by
  rw [sign?, not_isNaN_of_isFinite hx, not_isInf_of_isFinite hx]
  rfl

theorem sign_signedUnits (h : units x ≠ 0) :
    (signedUnits x).sign = if isNegative x then -1 else 1 := by
  rw [signedUnits]
  split_ifs
  · exact Int.sign_eq_neg_one_of_neg (by omega)
  · exact Int.sign_eq_one_of_pos (by omega)

/-- A rounded quotient that is not zero keeps its sign. -/
theorem sign?_ofRatio {negative : Bool} {num den : Nat} (hd : 0 < den)
    (h : sign? (ofRatio negative num den) = some s) (hs : s ≠ 0) :
    num ≠ 0 ∧ s = if negative then -1 else 1 := by
  have hzero (hf : (ofRatio negative num den).isFinite = true)
      (hu : units (ofRatio negative num den) = 0) : False := by
    have hsigned := natAbs_signedUnits (ofRatio negative num den)
    rw [hu] at hsigned
    rw [sign?_of_isFinite hf, Int.natAbs_eq_zero.mp hsigned] at h
    exact hs (Option.some.inj h).symm
  have hnum : num ≠ 0 := by
    rintro rfl
    have hf := (ofRatio_le negative hd isFinite_zero
      (show 0 * unitsPerOne ≤ units 0 * den by rw [Nat.zero_mul]; exact Nat.zero_le _)).1
    exact hzero hf (units_ofRatio_zero negative hd)
  refine ⟨hnum, ?_⟩
  have hnan := isNaN_ofRatio negative num den
  cases hinf : (ofRatio negative num den).isInf with
  | true =>
    rw [sign?, hnan, hinf, isNegative_ofRatio] at h
    exact (Option.some.inj h).symm
  | false =>
    have hf := isFinite_of_not hnan hinf
    rw [sign?_of_isFinite hf, sign_signedUnits (hzero hf), isNegative_ofRatio] at h
    exact (Option.some.inj h).symm

/-! What is not finite. -/

/-- A sign applied to one. -/
theorem apply_one_mul (a b : Sign) : (a * b).apply 1 = a.apply 1 * b.apply 1 := by
  cases a <;> cases b <;> rfl

theorem apply_one_signOf (x : Float) : (signOf x).apply 1 = if isNegative x then -1 else 1 := by
  unfold signOf
  cases isNegative x <;> rfl

theorem sign?_of_infinity (h : unpacked x = .infinity sign) : sign? x = some (sign.apply 1) := by
  have hnan : x.isNaN = false := by
    show (unpacked x).isNaN = false
    rw [h]
    rfl
  have hinf : x.isInf = true := by
    show (unpacked x).isInf = true
    rw [h]
    rfl
  have hfinite : x.isFinite = false := by
    show (unpacked x).isFinite = false
    rw [h]
    rfl
  have hsign : sign = signOf x := by
    rcases unpacked_of_not_isFinite hfinite with hx | hx
    · rw [h] at hx
      injection hx
    · rw [h] at hx
      cases hx
  rw [sign?, hnan, hinf, hsign, apply_one_signOf]
  rfl

theorem sign?_of_notANumber (h : unpacked x = .notANumber) : sign? x = none := by
  have hnan : x.isNaN = true := by
    show (unpacked x).isNaN = true
    rw [h]
    rfl
  rw [sign?, hnan]
  rfl

theorem unpacked_mul (x y : Float) :
    unpacked (x * y) = UnpackedFloat.unpack Format.binary64
      (UnpackedFloat.pack Format.binary64
        (UnpackedFloat.mul Format.binary64 (unpacked x) (unpacked y))) := rfl

/-- The sign of an unpacked double. -/
def unpackedSign? : UnpackedFloat → Option Int
  | .notANumber => none
  | .zero _ => some 0
  | .infinity sign => some (sign.apply 1)
  | .finite sign _ _ _ => some (sign.apply 1)

theorem sign?_eq_unpackedSign? (x : Float) : sign? x = unpackedSign? (unpacked x) := by
  cases hx : x.isFinite with
  | true =>
    rw [sign?_of_isFinite hx, unpacked_of_finite hx]
    split_ifs with hz
    · rw [(signedUnits_eq_zero_iff x).mpr hz]
      rfl
    · rw [sign_signedUnits (mt (units_eq_zero_iff x).mp hz), ← apply_one_signOf]
      rfl
  | false =>
    rcases unpacked_of_not_isFinite hx with h | h
    · rw [sign?_of_infinity h, h]
      rfl
    · rw [sign?_of_notANumber h, h]
      rfl

/-- A product with a factor that is not finite is infinite or no number. -/
theorem unpackedSign?_mul {a b : UnpackedFloat} (hf : a.isFinite = false ∨ b.isFinite = false)
    (h : unpackedSign? (UnpackedFloat.unpack Format.binary64
      (UnpackedFloat.pack Format.binary64 (UnpackedFloat.mul Format.binary64 a b))) = some s) :
    ∃ u v, unpackedSign? a = some u ∧ unpackedSign? b = some v ∧ s = u * v := by
  have hinfinite (u v : Sign) (huv : unpackedSign? (UnpackedFloat.unpack Format.binary64
      (UnpackedFloat.pack Format.binary64 (.infinity (u * v)))) = some s) :
      s = u.apply 1 * v.apply 1 := by
    rw [unpack_pack_infinity, unpackedSign?, apply_one_mul] at huv
    exact (Option.some.inj huv).symm
  have hundefined : unpackedSign? (UnpackedFloat.unpack Format.binary64
      (UnpackedFloat.pack Format.binary64 .notANumber)) ≠ some s := by
    rw [unpack_pack_notANumber]
    rintro ⟨⟩
  cases a with
  | notANumber => cases b <;> exact absurd h hundefined
  | infinity u =>
    cases b with
    | notANumber => exact absurd h hundefined
    | zero v => exact absurd h hundefined
    | infinity v => exact ⟨_, _, rfl, rfl, hinfinite u v h⟩
    | finite v m e hm => exact ⟨_, _, rfl, rfl, hinfinite u v h⟩
  | zero u =>
    cases b with
    | notANumber => exact absurd h hundefined
    | infinity v => exact absurd h hundefined
    | zero v => simp [UnpackedFloat.isFinite] at hf
    | finite v m e hm => simp [UnpackedFloat.isFinite] at hf
  | finite u m e hm =>
    cases b with
    | notANumber => exact absurd h hundefined
    | infinity v => exact ⟨_, _, rfl, rfl, hinfinite u v h⟩
    | zero v => simp [UnpackedFloat.isFinite] at hf
    | finite v m' e' hm' => simp [UnpackedFloat.isFinite] at hf

/-- A product that is not zero has the product of the signs. -/
theorem sign?_mul (h : sign? (x * y) = some s) (hs : s ≠ 0) :
    ∃ u v, sign? x = some u ∧ sign? y = some v ∧ s = u * v := by
  by_cases hf : x.isFinite = true ∧ y.isFinite = true
  · obtain ⟨hx, hy⟩ := hf
    rw [mul_eq hx hy] at h
    obtain ⟨hnum, hsign⟩ := sign?_ofRatio (Nat.mul_pos unitsPerOne_pos unitsPerOne_pos) h hs
    refine ⟨_, _, sign?_of_isFinite hx, sign?_of_isFinite hy, ?_⟩
    rw [hsign, sign_signedUnits (Nat.ne_zero_of_mul_ne_zero_left hnum),
      sign_signedUnits (Nat.ne_zero_of_mul_ne_zero_right hnum)]
    cases isNegative x <;> cases isNegative y <;> rfl
  · rw [not_and_or, Bool.not_eq_true, Bool.not_eq_true] at hf
    rw [sign?_eq_unpackedSign?, unpacked_mul] at h
    rw [sign?_eq_unpackedSign?, sign?_eq_unpackedSign?]
    exact unpackedSign?_mul hf h

end Binary64

namespace Number

variable {a b p : Number} {s : Int}

/-- The sign of a number, unless it is no number. -/
def sign? : Number → Option Int
  | int n => some n.sign
  | float x => Binary64.sign? x

theorem compare_sign (n : Int) : compare n.sign 0 = compare n 0 := by
  rcases lt_trichotomy n 0 with h | rfl | h
  · rw [Int.sign_eq_neg_one_of_neg h, Int.compare_eq_lt.mpr h]
    rfl
  · rfl
  · rw [Int.sign_eq_one_of_pos h, Int.compare_eq_gt.mpr h]
    rfl

/-- The order of a number and zero is that of its sign. -/
theorem compare?_zero (a : Number) :
    a.compare? (int 0) = a.sign?.map fun sign => compare sign 0 := by
  cases a with
  | int n => rw [compare?_int, sign?, Option.map_some, compare_sign]
  | float x =>
    rw [compare?, exactValue?_int, Int.zero_mul, sign?]
    cases hnan : x.isNaN with
    | true =>
      unfold exactValue? Binary64.sign?
      dsimp only
      rw [hnan]
      rfl
    | false =>
      cases hinf : x.isInf with
      | true =>
        unfold exactValue? Binary64.sign?
        dsimp only
        rw [hnan, hinf]
        cases Binary64.isNegative x <;> rfl
      | false =>
        have hf := Binary64.isFinite_of_not hnan hinf
        rw [exactValue?_float hf, Binary64.sign?_of_isFinite hf, Option.map_some, compare_sign]
        rfl

theorem lt_zero_iff (a : Number) : a.lt (int 0) = true ↔ ∃ s < 0, a.sign? = some s := by
  rw [lt, compare?_zero, beq_iff_eq, Option.map_eq_some_iff]
  simp only [Int.compare_eq_lt, and_comm]

theorem zero_lt_iff (a : Number) : (int 0).lt a = true ↔ ∃ s, 0 < s ∧ a.sign? = some s := by
  have hswap : (int 0).compare? a = (a.compare? (int 0)).map Ordering.swap := by
    unfold compare?
    cases a.exactValue? with
    | none => rfl
    | some value => exact congrArg some (compareExact_swap _ _).symm
  rw [lt, hswap, compare?_zero, Option.map_map, beq_iff_eq, Option.map_eq_some_iff]
  simp only [Function.comp_apply, Ordering.swap_eq_lt, Int.compare_eq_gt, and_comm]

theorem isZero_iff_sign? (a : Number) : a.isZero = true ↔ a.sign? = some 0 := by
  rw [isZero, eq, compare?_zero, beq_iff_eq, Option.map_eq_some_iff]
  simp only [Int.compare_eq_eq, and_comm, exists_eq_left]

theorem not_zero_lt_of_lt_zero (h : a.lt (int 0) = true) : ¬ (int 0).lt a = true := by
  obtain ⟨s, hs, hsign⟩ := (lt_zero_iff a).mp h
  rintro hpos
  obtain ⟨t, ht, hsign'⟩ := (zero_lt_iff a).mp hpos
  rw [hsign] at hsign'
  cases hsign'
  exact absurd hs ht.not_gt

/-- The double of a number has its sign. -/
theorem sign?_toFloat {x : Float} (h : a.toFloat = .ok x) : Binary64.sign? x = a.sign? := by
  cases a with
  | float y =>
    cases h
    rfl
  | int n =>
    have hdouble : (int n).hasDouble = true := by
      cases hd : (int n).hasDouble with
      | true => rfl
      | false =>
        rw [toFloat_of_not_hasDouble hd] at h
        cases h
    rw [toFloat_int_of_hasDouble hdouble] at h
    cases h
    have hf := (hasDouble_int_iff n).mp hdouble
    rw [Binary64.sign?_of_isFinite hf, sign?]
    by_cases hz : n = 0
    · subst hz
      have hunits : Binary64.signedUnits (Binary64.ofInt 0) = 0 :=
        isExact_zero.signedUnits_double.trans signedUnits_zero
      rw [hunits]
    · have hunits : Binary64.units (Binary64.ofInt n) ≠ 0 := by
        intro hu
        have hsigned := Binary64.natAbs_signedUnits (Binary64.ofInt n)
        rw [hu] at hsigned
        have hbeq := Binary64.ofInt_beq_zero hz
        rw [(Binary64.beq_zero_iff _).mpr ⟨hf, Int.natAbs_eq_zero.mp hsigned⟩] at hbeq
        cases hbeq
      rw [Binary64.sign_signedUnits hunits, Binary64.ofInt, Binary64.isNegative_ofRatio]
      by_cases hneg : n < 0
      · rw [if_pos (decide_eq_true hneg), Int.sign_eq_neg_one_of_neg hneg]
      · rw [if_neg (by simpa using hneg), Int.sign_eq_one_of_pos (by omega)]

/-- A product that is not zero has the product of the signs. -/
theorem sign?_mul (h : a.mul b = .ok p) (hp : p.sign? = some s) (hs : s ≠ 0) :
    ∃ u v, a.sign? = some u ∧ b.sign? = some v ∧ s = u * v := by
  have hdoubles (hmul : a.mul b = do return float ((← a.toFloat) * (← b.toFloat))) :
      ∃ u v, a.sign? = some u ∧ b.sign? = some v ∧ s = u * v := by
    rw [hmul] at h
    obtain ⟨x, ha, h⟩ := bind_eq_ok_iff.mp h
    obtain ⟨y, hb, h⟩ := bind_eq_ok_iff.mp h
    cases h
    rw [← sign?_toFloat ha, ← sign?_toFloat hb]
    exact Binary64.sign?_mul hp hs
  cases a with
  | float x => exact hdoubles rfl
  | int m =>
    cases b with
    | float y => exact hdoubles rfl
    | int n =>
      cases h
      refine ⟨_, _, rfl, rfl, ?_⟩
      rw [← Int.sign_mul]
      exact (Option.some.inj hp).symm

/-- Numbers with a negative product have opposite signs. -/
theorem opposite_of_mul_lt_zero (h : a.mul b = .ok p) (hp : p.lt (int 0) = true) :
    a.lt (int 0) = true ∧ (int 0).lt b = true ∨ (int 0).lt a = true ∧ b.lt (int 0) = true := by
  obtain ⟨s, hs, hsign⟩ := (lt_zero_iff p).mp hp
  obtain ⟨u, v, hu, hv, rfl⟩ := sign?_mul h hsign hs.ne
  rw [lt_zero_iff, zero_lt_iff, zero_lt_iff, lt_zero_iff]
  rcases mul_neg_iff.mp hs with ⟨hpos, hneg⟩ | ⟨hneg, hpos⟩
  · exact .inr ⟨⟨u, hpos, hu⟩, ⟨v, hneg, hv⟩⟩
  · exact .inl ⟨⟨u, hneg, hu⟩, ⟨v, hpos, hv⟩⟩

theorem exists_sign?_of_mul_lt_zero (h : a.mul b = .ok p) (hp : p.lt (int 0) = true) :
    ∃ u ≠ 0, a.sign? = some u := by
  rcases opposite_of_mul_lt_zero h hp with ⟨ha, -⟩ | ⟨ha, -⟩
  · obtain ⟨u, hu, hsign⟩ := (lt_zero_iff a).mp ha
    exact ⟨u, hu.ne, hsign⟩
  · obtain ⟨u, hu, hsign⟩ := (zero_lt_iff a).mp ha
    exact ⟨u, hu.ne', hsign⟩

/-- Numbers with a positive product have the same sign. -/
theorem same_of_zero_lt_mul (h : a.mul b = .ok p) (hp : (int 0).lt p = true) :
    a.lt (int 0) = true ∧ b.lt (int 0) = true ∨
      (int 0).lt a = true ∧ (int 0).lt b = true := by
  obtain ⟨s, hs, hsign⟩ := (zero_lt_iff p).mp hp
  obtain ⟨u, v, hu, hv, rfl⟩ := sign?_mul h hsign hs.ne'
  rw [lt_zero_iff, lt_zero_iff, zero_lt_iff, zero_lt_iff]
  rcases mul_pos_iff.mp hs with ⟨hpos, hpos'⟩ | ⟨hneg, hneg'⟩
  · exact .inr ⟨⟨u, hpos, hu⟩, ⟨v, hpos', hv⟩⟩
  · exact .inl ⟨⟨u, hneg, hu⟩, ⟨v, hneg', hv⟩⟩

end Number

end SheetFormulas
