import SheetFormulas.Proofs.Binary64.Order

/-!
Doubles that are not finite: infinities, and what is no number. The latter goes through all
operations, and is neither below nor above a bound.
-/

namespace SheetFormulas.Binary64

open Float.Model Float.Model.UnpackedFloat

variable {x y bound : Float}

/-- The unpacked form of a double that is not finite. -/
theorem unpacked_of_not_isFinite (h : x.isFinite = false) :
    unpacked x = .infinity (signOf x) ∨ unpacked x = .notANumber := by
  have hfull : @unpackExponent Format.binary64 x.toBits.toBitVec = -1#11 := by
    rw [unpackExponent_eq_iff]
    rw [← Bool.not_eq_true, isFinite_iff, not_not] at h
    exact h
  have hsign := ofBitVec_unpackSign x
  unfold unpacked UnpackedFloat.unpack
  dsimp only
  rw [if_pos hfull, hsign]
  split_ifs
  · exact .inl rfl
  · exact .inr rfl

theorem unpack_pack_infinity (sign : Sign) :
    UnpackedFloat.unpack Format.binary64 (UnpackedFloat.pack Format.binary64 (.infinity sign)) =
      .infinity sign := by
  cases sign <;> rfl

theorem unpack_pack_notANumber :
    UnpackedFloat.unpack Format.binary64 (UnpackedFloat.pack Format.binary64 .notANumber) =
      .notANumber := rfl

/-! What is no number. -/

theorem unpacked_of_isNaN (h : x.isNaN = true) : unpacked x = .notANumber := by
  have hunpacked : (unpacked x).isNaN = true := h
  cases hx : unpacked x <;> rw [hx] at hunpacked <;> first | rfl | cases hunpacked

theorem isNaN_of_pack {u : UnpackedFloat} (h : u = .notANumber) :
    (UnpackedFloat.unpack Format.binary64 (UnpackedFloat.pack Format.binary64 u)).isNaN = true := by
  rw [h]
  rfl

theorem isNaN_add_right (h : y.isNaN = true) : (x + y).isNaN = true := by
  refine isNaN_of_pack (u := UnpackedFloat.add Format.binary64 (unpacked x) (unpacked y)) ?_
  rw [unpacked_of_isNaN h]
  cases unpacked x <;> rfl

theorem isNaN_add_left (h : x.isNaN = true) : (x + y).isNaN = true := by
  refine isNaN_of_pack (u := UnpackedFloat.add Format.binary64 (unpacked x) (unpacked y)) ?_
  rw [unpacked_of_isNaN h]
  cases unpacked y <;> rfl

theorem isNaN_mul_right (h : y.isNaN = true) : (x * y).isNaN = true := by
  refine isNaN_of_pack (u := UnpackedFloat.mul Format.binary64 (unpacked x) (unpacked y)) ?_
  rw [unpacked_of_isNaN h]
  cases unpacked x <;> rfl

theorem isNaN_div_right (h : y.isNaN = true) : (x / y).isNaN = true := by
  refine isNaN_of_pack (u := UnpackedFloat.div Format.binary64 (unpacked x) (unpacked y)) ?_
  rw [unpacked_of_isNaN h]
  cases unpacked x <;> rfl

/-! Bounds. -/

theorem lt_iff_compare (x y : Float) : x < y ↔ (unpacked x).compare (unpacked y) = some .lt := by
  have h : x < y ↔ ((unpacked x).compare (unpacked y) == some .lt) = true := decide_eq_true_iff
  rw [h, beq_iff_eq]

theorem unpacked_abs (x : Float) :
    unpacked x.abs = UnpackedFloat.unpack Format.binary64
      (UnpackedFloat.pack Format.binary64 (unpacked x).abs) := rfl

/-- What has a magnitude below a bound is finite. -/
theorem isFinite_of_abs_lt (hb : bound.isFinite = true) (h : x.abs < bound) : x.isFinite = true := by
  by_contra hx
  rw [Bool.not_eq_true] at hx
  rw [lt_iff_compare, unpacked_abs] at h
  have hbound : (unpacked bound).isFinite = true := hb
  rcases unpacked_of_not_isFinite hx with hinf | hnan
  · rw [hinf, UnpackedFloat.abs, unpack_pack_infinity] at h
    cases hy : unpacked bound <;> rw [hy] at h hbound <;> first | cases h | cases hbound
  · rw [hnan, UnpackedFloat.abs, unpack_pack_notANumber] at h
    cases h

/-- What is neither finite nor below a bound is above all numbers, or no number. -/
theorem isNegative_of_not_lt (hb : bound.isFinite = true) (hx : x.isInf = true) (h : ¬ x < bound) :
    isNegative x = false := by
  have hunpacked : (unpacked x).isInf = true := hx
  have hfinite : (unpacked x).isFinite = false := by
    cases hu : unpacked x <;> rw [hu] at hunpacked <;> first | rfl | cases hunpacked
  have hbound : (unpacked bound).isFinite = true := hb
  rw [lt_iff_compare] at h
  rcases unpacked_of_not_isFinite hfinite with hinf | hnan
  · rw [hinf, signOf] at h
    cases hneg : isNegative x with
    | false => rfl
    | true =>
      rw [hneg] at h
      cases hy : unpacked bound <;> rw [hy] at h hbound <;>
        first | exact absurd rfl h | cases hbound
  · rw [hnan] at hunpacked
    cases hunpacked

end SheetFormulas.Binary64
