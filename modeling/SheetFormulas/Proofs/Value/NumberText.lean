import Mathlib.Tactic
import SheetFormulas.Decimal.Layout
import SheetFormulas.Proofs.Number.Arithmetic
import SheetFormulas.Proofs.Numeral.Reading
import SheetFormulas.Proofs.Text.Latin
import SheetFormulas.Value.Coercion

/-!
Whole numbers survive their texts. A whole number is written with its digits behind a minus sign or
none, and so is a double that equals one of fifteen digits at most. The digits are a plain numeral of
the same value, so the text is read as the whole number again.
-/

namespace SheetFormulas

open Text Numeral

attribute [local irreducible] Binary64.unitsPerOne

/-- The minus sign of a negative number. -/
def signMark (negative : Bool) : List Char := if negative then ['-'] else []

namespace Numeral

theorem written_signMark_append {p : Plain} {core : List Char} (h : PlainNumeral p core)
    (negative : Bool) : Written true negative 0 p (signMark negative ++ core) := by
  have hs : Separated true p core := h.unsigned.separated
  refine .intro ?_ hs
  show Framed negative 0 core (signMark negative ++ core)
  have hframed : ∀ {sign}, Sign negative sign → Framed negative 0 core (sign ++ core) := by
    intro sign hsign
    have hbody := (Body.intro hsign .missing .none : Body _ 0 core _)
    rw [Bool.bne_false, List.nil_append, List.append_nil] at hbody
    simpa using Framed.plain isBlanks_nil isBlanks_nil hbody
  cases negative with
  | true => exact hframed (.minus isBlanks_nil)
  | false => exact hframed .missing

end Numeral

/-- A plain numeral behind a minus sign or none is converted to its value. -/
theorem toNumber_signMark_append {p : Plain} {core : List Char} (h : PlainNumeral p core)
    (hlong : p.isTooLong 0 = false) (negative : Bool) :
    (Value.text (String.ofList (signMark negative ++ core))).toNumber =
      .ok (signed negative (p.unsigned 0)) := by
  have hread : read .cell (signMark negative ++ core) = .ok (signed negative (p.unsigned 0)) :=
    read_eq_ok_iff.mpr
      ⟨negative, 0, p, written_signMark_append h negative, hlong, Nat.zero_le _, rfl⟩
  have hne : core ≠ [] := h.unsigned.separated.ne_nil
  have hempty : (String.ofList (signMark negative ++ core)).isEmpty = false := by
    simpa using fun _ => hne
  unfold Value.toNumber numberOfText
  dsimp only
  rw [hempty, if_neg Bool.false_ne_true, String.toList_ofList, hread]

/-! Whole numbers. -/

theorem repr_eq (n : Int) :
    n.repr = String.ofList (signMark (decide (n < 0)) ++ Nat.toDigits 10 n.natAbs) := by
  cases n with
  | ofNat m => rfl
  | negSucc m =>
    have hneg : decide (Int.negSucc m < 0) = true := by simp
    rw [hneg]
    exact (@String.ofList_append ['-'] _).symm

theorem signed_int {n : Int} {negative : Bool} (h : negative = decide (n < 0)) :
    signed negative (.int n.natAbs) = .int n := by
  have hsign := ite_neg_natAbs n
  rw [← h] at hsign
  unfold signed
  split_ifs at hsign ⊢
  · exact congrArg Number.int hsign
  · exact congrArg Number.int hsign

theorem lt_tenTo_digitLimit_iff {n : Nat} :
    n < tenTo Number.digitLimit ↔ (Nat.toDigits 10 n).length ≤ Number.digitLimit := by
  rw [Binary64.tenTo_eq, Nat.length_toDigits_le_iff (by decide) (by decide)]

theorem general_int {n : Int} (h : (Nat.toDigits 10 n.natAbs).length ≤ Number.digitLimit) :
    (Number.int n).general = .ok n.repr := by
  unfold Number.general Number.intText
  dsimp only
  rw [if_pos (lt_tenTo_digitLimit_iff.mpr h)]

theorem toText_number {a : Number} (h : a.isNaN = false) : (Value.number a).toText = a.general := by
  unfold Value.toText
  dsimp only
  rw [h, if_neg Bool.false_ne_true]

theorem unsigned_of_whole (digits : List Char) :
    Plain.unsigned ⟨digits, false, [], none⟩ 0 = .int (digitsValue digits) := rfl

/-- A whole number that is written out is read as itself. -/
theorem toNumber_repr {n : Int} (h : (Nat.toDigits 10 n.natAbs).length ≤ Number.digitLimit) :
    (Value.text n.repr).toNumber = .ok (.int n) := by
  have hlong : Plain.isTooLong ⟨Nat.toDigits 10 n.natAbs, false, [], none⟩ 0 = false := by
    have hlimit : decide (Number.digitLimit < (Nat.toDigits 10 n.natAbs).length) = false :=
      decide_eq_false (not_lt.mpr h)
    rw [Plain.isTooLong, hlimit, Bool.and_false]
  rw [repr_eq, toNumber_signMark_append
    (.of_isDigits Nat.toDigits_ne_nil (isDigits_toDigits _)) hlong, unsigned_of_whole,
    digitsValue_toDigits, signed_int rfl]

/-- A double that equals a whole number is whole, and the whole number is its floor. -/
theorem floor_of_eq {x : Float} {n : Int} (h : (Number.float x).eq (.int n) = true) :
    Binary64.isWhole x = true ∧ Binary64.floor x = n := by
  rw [Number.eq, beq_iff_eq, Number.compare?_eq_some_iff] at h
  obtain ⟨value, value', hx, hn, hcmp⟩ := h
  rw [Number.exactValue?_int] at hn
  cases hn
  have hsame : value = (0, n * (Binary64.unitsPerOne : Int)) :=
    toLex.injective ((cmp_eq_eq_iff _ _).mp hcmp)
  subst hsame
  obtain ⟨hfinite, hunits⟩ := Number.exactValue?_of_finite hx rfl
  dsimp only at hunits
  have hmagnitude : Binary64.units x = n.natAbs * Binary64.unitsPerOne := by
    rw [← Binary64.natAbs_signedUnits, ← hunits, Int.natAbs_mul, Int.natAbs_natCast]
  constructor
  · rw [Binary64.isWhole, hfinite, hmagnitude, Nat.mul_mod_left]
    rfl
  · rw [Binary64.floor, ← hunits]
    exact Int.mul_ediv_cancel n Number.unitsPerOne_pos.ne'

theorem toText_float {x : Float} (h : x.isFinite = true) :
    (Value.ofFloat x).toText = (Number.float x).general :=
  toText_number (a := .float x) (Binary64.not_isNaN_of_isFinite h)

theorem length_toDigits_le {n : Nat} (h : n < 10 ^ 15) :
    (Nat.toDigits 10 n).length ≤ Number.digitLimit :=
  ((Nat.length_toDigits_le_iff (by decide) (by decide)).mpr h).trans (by decide)

theorem general_float_of_whole {x : Float} (hw : Binary64.isWhole x = true)
    (h : (Binary64.floor x).natAbs < 10 ^ 15) :
    (Number.float x).general = .ok (Binary64.floor x).repr := by
  unfold Number.general
  dsimp only
  rw [if_pos]
  rw [hw, Bool.true_and, decide_eq_true_eq, Binary64.tenTo_eq]
  exact h

/-- Whole numbers survive their text: one with at most 4300 digits is read as itself, and a double
that equals a whole number below `10¹⁵` is read as that number. -/
theorem whole_number_survives_text :
    (∀ n : Int, (Nat.toDigits 10 n.natAbs).length ≤ 4300 →
      ∃ s, (Value.ofInt n).toText = .ok s ∧ (Value.text s).toNumber = .ok (.int n)) ∧
    ∀ (x : Float) (n : Int), (Number.float x).eq (.int n) = true → n.natAbs < 10 ^ 15 →
      ∃ s, (Value.ofFloat x).toText = .ok s ∧ (Value.text s).toNumber = .ok (.int n) := by
  constructor
  · intro n h
    refine ⟨n.repr, ?_, toNumber_repr h⟩
    rw [Value.ofInt, toText_number rfl, general_int h]
  · intro x n heq h
    obtain ⟨hwhole, hfloor⟩ := floor_of_eq heq
    have hfinite : x.isFinite = true := (Bool.and_eq_true_iff.mp hwhole).1
    refine ⟨n.repr, ?_, toNumber_repr (length_toDigits_le h)⟩
    rw [toText_float hfinite,
      general_float_of_whole hwhole (by rwa [hfloor]), hfloor]

/-- A whole number of twenty-one digits, and the least double that is written as a whole number. -/
theorem whole_number_survives_text_at_limits :
    (∃ s, (Value.ofInt (10 ^ 20)).toText = .ok s ∧
      (Value.text s).toNumber = .ok (.int (10 ^ 20))) ∧
    ∃ s, (Value.ofFloat (Float.ofBits 0xc30c6bf52633fff8)).toText = .ok s ∧
      (Value.text s).toNumber = .ok (.int (-999999999999999)) := by
  obtain ⟨hints, hfloats⟩ := whole_number_survives_text
  have hlength : (Nat.toDigits 10 ((10 : Int) ^ 20).natAbs).length ≤ 4300 := by decide +kernel
  have heq :
      (Number.float (Float.ofBits 0xc30c6bf52633fff8)).eq (.int (-999999999999999)) = true := by
    decide +kernel
  exact ⟨hints _ hlength, hfloats _ _ heq (by decide)⟩

end SheetFormulas
