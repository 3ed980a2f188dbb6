import Mathlib.Data.List.Basic
import SheetFormulas.Proofs.Text.Pieces
import SheetFormulas.Text.Latin
import SheetFormulas.Text.Letter

/-!
Basic Latin letters and digits. They are apart from each other and from the blanks, digits have no
case, and the digits of a number, with zeros in front or not, are read as the number.
-/

namespace SheetFormulas.Text

theorem digitValue?_of_isLatinDigit {c : Char} (h : isLatinDigit c = true) :
    digitValue? c = some (c.toNat - '0'.toNat) := by
  simp only [isLatinDigit, Bool.and_eq_true, decide_eq_true_eq] at h
  have hlatin : c.toNat < 0x80 := by omega
  unfold digitValue?
  dsimp only
  rw [if_pos hlatin, if_pos h]
  rfl

/-- The codes of the blanks. -/
def blankCodes : List Nat :=
  [0x09, 0x0a, 0x0b, 0x0c, 0x0d, 0x1c, 0x1d, 0x1e, 0x1f, 0x20, 0x85, 0xa0, 0x1680, 0x2000, 0x2001,
    0x2002, 0x2003, 0x2004, 0x2005, 0x2006, 0x2007, 0x2008, 0x2009, 0x200a, 0x2028, 0x2029, 0x202f,
    0x205f, 0x3000]

theorem mem_blankCodes {c : Char} (h : isBlank c = true) : c.toNat ∈ blankCodes := by
  simp only [isBlank, Bool.or_eq_true, Bool.and_eq_true, decide_eq_true_eq, beq_iff_eq] at h
  simp only [blankCodes, List.mem_cons, List.not_mem_nil, or_false]
  omega

theorem isLatinLetter_of_isBlank {c : Char} (h : isBlank c = true) : isLatinLetter c = false := by
  have hall : ∀ n ∈ blankCodes, isLatinLetter (Char.ofNat n) = false := by decide +kernel
  have hc := hall c.toNat (mem_blankCodes h)
  rwa [Char.ofNat_toNat] at hc

theorem isBlank_of_isLatinLetter {c : Char} (h : isLatinLetter c = true) : isBlank c = false := by
  rw [← Bool.not_eq_true]
  intro hblank
  rw [isLatinLetter_of_isBlank hblank] at h
  cases h

/-- The codes of the digits. -/
theorem exists_of_isLatinDigit {c : Char} (h : isLatinDigit c = true) :
    ∃ k : Fin 10, c = Char.ofNat (0x30 + k) := by
  simp only [isLatinDigit, Bool.and_eq_true, decide_eq_true_eq] at h
  refine ⟨⟨c.toNat - 0x30, by omega⟩, ?_⟩
  rw [Nat.add_sub_cancel' h.1, Char.ofNat_toNat]

theorem isLatinLetter_of_isLatinDigit {c : Char} (h : isLatinDigit c = true) :
    isLatinLetter c = false := by
  obtain ⟨k, rfl⟩ := exists_of_isLatinDigit h
  revert k
  decide +kernel

theorem isDigit_of_isLatinDigit {c : Char} (h : isLatinDigit c = true) : isDigit c = true := by
  rw [isDigit, digitValue?_of_isLatinDigit h, Option.isSome_some]

theorem isBlank_of_isLatinDigit {c : Char} (h : isLatinDigit c = true) : isBlank c = false :=
  isBlank_of_isDigit (isDigit_of_isLatinDigit h)

theorem isDigitLike_of_isLatinDigit {c : Char} (h : isLatinDigit c = true) :
    isDigitLike c = true := by
  rw [isDigitLike, isDigit_of_isLatinDigit h, Bool.true_or]

theorem isLetter_of_isLatinDigit {c : Char} (h : isLatinDigit c = true) : isLetter c = false := by
  obtain ⟨k, rfl⟩ := exists_of_isLatinDigit h
  revert k
  decide

theorem lower_of_isLatinDigit {digits : List Char} (h : ∀ c ∈ digits, isLatinDigit c = true) :
    lower digits = digits := by
  have hchar : ∀ k : Fin 10, Char.ofNat (0x30 + k) ≠ '\u0130' ∧ Char.ofNat (0x30 + k) ≠ '\u03a3' ∧
      lowerChar (Char.ofNat (0x30 + k)) = Char.ofNat (0x30 + k) := by
    decide
  unfold lower
  generalize [] = before
  induction digits generalizing before with
  | nil => rfl
  | cons c rest ih =>
    obtain ⟨k, hk⟩ := exists_of_isLatinDigit (h c List.mem_cons_self)
    obtain ⟨hi, hs, hc⟩ := hchar k
    rw [← hk] at hi hs hc
    rw [lowerAfter, if_neg hi, if_neg hs, hc, ih (List.forall_mem_of_forall_mem_cons h)]
    rfl

/-! Whole numbers in decimal. -/

theorem isLatinDigit_of_isDigit {c : Char} (h : c.isDigit = true) : isLatinDigit c = true := by
  rw [Char.isDigit, Bool.and_eq_true, decide_eq_true_eq, decide_eq_true_eq] at h
  rw [isLatinDigit, Bool.and_eq_true, decide_eq_true_eq, decide_eq_true_eq]
  exact ⟨UInt32.le_iff_toNat_le.mp h.1, UInt32.le_iff_toNat_le.mp h.2⟩

theorem isLatinNumeral_iff {digits : List Char} :
    isLatinNumeral digits = true ↔ digits ≠ [] ∧ ∀ c ∈ digits, isLatinDigit c = true := by
  rw [isLatinNumeral, Bool.and_eq_true, Bool.not_eq_true', List.isEmpty_eq_false_iff, List.all_eq_true]

theorem digitsValue_eq_ofDigitChars {digits : List Char} (h : ∀ c ∈ digits, isLatinDigit c = true) :
    digitsValue digits = Nat.ofDigitChars 10 digits 0 := by
  refine List.foldl_ext _ _ _ fun value c hc => ?_
  rw [digitValue?_of_isLatinDigit (h c hc), Option.getD_some, Nat.mul_comm]

theorem isDigits_zeros (k : Nat) : IsDigits (List.replicate k '0') := fun c hc => by
  rw [List.eq_of_mem_replicate hc]
  decide

/-- The digits of a number, with some zeros in front. -/
def paddedDigits (zeros n : Nat) : List Char := List.replicate zeros '0' ++ Nat.toDigits 10 n

theorem isLatinDigit_of_mem_paddedDigits {zeros n : Nat} {c : Char} (h : c ∈ paddedDigits zeros n) :
    isLatinDigit c = true := by
  rcases List.mem_append.mp h with h | h
  · rw [List.eq_of_mem_replicate h]
    decide
  · exact isLatinDigit_of_isDigit (Nat.isDigit_of_mem_toDigits (by decide) (by decide) h)

theorem isDigits_paddedDigits (zeros n : Nat) : IsDigits (paddedDigits zeros n) := fun _ hc =>
  isDigit_of_isLatinDigit (isLatinDigit_of_mem_paddedDigits hc)

theorem isDigits_toDigits (n : Nat) : IsDigits (Nat.toDigits 10 n) := isDigits_paddedDigits 0 n

theorem isLatinNumeral_paddedDigits (zeros n : Nat) :
    isLatinNumeral (paddedDigits zeros n) = true :=
  isLatinNumeral_iff.mpr
    ⟨List.append_ne_nil_of_right_ne_nil _ Nat.toDigits_ne_nil, fun _ => isLatinDigit_of_mem_paddedDigits⟩

/-- Zeros in front of the digits of a number do not count. -/
theorem digitsValue_paddedDigits (zeros n : Nat) : digitsValue (paddedDigits zeros n) = n := by
  rw [digitsValue_eq_ofDigitChars fun c => isLatinDigit_of_mem_paddedDigits, paddedDigits]
  induction zeros with
  | zero => exact Nat.ofDigitChars_toDigits (by decide) (by decide)
  | succ zeros ih => exact ih

theorem digitsValue_toDigits (n : Nat) : digitsValue (Nat.toDigits 10 n) = n :=
  digitsValue_paddedDigits 0 n

end SheetFormulas.Text
