import SheetFormulas.Decimal.Layout
import SheetFormulas.Proofs.Binary64.Rounding
import SheetFormulas.Proofs.Decimal.Significant
import SheetFormulas.Proofs.Numeral.Separators
import SheetFormulas.Proofs.Text.Latin

/-!
Significant digits written in a cell are plain numerals of the same value, in scientific form, in
positional form and as whole numbers. The digits of a whole number are written as it is.
-/

namespace SheetFormulas

open Text

/-! Values of digit strings. -/

theorem digitsValue_append (s t : List Char) :
    digitsValue (s ++ t) = digitsValue s * 10 ^ t.length + digitsValue t := by
  have hfrom : ∀ (t : List Char) (start : Nat),
      t.foldl (fun value c => value * 10 + (digitValue? c).getD 0) start =
        start * 10 ^ t.length + digitsValue t := by
    intro t
    induction t with
    | nil => simp [digitsValue]
    | cons c t ih =>
      intro start
      rw [digitsValue, List.foldl_cons, List.foldl_cons, ih, ih, List.length_cons, pow_succ]
      ring
  rw [digitsValue, List.foldl_append, hfrom, ← digitsValue]

theorem digitsValue_zeros (k : Nat) : digitsValue (List.replicate k '0') = 0 := by
  induction k with
  | zero => rfl
  | succ k ih => exact ih

theorem digitsValue_append_zeros (digits : List Char) (k : Nat) :
    digitsValue (digits ++ List.replicate k '0') = digitsValue digits * 10 ^ k := by
  rw [digitsValue_append, digitsValue_zeros, List.length_replicate, Nat.add_zero]

theorem digitsValue_zeros_append (k : Nat) (digits : List Char) :
    digitsValue (List.replicate k '0' ++ digits) = digitsValue digits := by
  rw [digitsValue_append, digitsValue_zeros, Nat.zero_mul, Nat.zero_add]

theorem toDigits_mul_ten_pow {n : Nat} (h : 0 < n) (k : Nat) :
    Nat.toDigits 10 (n * 10 ^ k) = Nat.toDigits 10 n ++ List.replicate k '0' := by
  induction k with
  | zero => rw [pow_zero, Nat.mul_one, List.replicate_zero, List.append_nil]
  | succ k ih =>
    have hstep := Nat.toDigits_append_toDigits (b := 10) (n := n * 10 ^ k) (d := 0) (by decide)
      (by positivity) (by decide)
    rw [List.replicate_succ', ← List.append_assoc, ← ih, pow_succ]
    rw [show n * (10 ^ k * 10) = 10 * (n * 10 ^ k) + 0 by ring, ← hstep]
    rfl

namespace Decimal

/-! Zeros at the end. -/

theorem dropTrailingZeros_append_zeros (digits : List Char) (k : Nat) :
    dropTrailingZeros (digits ++ List.replicate k '0') = dropTrailingZeros digits := by
  have hzeros : ∀ c ∈ List.replicate k '0', (c == '0') = true := fun c hc =>
    beq_iff_eq.mpr (List.eq_of_mem_replicate hc)
  unfold dropTrailingZeros
  rw [List.reverse_append, List.reverse_replicate, List.dropWhile_append_of_pos hzeros]

/-- Only zeros are dropped, and one digit stays. -/
theorem exists_dropTrailingZeros {digits : List Char} (hne : digits ≠ []) :
    dropTrailingZeros digits ≠ [] ∧
      ∃ k, digits = dropTrailingZeros digits ++ List.replicate k '0' := by
  have hsplit : (digits.reverse.dropWhile (· == '0')).reverse ++
      (digits.reverse.takeWhile (· == '0')).reverse = digits := by
    rw [← List.reverse_append, List.takeWhile_append_dropWhile, List.reverse_reverse]
  have hzeros : (digits.reverse.takeWhile (· == '0')).reverse =
      List.replicate (digits.reverse.takeWhile (· == '0')).length '0' := by
    rw [List.eq_replicate_iff]
    refine ⟨List.length_reverse, fun c hc => ?_⟩
    exact beq_iff_eq.mp (List.mem_takeWhile_imp (p := (· == '0')) (List.mem_reverse.mp hc))
  rw [hzeros] at hsplit
  generalize (digits.reverse.takeWhile (· == '0')).length = k at hsplit
  unfold dropTrailingZeros
  generalize (digits.reverse.dropWhile (· == '0')).reverse = kept at hsplit ⊢
  cases kept with
  | cons c rest => exact ⟨List.cons_ne_nil _ _, k, hsplit.symm⟩
  | nil =>
    -- nothing but zeros: the first of them is kept
    cases k with
    | zero => exact absurd hsplit.symm hne
    | succ k => exact ⟨List.cons_ne_nil _ _, k, hsplit.symm⟩

end Decimal

namespace Numeral

/-- The exact value of a plain numeral. -/
def Plain.value (p : Plain) : ℚ :=
  digitsValue (p.whole ++ p.fraction) * 10 ^ (p.exponentValue - p.fraction.length)

/-- The nearest double is that of any quotient with the same value. -/
theorem Plain.nearest_eq {p : Plain} {num den : Nat} (hd : 0 < den) (h : p.value = num / den) :
    p.nearest = Binary64.ofRatio false num den := by
  have hden : (den : ℚ) ≠ 0 := Nat.cast_ne_zero.mpr hd.ne'
  obtain ⟨e, he⟩ : ∃ e, p.exponentValue - (p.fraction.length : ℤ) = e := ⟨_, rfl⟩
  have hpower : (10 : ℚ) ^ e * 10 ^ (-e).toNat = 10 ^ e.toNat := by
    rw [← zpow_natCast, ← zpow_natCast, ← zpow_add₀ (by norm_num)]
    congr 1
    omega
  rw [Plain.value, he, eq_div_iff hden] at h
  unfold nearest
  rw [he, show (p.fraction.length : ℤ) - p.exponentValue = -e by omega]
  generalize digitsValue (p.whole ++ p.fraction) = digits at h ⊢
  apply Binary64.ofRatio_congr
  rw [Binary64.nearestBits_eq, Binary64.nearestBits_eq]
  apply Binary64.nearestUnits_congr (tenTo_pos _) hd
  have hcross : digits * tenTo e.toNat * den = num * tenTo (-e).toNat := by
    rw [Binary64.tenTo_eq, Binary64.tenTo_eq, ← Nat.cast_inj (R := ℚ)]
    push_cast
    rw [← h, ← hpower]
    ring
  rw [Nat.mul_right_comm, hcross]
  ring

/-- A text of a number is a plain numeral of its value, and none that is too long. -/
structure Spells (text : List Char) (value : ℚ) (p : Plain) : Prop where
  plain : PlainNumeral p text
  value_eq : p.value = value
  isTooLong : p.isTooLong 0 = false

end Numeral

namespace Decimal

open Numeral

section

variable {digits : List Char}

theorem exponent_exponentText (e : ℤ) :
    ∃ sign exponent, exponentText e = String.ofList (sign ++ exponent) ∧
      ExponentSign (decide (e < 0)) sign ∧ exponent ≠ [] ∧ IsDigits exponent ∧
      digitsValue exponent = e.natAbs := by
  have hsign : ∃ sign, (if e < 0 then "-" else "+") = String.ofList sign ∧
      ExponentSign (decide (e < 0)) sign := by
    by_cases he : e < 0
    · rw [if_pos he, decide_eq_true he]
      exact ⟨_, rfl, .minus⟩
    · rw [if_neg he, decide_eq_false he]
      exact ⟨_, rfl, .plus⟩
  obtain ⟨sign, htext, hs⟩ := hsign
  refine ⟨sign, paddedDigits (2 - (Nat.toDigits 10 e.natAbs).length) e.natAbs, ?_, hs, ?_,
    isDigits_paddedDigits _ _, digitsValue_paddedDigits _ _⟩
  · rw [exponentText, htext, ← String.ofList_append]
    rfl
  · exact List.append_ne_nil_of_right_ne_nil _ Nat.toDigits_ne_nil

/-- Digits in scientific form are no whole number. -/
theorem exists_spells_scientificText (hne : digits ≠ []) (hd : IsDigits digits) (e : ℤ) :
    ∃ text p, scientificText "E" digits e = String.ofList text ∧
      Spells text (digitsValue digits * 10 ^ (e + 1 - digits.length)) p ∧ p.isWhole = false := by
  obtain ⟨sign, exponent, htext, hs, hne', hd', hvalue⟩ := exponent_exponentText e
  have hexponent : Exponent (some (decide (e < 0), exponent)) ('E' :: (sign ++ exponent)) :=
    .given (.inr rfl) hs hne' hd'
  have hpower :
      (if decide (e < 0) then -(digitsValue exponent : ℤ) else digitsValue exponent) = e := by
    rw [hvalue]
    exact ite_neg_natAbs e
  cases digits with
  | nil => exact absurd rfl hne
  | cons d rest =>
    have hfirst : IsDigits [d] := fun c hc => hd c (List.mem_singleton.mp hc ▸ List.mem_cons_self)
    have hrest : IsDigits rest := fun c hc => hd c (List.mem_cons_of_mem _ hc)
    have hexact : (e - rest.length : ℤ) = e + 1 - (d :: rest).length := by
      rw [List.length_cons]
      push_cast
      ring
    by_cases hlone : rest = []
    · subst hlone
      refine ⟨[d] ++ 'E' :: (sign ++ exponent), _, ?_,
        ⟨.whole (List.cons_ne_nil _ _) hfirst hexponent, ?_, rfl⟩, rfl⟩
      · rw [scientificText, htext]
        simp [← String.toList_inj]
      · rw [Plain.value, Plain.exponentValue]
        dsimp only
        rw [hpower, List.append_nil, ← hexact]
    · refine ⟨[d] ++ '.' :: (rest ++ 'E' :: (sign ++ exponent)), _, ?_,
        ⟨.pointed hfirst hrest (.inl (List.cons_ne_nil _ _)) hexponent, ?_, rfl⟩, rfl⟩
      · obtain ⟨second, more, rfl⟩ := List.exists_cons_of_ne_nil hlone
        rw [scientificText, htext]
        · simp [← String.toList_inj]
        · exact fun h => hlone h
      · rw [Plain.value, Plain.exponentValue]
        dsimp only
        rw [hpower, ← hexact]
        rfl

/-- Digits behind a point and zeros. -/
theorem exists_spells_positionalText_of_neg (hd : IsDigits digits) {e : ℤ} (he : e < 0) :
    ∃ text p, positionalText "" digits e = String.ofList text ∧
      Spells text (digitsValue digits * 10 ^ (e + 1 - digits.length)) p := by
  have hfraction : IsDigits (List.replicate ((-e).toNat - 1) '0' ++ digits) :=
    (isDigits_zeros _).append hd
  have hzero : IsDigits ['0'] := isDigits_iff_all.mp (by decide)
  have hplain := PlainNumeral.pointed hzero hfraction (.inl (List.cons_ne_nil _ _)) .missing
  refine ⟨_, _, ?_, hplain, ?_, rfl⟩
  · rw [positionalText, if_pos he]
    simp [← String.toList_inj]
  · rw [Plain.value, Plain.exponentValue]
    dsimp only
    have hlength : (0 - ((List.replicate ((-e).toNat - 1) '0' ++ digits).length : ℕ) : ℤ) =
        e + 1 - digits.length := by
      rw [List.length_append, List.length_replicate]
      omega
    rw [hlength, ← List.append_assoc, show ['0'] ++ List.replicate ((-e).toNat - 1) '0' =
      List.replicate ((-e).toNat - 1 + 1) '0' from rfl, digitsValue_zeros_append]

/-- Digits with a point among them, or before zeros that fill up a whole number. -/
theorem exists_spells_positionalText (hne : digits ≠ []) (hd : IsDigits digits) {e : ℤ}
    (he : 0 ≤ e) (hsmall : e < 15) :
    ∃ text p, positionalText "" digits e = String.ofList text ∧
      Spells text (digitsValue digits * 10 ^ (e + 1 - digits.length)) p := by
  obtain ⟨n, rfl⟩ := Int.eq_ofNat_of_zero_le he
  unfold positionalText
  rw [if_neg (by omega), Int.toNat_natCast]
  dsimp only
  rcases Nat.lt_or_ge (n + 1) digits.length with hpoint | hfill
  · have hdrop : digits.drop (n + 1) ≠ [] := by simpa using hpoint
    have hfront : IsDigits (digits.take (n + 1)) := fun c hc => hd c (List.mem_of_mem_take hc)
    have hback : IsDigits (digits.drop (n + 1)) := fun c hc => hd c (List.mem_of_mem_drop hc)
    have hplain := PlainNumeral.pointed hfront hback (.inr hdrop) .missing
    refine ⟨_, _, ?_, hplain, ?_, rfl⟩
    · rw [if_neg (by simpa using hdrop), show n + 1 - digits.length = 0 by omega]
      simp [← String.toList_inj]
    · rw [Plain.value, Plain.exponentValue]
      dsimp only
      rw [List.take_append_drop, List.length_drop]
      congr 2
      omega
  · have hdrop : digits.drop (n + 1) = [] := List.drop_eq_nil_of_le hfill
    have hfilled : IsDigits (digits.take (n + 1) ++
        List.replicate (n + 1 - digits.length) '0') :=
      IsDigits.append (fun c hc => hd c (List.mem_of_mem_take hc)) (isDigits_zeros _)
    have hplain := PlainNumeral.of_isDigits (by simp [List.take_eq_nil_iff, hne]) hfilled
    have hlength : (digits.take (n + 1) ++ List.replicate (n + 1 - digits.length) '0').length ≤
        Number.digitLimit := by
      rw [List.length_append, List.length_take, List.length_replicate]
      unfold Number.digitLimit
      omega
    refine ⟨_, _, ?_, hplain, ?_, ?_⟩
    · rw [if_pos (by simpa using hfill), String.append_empty]
    · rw [Plain.value, Plain.exponentValue]
      dsimp only
      rw [List.append_nil, List.take_of_length_le hfill, digitsValue_append_zeros, List.length_nil]
      push_cast
      rw [mul_one, ← zpow_natCast]
      congr 2
      omega
    · rw [Plain.isTooLong, decide_eq_false (not_lt.mpr hlength), Bool.and_false]

end

/-- Significant digits are written as a numeral of their value, and as a whole number only below
`10¹⁵`. -/
theorem exists_spells_write {count : ℕ} {s : Scientific}
    (h : (Nat.toDigits 10 s.digits).length = count) :
    ∃ text p, Layout.general.write s = String.ofList text ∧ Spells text (s.value count) p ∧
      (p.isWhole = true → s.exponent < 15) := by
  obtain ⟨hne, k, hk⟩ := exists_dropTrailingZeros (@Nat.toDigits_ne_nil s.digits 10)
  have hd := isDigits_toDigits s.digits
  have hvalue := digitsValue_toDigits s.digits
  unfold Layout.write
  dsimp only
  generalize dropTrailingZeros (Nat.toDigits 10 s.digits) = digits at hk hne ⊢
  rw [hk] at hd hvalue h
  rw [digitsValue_append_zeros] at hvalue
  rw [List.length_append, List.length_replicate] at h
  have hdigits : IsDigits digits := fun c hc => hd c (List.mem_append_left _ hc)
  have hsame : s.value count = digitsValue digits * 10 ^ (s.exponent + 1 - digits.length) := by
    rw [Scientific.value, ← hvalue]
    push_cast
    rw [mul_assoc, ← zpow_natCast, ← zpow_add₀ (by norm_num)]
    congr 2
    omega
  rw [hsame]
  by_cases hform : s.exponent < -4 ∨ Layout.general.scientificFrom ≤ s.exponent
  · rw [if_pos hform]
    obtain ⟨text, p, htext, hspells, hwhole⟩ := exists_spells_scientificText hne hdigits s.exponent
    exact ⟨text, p, htext, hspells, fun hw => absurd hw (by rw [hwhole]; exact Bool.false_ne_true)⟩
  · rw [if_neg hform]
    have hsmall : s.exponent < 15 := not_le.mp (not_or.mp hform).2
    have hspells : ∃ text p, positionalText "" digits s.exponent = String.ofList text ∧
        Spells text (digitsValue digits * 10 ^ (s.exponent + 1 - digits.length)) p := by
      rcases lt_or_ge s.exponent 0 with hneg | hnonneg
      · exact exists_spells_positionalText_of_neg hdigits hneg
      · exact exists_spells_positionalText hne hdigits hnonneg hsmall
    obtain ⟨text, p, htext, hspells⟩ := hspells
    exact ⟨text, p, htext, hspells, fun _ => hsmall⟩

/-- Fifteen significant digits of a whole number. -/
def wholeDigits (n : ℕ) : Scientific :=
  ⟨n * 10 ^ (15 - (Nat.toDigits 10 n).length), ((Nat.toDigits 10 n).length : ℤ) - 1⟩

section

variable {n : ℕ} (hn : 0 < n) (h : n < 10 ^ 15)

include hn h

/-- A whole number with fifteen digits at most is not rounded. -/
theorem isRounding_wholeDigits : IsRounding 15 n (wholeDigits n) := by
  have hlength : (Nat.toDigits 10 n).length ≤ 15 :=
    (Nat.length_toDigits_le_iff (by decide) (by decide)).mpr h
  have hpos : 0 < (Nat.toDigits 10 n).length := Nat.length_toDigits_pos
  have hhigh : n < 10 ^ (Nat.toDigits 10 n).length :=
    (Nat.length_toDigits_le_iff (by decide) hpos).mp le_rfl
  have hlow : 10 ^ ((Nat.toDigits 10 n).length - 1) ≤ n := by
    rcases Nat.eq_zero_or_pos ((Nat.toDigits 10 n).length - 1) with hone | hmore
    · rwa [hone, pow_zero]
    · rw [← not_lt, ← Nat.length_toDigits_le_iff (by decide) hmore]
      omega
  have hvalue : (wholeDigits n).value 15 = n := by
    rw [Scientific.value, wholeDigits]
    push_cast
    rw [mul_assoc, ← zpow_natCast, ← zpow_add₀ (by norm_num), Nat.cast_sub hlength]
    push_cast
    rw [show (15 - ((Nat.toDigits 10 n).length : ℤ) + ((Nat.toDigits 10 n).length - 1 + 1 - 15)) = 0
      by ring, zpow_zero, mul_one]
  rw [← hvalue]
  apply isRounding_value
  · calc 10 ^ 14
        = 10 ^ ((Nat.toDigits 10 n).length - 1) * 10 ^ (15 - (Nat.toDigits 10 n).length) := by
          rw [← pow_add]
          congr 1
          omega
      _ ≤ n * 10 ^ (15 - (Nat.toDigits 10 n).length) := Nat.mul_le_mul_right _ hlow
  · calc n * 10 ^ (15 - (Nat.toDigits 10 n).length)
        < 10 ^ (Nat.toDigits 10 n).length * 10 ^ (15 - (Nat.toDigits 10 n).length) :=
          Nat.mul_lt_mul_of_pos_right hhigh (by positivity)
      _ = 10 ^ 15 := by rw [← pow_add, Nat.add_sub_cancel' hlength]

/-- The digits of a whole number are written as the whole number. -/
theorem write_wholeDigits :
    Layout.general.write (wholeDigits n) = String.ofList (Nat.toDigits 10 n) := by
  have hlength : (Nat.toDigits 10 n).length ≤ 15 :=
    (Nat.length_toDigits_le_iff (by decide) (by decide)).mpr h
  have hpos : 0 < (Nat.toDigits 10 n).length := Nat.length_toDigits_pos
  obtain ⟨hne, k, hk⟩ := exists_dropTrailingZeros (@Nat.toDigits_ne_nil n 10)
  obtain ⟨length, hsucc⟩ : ∃ length, (Nat.toDigits 10 n).length = length + 1 :=
    ⟨_, (Nat.succ_pred hpos.ne').symm⟩
  unfold Layout.write wholeDigits
  dsimp only
  rw [toDigits_mul_ten_pow hn, dropTrailingZeros_append_zeros]
  generalize dropTrailingZeros (Nat.toDigits 10 n) = digits at hk hne ⊢
  have hform : ¬ (((length + 1 : ℕ) : ℤ) - 1 < -4 ∨
      Layout.general.scientificFrom ≤ ((length + 1 : ℕ) : ℤ) - 1) := by
    have hfrom : Layout.general.scientificFrom = 15 := rfl
    omega
  have hle : digits.length ≤ length + 1 := by
    rw [← hsucc, hk, List.length_append]
    exact Nat.le_add_right _ _
  have hzeros : length + 1 - digits.length = k := by
    rw [hk, List.length_append, List.length_replicate] at hsucc
    omega
  rw [hsucc, if_neg hform]
  unfold positionalText
  rw [if_neg (by omega), show (((length + 1 : ℕ) : ℤ) - 1).toNat + 1 = length + 1 by omega]
  dsimp only
  rw [if_pos (by simpa using hle), List.take_of_length_le hle, hzeros, ← hk]
  exact String.append_empty

end

end Decimal

end SheetFormulas
