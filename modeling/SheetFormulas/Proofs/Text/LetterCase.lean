import Mathlib.Data.List.Forall2
import Mathlib.Tactic.SplitIfs
import SheetFormulas.Text.Caseless

/-!
Agreement of characters up to case. Between characters of Basic Latin it is equality of the lower
case forms, and a tilde agrees with itself only. Two texts of Basic Latin agree character by
character if their lower case forms are the same text.
-/

namespace SheetFormulas.Text

theorem caselessKey_of_lt {c : Char} (h : c.toNat < 0x80) : caselessKey c = c.toLower := by
  have hall : ∀ n : Fin 0x80, caselessKey (Char.ofNat n) = (Char.ofNat n).toLower := by
    decide +kernel
  have hc := hall ⟨c.toNat, h⟩
  rwa [Char.ofNat_toNat] at hc

/-- Characters of Basic Latin agree if their lower case forms are equal. -/
theorem agreeCaseless_iff_toLower {a b : Char} (ha : a.toNat < 0x80) (hb : b.toNat < 0x80) :
    agreeCaseless a b = true ↔ a.toLower = b.toLower := by
  rw [agreeCaseless, caselessKey_of_lt ha, caselessKey_of_lt hb, beq_iff_eq]

theorem toNat_ofNat_ne {n code : Nat} (h : n ≠ code) (hc : code ≠ 0) : (Char.ofNat n).toNat ≠ code := by
  unfold Char.ofNat
  by_cases hvalid : n.isValidChar
  · rw [dif_pos hvalid]
    exact h
  · rw [dif_neg hvalid]
    exact hc.symm

/-- No character that the table moves becomes a tilde. -/
theorem shiftBy_ne_tilde {c : Char} (h : c ≠ '~') : shiftBy lowerShifts c ≠ '~' := by
  have htable : ∀ s ∈ lowerShifts, s.last + s.up < 0x7e + s.down ∨ 0x7e + s.down < s.first + s.up := by
    decide +kernel
  unfold shiftBy
  split
  · next s hs =>
    have hentry := htable s (List.mem_of_find?_eq_some hs)
    have hmoves := List.find?_some hs
    simp only [Shift.moves, Bool.and_eq_true, decide_eq_true_eq] at hmoves
    obtain ⟨⟨hfirst, hlast⟩, -⟩ := hmoves
    have hcode : c.toNat + s.up - s.down ≠ 0x7e := by omega
    intro heq
    exact toNat_ofNat_ne hcode (by decide) (congrArg Char.toNat heq)
  · exact h

theorem caselessKey_ne_tilde {c : Char} (h : c ≠ '~') : caselessKey c ≠ '~' := by
  have hfamilies : ∀ family ∈ letterFamilies, family.head? ≠ some '~' := by decide
  have hlower : lowerChar c ≠ '~' := by
    unfold lowerChar
    split_ifs with hlt
    · have hall : ∀ n : Fin 0x80, (Char.ofNat n).toLower = '~' → Char.ofNat n = '~' := by decide +kernel
      have hc := hall ⟨c.toNat, hlt⟩
      rw [Char.ofNat_toNat] at hc
      exact fun heq => h (hc heq)
    · exact shiftBy_ne_tilde h
  unfold caselessKey
  dsimp only
  split
  · next first rest hfind =>
    intro heq
    exact hfamilies _ (List.mem_of_find?_eq_some hfind) (congrArg some heq)
  · exact hlower

theorem agreeCaseless_tilde_iff {c : Char} : agreeCaseless '~' c = true ↔ c = '~' := by
  constructor
  · intro h
    have hkey : '~' = caselessKey c := beq_iff_eq.mp h
    exact Decidable.byContradiction fun hne => caselessKey_ne_tilde hne hkey.symm
  · rintro rfl
    rfl

/-- Whether all characters of a text are of Basic Latin. -/
def IsBasicLatin (text : List Char) : Prop := ∀ c ∈ text, c.toNat < 0x80

instance (text : List Char) : Decidable (IsBasicLatin text) := List.decidableBAll _ text

theorem isBasicLatin_cons {c : Char} {text : List Char} :
    IsBasicLatin (c :: text) ↔ c.toNat < 0x80 ∧ IsBasicLatin text := List.forall_mem_cons

theorem lowerAfter_of_isBasicLatin {text : List Char} (h : IsBasicLatin text) (before : List Char) :
    lowerAfter before text = text.map Char.toLower := by
  induction text generalizing before with
  | nil => rfl
  | cons c rest ih =>
    obtain ⟨hc, hrest⟩ := isBasicLatin_cons.mp h
    -- neither of the two capitals with a lower case form of their own is of Basic Latin
    have hdotted : c ≠ '\u0130' := by
      rintro rfl
      exact absurd hc (by decide)
    have hsigma : c ≠ '\u03a3' := by
      rintro rfl
      exact absurd hc (by decide)
    rw [lowerAfter, ih hrest, if_neg hdotted, if_neg hsigma, lowerChar, if_pos hc]
    rfl

/-- A text of Basic Latin is put in lower case one character at a time. -/
theorem lower_of_isBasicLatin {text : List Char} (h : IsBasicLatin text) :
    lower text = text.map Char.toLower := lowerAfter_of_isBasicLatin h []

theorem forall₂_agreeCaseless_iff {s t : List Char} (hs : IsBasicLatin s) (ht : IsBasicLatin t) :
    List.Forall₂ (fun c d => agreeCaseless c d = true) s t ↔ lower s = lower t := by
  rw [lower_of_isBasicLatin hs, lower_of_isBasicLatin ht]
  induction s generalizing t with
  | nil => cases t <;> simp
  | cons c s ih =>
    cases t with
    | nil => simp
    | cons d t =>
      obtain ⟨hc, hs⟩ := isBasicLatin_cons.mp hs
      obtain ⟨hd, ht⟩ := isBasicLatin_cons.mp ht
      rw [List.forall₂_cons, ih hs ht, agreeCaseless_iff_toLower hc hd, List.map_cons, List.map_cons,
        List.cons.injEq]

end SheetFormulas.Text
