import SheetFormulas.Reference

/-!
Column letters. The letters of a column are digits from 1 to 26 in base 26, so that every number is
written down in one way and is read back from it, in either case.
-/

namespace SheetFormulas.Cell

open Text

/-- Whether a character is one of the letters from A to Z. -/
def IsCapital (c : Char) : Prop := 'A'.toNat ≤ c.toNat ∧ c.toNat ≤ 'Z'.toNat

instance (c : Char) : Decidable (IsCapital c) := inferInstanceAs (Decidable (_ ∧ _))

/-- The capitals are the letters with the numbers from 1 to 26. -/
theorem IsCapital.exists_eq {c : Char} (h : IsCapital c) :
    ∃ k : Fin 26, c = Char.ofNat ('A'.toNat + k) := by
  obtain ⟨hA, hZ⟩ := h
  have hlt : c.toNat - 'A'.toNat < 26 := by
    simp only [Char.reduceToNat] at hA hZ ⊢
    omega
  exact ⟨⟨_, hlt⟩, by rw [Nat.add_sub_cancel' hA, Char.ofNat_toNat]⟩

theorem isCapital_ofNat {k : Nat} (h : k < 26) : IsCapital (Char.ofNat ('A'.toNat + k)) := by
  revert k
  decide

theorem letterNumber?_ofNat {k : Nat} (h : k < 26) :
    letterNumber? (Char.ofNat ('A'.toNat + k)) = some (k + 1) := by
  revert k
  decide

/-! The letters of a number. -/

theorem columnLetters_zero : columnLetters 0 = [] := by
  rw [columnLetters, if_pos rfl]

theorem columnLetters_of_ne_zero {n : Nat} (h : n ≠ 0) :
    columnLetters n = columnLetters ((n - 1) / 26) ++ [Char.ofNat ('A'.toNat + (n - 1) % 26)] := by
  rw [columnLetters, if_neg h]

theorem columnNumber?_append (letters : List Char) (c : Char) :
    columnNumber? (letters ++ [c]) =
      (columnNumber? letters).bind fun number => (letterNumber? c).map (number * 26 + ·) := by
  rw [columnNumber?, List.foldlM_append, ← columnNumber?]
  refine Option.bind_congr fun number _ => ?_
  rw [List.foldlM_cons]
  cases letterNumber? c <;> rfl

/-- The letters of a column are read as its number. -/
theorem columnNumber?_columnLetters (n : Nat) : columnNumber? (columnLetters n) = some n := by
  induction n using columnLetters.induct with
  | case1 => rw [columnLetters_zero]; rfl
  | case2 n h ih =>
    rw [columnLetters_of_ne_zero h, columnNumber?_append, ih, Option.bind_some,
      letterNumber?_ofNat (Nat.mod_lt _ (by decide)), Option.map_some]
    have hnumber : (n - 1) / 26 * 26 + ((n - 1) % 26 + 1) = n := by omega
    rw [hnumber]

example : columnNumber? ['X', 'F', 'D'] = some columnLimit := by decide

theorem isCapital_of_mem_columnLetters {n : Nat} {c : Char} (h : c ∈ columnLetters n) :
    IsCapital c := by
  induction n using columnLetters.induct with
  | case1 =>
    rw [columnLetters_zero] at h
    cases h
  | case2 n hn ih =>
    rw [columnLetters_of_ne_zero hn, List.mem_append, List.mem_singleton] at h
    rcases h with h | rfl
    · exact ih h
    · exact isCapital_ofNat (Nat.mod_lt _ (by decide))

theorem one_le_length_columnLetters {n : Nat} (h : 1 ≤ n) : 1 ≤ (columnLetters n).length := by
  rw [columnLetters_of_ne_zero (by omega), List.length_append, List.length_singleton]
  omega

/-- One more letter is enough for 26 times as many numbers and the next 26. -/
theorem length_columnLetters_le {n bound length : Nat} (hn : n ≤ 26 * bound + 26)
    (h : ∀ m ≤ bound, (columnLetters m).length ≤ length) :
    (columnLetters n).length ≤ length + 1 := by
  by_cases hzero : n = 0
  · rw [hzero, columnLetters_zero]
    exact Nat.zero_le _
  · have hdivided := h ((n - 1) / 26) (by omega)
    rw [columnLetters_of_ne_zero hzero, List.length_append, List.length_singleton]
    omega

theorem length_columnLetters_le_three {n : Nat} (h : n ≤ columnLimit) :
    (columnLetters n).length ≤ 3 := by
  have hnone : ∀ m ≤ 0, (columnLetters m).length ≤ 0 := by
    intro m hm
    obtain rfl := Nat.le_zero.mp hm
    rw [columnLetters_zero]
    exact Nat.le_refl 0
  have hone : ∀ m ≤ 26, (columnLetters m).length ≤ 1 := fun m hm =>
    length_columnLetters_le (by omega) hnone
  have htwo : ∀ m ≤ 702, (columnLetters m).length ≤ 2 := fun m hm =>
    length_columnLetters_le (by omega) hone
  exact length_columnLetters_le (by unfold columnLimit at h; omega) htwo

/-! Letters in either case. -/

theorem isLatinLetter_of_isCapital {c : Char} (h : IsCapital c) : isLatinLetter c = true := by
  have hall : ∀ k : Fin 26, isLatinLetter (Char.ofNat ('A'.toNat + k)) = true := by decide +kernel
  obtain ⟨k, rfl⟩ := h.exists_eq
  exact hall k

theorem toUpper_of_isCapital {c : Char} (h : IsCapital c) : c.toUpper = c := by
  have hall : ∀ k : Fin 26, (Char.ofNat ('A'.toNat + k)).toUpper = Char.ofNat ('A'.toNat + k) := by
    decide
  obtain ⟨k, rfl⟩ := h.exists_eq
  exact hall k

theorem upperChar_of_isCapital {c : Char} (h : IsCapital c.toUpper) : upperChar c = [c.toUpper] := by
  have hlatin : c.toNat < 0x80 := by
    unfold Char.toUpper at h
    split at h
    · next hlower => exact Nat.lt_of_le_of_lt (UInt32.le_iff_toNat_le.mp hlower.2) (by decide)
    · exact Nat.lt_of_le_of_lt h.2 (by decide)
  rw [upperChar, if_pos hlatin]

/-- Letters that are capitals apart from their case have these for their upper case. -/
theorem upper_eq_of_map_toUpper {letters : List Char}
    (h : ∀ c ∈ letters.map Char.toUpper, IsCapital c) : upper letters = letters.map Char.toUpper := by
  induction letters with
  | nil => rfl
  | cons c rest ih =>
    rw [List.map_cons, List.forall_mem_cons] at h
    rw [upper, List.flatMap_cons, upperChar_of_isCapital h.1, ← upper, ih h.2]
    rfl

end SheetFormulas.Cell
