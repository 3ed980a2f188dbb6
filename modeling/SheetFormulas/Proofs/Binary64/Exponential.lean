import SheetFormulas.Proofs.Binary64.Logarithm

/-!
Bounds of exponentials and powers of doubles. After its first terms the series is small, so an
exponential stays below the next power of two, is at most one where the exponent is not positive,
and is finite up to the logarithm of the greatest double. Powers inherit these bounds.
-/

namespace SheetFormulas.Binary64

attribute [local irreducible] unitsPerOne fixedOne lnTwo

section Series

variable {r : Int}

/-- The term after a term of the series. -/
theorem abs_next_le (hr : r.natAbs ≤ 2 ^ 127) (n : Nat) (term : Int) :
    2 * (((term * r) >>> fixedPlaces) / (n : Int)).natAbs ≤ term.natAbs + 2 := by
  have hle : (term * r).natAbs ≤ term.natAbs * 2 ^ 127 := by
    rw [Int.natAbs_mul]
    exact Nat.mul_le_mul_left _ hr
  have hdivided := Int.natAbs_ediv_le_natAbs ((term * r) >>> fixedPlaces) (n : Int)
  have hshifted : (term * r) >>> fixedPlaces = term * r / 2 ^ 128 := by
    rw [Int.shiftRight_eq_div_pow]
    rfl
  rw [hshifted] at hdivided ⊢
  omega

/-- The series is at most twice its first term, up to what is lost in rounding. -/
theorem abs_expTail_le (hr : r.natAbs ≤ 2 ^ 127) (terms n : Nat) (term : Int) :
    (expTail r terms n term).natAbs ≤ 2 * term.natAbs + 2 * terms := by
  induction terms generalizing n term with
  | zero =>
    exact Nat.zero_le _
  | succ terms ih =>
    have hnext := abs_next_le hr n term
    have hrest := ih (n + 1) (((term * r) >>> fixedPlaces) / (n : Int))
    rw [expTail]
    omega

theorem expTail_zero (r : Int) (terms n : Nat) : expTail r terms n 0 = 0 := by
  induction terms generalizing n with
  | zero => rfl
  | succ terms ih =>
    rw [expTail, Int.zero_mul, Int.zero_shiftRight, Int.zero_ediv, ih]
    rfl

/-- The second-order term of the series. -/
def secondOrder (r : Int) : Int := ((r * r) >>> fixedPlaces) / 2

theorem secondOrder_eq (r : Int) : secondOrder r = r * r / (2 * fixedOne) := by
  rw [secondOrder, Int.shiftRight_eq_div_pow, Int.ediv_ediv_of_nonneg (Int.natCast_nonneg _),
    fixedOne_eq, Int.mul_comm 2]
  rfl

theorem expTail_eq (r : Int) (terms : Nat) :
    expTail r (terms + 2) 1 fixedOne = fixedOne + (r + expTail r terms 3 (secondOrder r)) := by
  rw [expTail, expTail, secondOrder]
  have hfirst : ((fixedOne : Int) * r) >>> fixedPlaces / ((1 : Nat) : Int) = r := by
    rw [Int.shiftRight_eq_div_pow, fixedOne_eq, Int.natCast_one, Int.ediv_one]
    exact Int.mul_ediv_cancel_left r (by decide)
  rw [hfirst]
  rfl

theorem secondOrder_nonneg (r : Int) : 0 ≤ secondOrder r := by
  rw [secondOrder_eq]
  exact Int.ediv_nonneg (mul_self_nonneg r) (by omega)

/-- The smaller the argument, the smaller the second-order term is against it. -/
theorem secondOrder_le (factor : Nat) (h : r.natAbs * factor ≤ fixedOne) :
    2 * (secondOrder r).natAbs * factor ≤ r.natAbs := by
  have hnonneg := secondOrder_nonneg r
  have hsquare : 2 * (secondOrder r).natAbs * fixedOne ≤ r.natAbs * r.natAbs := by
    have hdiv := Int.ediv_mul_le (r * r) (show (2 * fixedOne : Int) ≠ 0 by have := fixedOne_pos; omega)
    rw [← secondOrder_eq, ← Int.natAbs_mul_self' r] at hdiv
    zify
    rw [abs_of_nonneg hnonneg]
    rw [← Int.natCast_natAbs]
    linarith
  refine Nat.le_of_mul_le_mul_right ?_ fixedOne_pos
  calc 2 * (secondOrder r).natAbs * factor * fixedOne
      = 2 * (secondOrder r).natAbs * fixedOne * factor := Nat.mul_right_comm _ _ _
    _ ≤ r.natAbs * r.natAbs * factor := Nat.mul_le_mul_right _ hsquare
    _ = r.natAbs * (r.natAbs * factor) := Nat.mul_assoc _ _ _
    _ ≤ r.natAbs * fixedOne := Nat.mul_le_mul_left _ h

/-- The series that an exponential runs. -/
def series (r : Int) : Int := expTail r 30 1 fixedOne

theorem series_le (hr : r.natAbs ≤ 2 ^ 127) :
    series r ≤ fixedOne + r + 2 * (secondOrder r).natAbs + 56 := by
  have htail := abs_expTail_le hr 28 3 (secondOrder r)
  rw [series, expTail_eq]
  omega

theorem series_lt_two (hr : 2 * r.natAbs ≤ lnTwo) : 10 * series r < 16 * fixedOne := by
  obtain ⟨-, hhigh⟩ := lnTwo_bounds
  have hone := fixedOne_eq
  have hsum := series_le (r := r) (by omega)
  have hsecond := secondOrder_le (r := r) 2 (by omega)
  omega

/-- Where the exponent is not positive, the series is at most one. -/
theorem series_le_one (hr : r.natAbs ≤ 2 ^ 127) (hneg : r ≤ 0) : series r ≤ fixedOne := by
  have hone := fixedOne_eq
  rcases Nat.lt_or_ge r.natAbs (2 ^ 64) with hlt | hge
  · -- the second-order term and all after it are lost
    have hsecond := secondOrder_le (r := r) (2 ^ 64) (by omega)
    have hzero : secondOrder r = 0 := by omega
    rw [series, expTail_eq, hzero, expTail_zero]
    omega
  · have hsum := series_le hr
    have hsecond := secondOrder_le (r := r) 2 (by omega)
    omega

/-- Below zero by the spacing of doubles, the series is less than one by half of it. -/
theorem series_lt_one (hr : r.natAbs ≤ 2 ^ 127) (hneg : r ≤ -2 ^ 75) :
    series r + 2 ^ 74 < fixedOne := by
  have hone := fixedOne_eq
  have hsum := series_le hr
  rcases Nat.lt_or_ge r.natAbs (2 ^ 100) with hlt | hge
  · have hsecond := secondOrder_le (r := r) (2 ^ 28) (by omega)
    omega
  · have hsecond := secondOrder_le (r := r) 2 (by omega)
    omega

end Series

section Exponential

variable {t : Int}

/-- An exponential from its whole powers of two and the series of what is left. -/
def assembled (twos r : Int) : Float :=
  if 0 ≤ twos then ofRatio false ((series r).toNat <<< twos.toNat) fixedOne
  else ofRatio false (series r).toNat (fixedOne <<< (-twos).toNat)

theorem exists_assembled (hlow : -(800 * fixedOne : Int) < t) (hhigh : t < (800 * fixedOne : Int)) :
    ∃ twos r, t = twos * lnTwo + r ∧ 2 * r.natAbs ≤ lnTwo ∧ expFixed t = assembled twos r := by
  have hpos : 0 < lnTwo := by
    have := lnTwo_bounds
    omega
  obtain ⟨twos, htwos⟩ : ∃ twos, twos = (t + (lnTwo / 2 : Nat)) / (lnTwo : Int) := ⟨_, rfl⟩
  refine ⟨twos, t - twos * lnTwo, by omega, ?_, ?_⟩
  · have hfloor := Int.mul_ediv_add_emod (t + (lnTwo / 2 : Nat)) lnTwo
    have hrest := Int.emod_nonneg (t + (lnTwo / 2 : Nat)) (show (lnTwo : Int) ≠ 0 by omega)
    have hrest' := Int.emod_lt_of_pos (t + (lnTwo / 2 : Nat)) (show (0 : Int) < lnTwo by omega)
    rw [← htwos, Int.mul_comm] at hfloor
    omega
  · unfold expFixed
    rw [if_neg (by push_cast; omega), if_neg (by push_cast; omega), ← htwos]
    rfl

theorem le_of_mul_lnTwo_le {twos r bound : Int} (hr : 2 * r.natAbs ≤ lnTwo)
    (h : twos * lnTwo + r ≤ bound * lnTwo) : twos ≤ bound := by
  by_contra hlt
  have hpos : 0 < lnTwo := by
    have := lnTwo_bounds
    omega
  have hmul : (bound + 1) * lnTwo ≤ twos * lnTwo :=
    Int.mul_le_mul_of_nonneg_right (by omega) (Int.natCast_nonneg _)
  rw [Int.add_mul] at hmul
  omega

theorem two_pow_mul_fixedOne (places : Nat) :
    fixedOne <<< places = 2 ^ places * fixedOne := by
  rw [Nat.shiftLeft_eq, Nat.mul_comm]

/-- An assembled exponential is at most a double that its parts are at most. -/
theorem assembled_le {twos r : Int} {z : Float} (hz : z.isFinite = true)
    (h : (series r).toNat * 2 ^ twos.toNat * unitsPerOne ≤
      units z * (2 ^ (-twos).toNat * fixedOne)) :
    (assembled twos r).isFinite = true ∧ units (assembled twos r) ≤ units z := by
  unfold assembled
  split_ifs with htwos
  · rw [show (-twos).toNat = 0 by omega, Nat.pow_zero, Nat.one_mul] at h
    rw [Nat.shiftLeft_eq]
    exact ofRatio_le false fixedOne_pos hz h
  · rw [show twos.toNat = 0 by omega, Nat.pow_zero, Nat.mul_one, ← two_pow_mul_fixedOne] at h
    refine ofRatio_le false ?_ hz h
    rw [two_pow_mul_fixedOne]
    exact Nat.mul_pos (Nat.two_pow_pos _) fixedOne_pos

theorem isNegative_expFixed (t : Int) : isNegative (expFixed t) = false := by
  unfold expFixed
  dsimp only
  split_ifs <;> exact isNegative_ofRatio _ _ _

/-- An exponential far below zero is zero. -/
theorem expFixed_of_le (h : t ≤ -(800 * fixedOne : Int)) :
    (expFixed t).isFinite = true ∧ units (expFixed t) = 0 := by
  have hpos := fixedOne_pos
  have hzero : expFixed t = 0 := by
    unfold expFixed
    rw [if_neg (by push_cast; omega), if_pos (by push_cast; omega)]
    decide +kernel
  rw [hzero]
  exact ⟨isFinite_zero, units_zero⟩

/-- The powers of two in the range are doubles. -/
theorem exists_two_pow {e : Nat} (he : e ≤ 2097) :
    ∃ z : Float, z.isFinite = true ∧ units z = 2 ^ e := by
  have hm : 2 ^ (e - 2045) < 2 ^ 53 := pow_lt_pow_right₀ (by decide) (by omega)
  have heq : 2 ^ e = 2 ^ (e - 2045) * 2 ^ min e 2045 := by
    rw [← pow_add]
    congr 1
    omega
  obtain ⟨hf, hunits⟩ := units_ofRatio_exact false unitsPerOne_pos hm (Nat.min_le_right e 2045)
    (congrArg (· * unitsPerOne) heq)
  exact ⟨_, hf, hunits.trans heq.symm⟩

/-- Where the exponent is not positive, an exponential is at most one. -/
theorem units_expFixed_le_one (h : t ≤ 0) :
    (expFixed t).isFinite = true ∧ units (expFixed t) ≤ unitsPerOne := by
  obtain ⟨-, hhigh⟩ := lnTwo_bounds
  have hone := fixedOne_eq
  rcases le_or_gt t (-(800 * fixedOne : Int)) with hsmall | hlow
  · obtain ⟨hf, hzero⟩ := expFixed_of_le hsmall
    exact ⟨hf, by rw [hzero]; exact Nat.zero_le _⟩
  obtain ⟨twos, r, ht, hr, heq⟩ := exists_assembled hlow (by omega)
  have htwos : twos ≤ 0 := le_of_mul_lnTwo_le hr (by omega)
  rw [heq, ← units_one]
  refine assembled_le isFinite_one ?_
  rw [units_one, show twos.toNat = 0 by omega, Nat.pow_zero, Nat.mul_one, Nat.mul_comm]
  refine Nat.mul_le_mul_left _ ?_
  rcases htwos.lt_or_eq with hneg | rfl
  · have hseries := series_lt_two hr
    calc (series r).toNat ≤ 2 ^ 1 * fixedOne := by omega
      _ ≤ 2 ^ (-twos).toNat * fixedOne :=
        Nat.mul_le_mul_right _ (Nat.pow_le_pow_right (by decide) (by omega))
  · have hseries := series_le_one (r := r) (by omega) (by omega)
    rw [Int.neg_zero, Int.toNat_zero, Nat.pow_zero, Nat.one_mul]
    omega

/-- Up to the logarithm of the greatest double, exponentials are finite. -/
theorem isFinite_expFixed (h : t ≤ 1024 * lnTwo - 2 ^ 75) : (expFixed t).isFinite = true := by
  obtain ⟨-, hhigh⟩ := lnTwo_bounds
  have hone := fixedOne_eq
  rcases le_or_gt t 0 with hneg | hpos
  · exact (units_expFixed_le_one hneg).1
  obtain ⟨twos, r, ht, hr, heq⟩ := exists_assembled (t := t) (by omega) (by omega)
  have htwos : twos ≤ 1024 := le_of_mul_lnTwo_le hr (by omega)
  have hnonneg : 0 ≤ twos := by
    by_contra hlt
    have hmul : twos * lnTwo ≤ -1 * lnTwo :=
      Int.mul_le_mul_of_nonneg_right (by omega) (Int.natCast_nonneg _)
    omega
  -- in the last binade, the series is short of one by more than half the spacing of doubles
  have hseries : (series r).toNat * 2 ^ twos.toNat < (2 ^ 128 - 2 ^ 74) * 2 ^ 1024 := by
    rcases htwos.lt_or_eq with hlt | rfl
    · have hsum := series_lt_two hr
      rw [show 1024 = 1 + 1023 from rfl, pow_add]
      have hpow : 2 ^ twos.toNat ≤ 2 ^ 1023 := Nat.pow_le_pow_right (by decide) (by omega)
      have hmul := Nat.mul_le_mul_left (series r).toNat hpow
      have hmul' : (series r).toNat * 2 ^ 1023 < (2 ^ 128 - 2 ^ 74) * 2 * 2 ^ 1023 :=
        Nat.mul_lt_mul_of_pos_right (by omega) (Nat.two_pow_pos 1023)
      rw [pow_one, ← Nat.mul_assoc]
      exact hmul.trans_lt hmul'
    · have hsum := series_lt_one (r := r) (by omega) (by omega)
      have hlt : (series r).toNat < 2 ^ 128 - 2 ^ 74 := by omega
      rw [show (1024 : Int).toNat = 1024 from rfl]
      exact Nat.mul_lt_mul_of_pos_right hlt (Nat.two_pow_pos 1024)
  rw [heq, assembled, if_pos hnonneg, Nat.shiftLeft_eq]
  refine isFinite_ofRatio false fixedOne_pos ?_
  calc (series r).toNat * 2 ^ twos.toNat * unitsPerOne
      < (2 ^ 128 - 2 ^ 74) * 2 ^ 1024 * unitsPerOne :=
        Nat.mul_lt_mul_of_pos_right hseries unitsPerOne_pos
    _ = (2 ^ 54 - 1) * 2 ^ 2044 * fixedOne := by
        rw [hone, unitsPerOne_eq, show 1024 = 1018 + 6 from rfl, show 1074 = 1026 + 48 from rfl,
          show 2044 = 1018 + 1026 from rfl, pow_add, pow_add, pow_add]
        generalize 2 ^ 1018 = a
        generalize 2 ^ 1026 = b
        ring

end Exponential

end SheetFormulas.Binary64
