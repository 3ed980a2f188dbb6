import SheetFormulas.Proofs.Binary64.RoundingError

/-!
Differences next to the exact ones. Rounding keeps their order; a difference with a whole number below a
number is positive, and it is exact if it is not larger than the number. A double up to one, less one,
rounds to minus one only if it is at most half the spacing below one.
-/

namespace SheetFormulas

attribute [local irreducible] Binary64.unitsPerOne

namespace Binary64

variable {x y z w : Float}

/-- Rounded sums have their sizes in the order of the exact ones. -/
theorem units_add_mono (hx : x.isFinite = true) (hy : y.isFinite = true) (hz : z.isFinite = true)
    (hw : w.isFinite = true) (hf : (x + y).isFinite = true) (hf' : (z + w).isFinite = true)
    (h : (signedUnits x + signedUnits y).natAbs ≤ (signedUnits z + signedUnits w).natAbs) :
    units (x + y) ≤ units (z + w) := by
  rw [← magnitude_le_iff hf hf', add_eq hx hy, add_eq hz hw, magnitude_ofRatio, magnitude_ofRatio,
    nearestBits_unitsPerOne, nearestBits_unitsPerOne]
  exact nearestUnits_mono Nat.one_pos h

/-- The sign of a sum is that of the exact one. -/
theorem signedUnits_add (hx : x.isFinite = true) (hy : y.isFinite = true) :
    signedUnits (x + y) =
      if signedUnits x + signedUnits y < 0 then -(units (x + y) : Int) else units (x + y) := by
  rcases eq_or_ne (signedUnits x + signedUnits y) 0 with hzero | hne
  · have hle := (units_add_le hx hy isFinite_zero (by rw [hzero]; exact Nat.zero_le _)).2
    have habs := natAbs_signedUnits (x + y)
    rw [units_zero] at hle
    rw [if_neg (by omega)]
    omega
  · rw [add_eq hx hy, sumIsNegative_of_ne hne, signedUnits_ofRatio]
    simp only [decide_eq_true_eq]

/-- Rounded sums are in the order of the exact ones. -/
theorem signedUnits_add_mono (hx : x.isFinite = true) (hy : y.isFinite = true)
    (hz : z.isFinite = true) (hw : w.isFinite = true) (hf : (x + y).isFinite = true)
    (hf' : (z + w).isFinite = true)
    (h : signedUnits x + signedUnits y ≤ signedUnits z + signedUnits w) :
    signedUnits (x + y) ≤ signedUnits (z + w) := by
  rw [signedUnits_add hx hy, signedUnits_add hz hw]
  split_ifs
  · have hunits := units_add_mono hz hw hx hy hf' hf (by omega)
    omega
  · omega
  · omega
  · have hunits := units_add_mono hx hy hz hw hf hf' (by omega)
    omega

/-- Rounded differences are in the order of the exact ones. -/
theorem signedUnits_sub_mono (hx : x.isFinite = true) (hy : y.isFinite = true)
    (hz : z.isFinite = true) (hw : w.isFinite = true) (hf : (x - y).isFinite = true)
    (hf' : (z - w).isFinite = true)
    (h : signedUnits x - signedUnits y ≤ signedUnits z - signedUnits w) :
    signedUnits (x - y) ≤ signedUnits (z - w) := by
  rw [sub_eq_add_neg hx hy] at hf ⊢
  rw [sub_eq_add_neg hz hw] at hf' ⊢
  refine signedUnits_add_mono hx (isFinite_neg hy) hz (isFinite_neg hw) hf hf' ?_
  rw [signedUnits_neg hy, signedUnits_neg hw]
  omega

/-- The spacing of doubles below `2⁵³` is at most one. -/
theorem scale_le_of_units_lt (h : units x < 2 ^ 53 * unitsPerOne) : scale x ≤ 1074 := by
  by_contra hscale
  have hfull := (significand_full x).resolve_right (by omega)
  have hpow : 2 * unitsPerOne ≤ 2 ^ scale x := by
    rw [unitsPerOne_eq, ← pow_succ']
    exact Nat.pow_le_pow_right Nat.two_pos (Nat.lt_of_not_le hscale)
  have hle : 2 ^ 52 * (2 * unitsPerOne) ≤ units x := by
    rw [units_eq, twoTo_eq]
    exact Nat.mul_le_mul hfull hpow
  omega

/-- The difference with a whole number is exact, if it is not larger than the double. -/
theorem sub_ofInt_exact {m : Int} (hx : x.isFinite = true) (hlt : units x < 2 ^ 53 * unitsPerOne)
    (hm : m.natAbs ≤ 2 ^ 53) (h : (signedUnits x - m * unitsPerOne).natAbs ≤ units x) :
    (x - ofInt m).isFinite = true ∧
      signedUnits (x - ofInt m) = signedUnits x - m * unitsPerOne := by
  have hexact : (Number.int m).IsExact := Number.IsDatum.isExact hm
  have hy : (ofInt m).isFinite = true := hexact.isFinite_double
  have hyu : signedUnits (ofInt m) = m * unitsPerOne := hexact.signedUnits_double
  have hsum : signedUnits x + signedUnits (-ofInt m) = signedUnits x - m * unitsPerOne := by
    rw [signedUnits_neg hy, hyu]
    exact (Int.sub_eq_add_neg ..).symm
  have hscale := scale_le_of_units_lt hlt
  -- both numbers are multiples of the spacing at the double
  obtain ⟨k, hk⟩ : ∃ k : Nat, (signedUnits x - m * unitsPerOne).natAbs = k * 2 ^ scale x := by
    have hdvd : (2 ^ scale x : Int) ∣ signedUnits x - m * unitsPerOne := by
      refine Int.dvd_sub ?_ (Dvd.dvd.mul_left ?_ m)
      · rw [← Int.dvd_natAbs, natAbs_signedUnits, units_eq, twoTo_eq]
        exact_mod_cast Nat.dvd_mul_left _ _
      · rw [unitsPerOne_eq]
        exact_mod_cast pow_dvd_pow 2 hscale
    obtain ⟨k, hk⟩ := Int.natAbs_dvd_natAbs.mpr hdvd
    rw [Int.natAbs_pow] at hk
    exact ⟨k, by rw [hk, Nat.mul_comm]; rfl⟩
  have hk53 : k < 2 ^ 53 := by
    have hle : k * 2 ^ scale x ≤ significand x * 2 ^ scale x := by
      rw [← hk, ← twoTo_eq, ← units_eq]
      exact h
    exact (Nat.le_of_mul_le_mul_right hle (Nat.two_pow_pos _)).trans_lt (significand_lt x)
  have hratio := units_ofRatio_exact (sumIsNegative x (-ofInt m)) unitsPerOne_pos hk53
    (show scale x ≤ 2045 by omega) (congrArg (· * unitsPerOne) hk)
  rw [sub_eq_add_neg hx hy]
  rw [← hk, ← hsum, ← add_eq hx (isFinite_neg hy)] at hratio
  refine ⟨hratio.1, ?_⟩
  rw [signedUnits_add hx (isFinite_neg hy), hratio.2, hsum]
  split_ifs <;> omega

/-! One less than a double below one. -/

/-- Half the spacing of the doubles just below one. -/
def halfSpacing : Float := 5.551115123125783e-17

theorem isFinite_halfSpacing : halfSpacing.isFinite = true := by decide +kernel

theorem signedUnits_halfSpacing : signedUnits halfSpacing = units halfSpacing := by decide +kernel

theorem two_mul_units_halfSpacing : 2 * units halfSpacing = 2 ^ 1021 := by
  have hs : significand halfSpacing = 2 ^ 52 := by decide +kernel
  have he : scale halfSpacing = 968 := by decide +kernel
  rw [units_eq, twoTo_eq, hs, he, ← pow_add, ← pow_succ']

/-- Doubles other than zero are equal if their values are. -/
theorem eq_of_signedUnits (hx : x.isFinite = true) (hy : y.isFinite = true)
    (h : signedUnits x = signedUnits y) (hne : signedUnits x ≠ 0) : x = y := by
  have hunits : units x = units y := by
    rw [← natAbs_signedUnits, ← natAbs_signedUnits, h]
  refine eq_of_magnitude ?_ (Nat.le_antisymm ((magnitude_le_iff hx hy).mpr hunits.le)
    ((magnitude_le_iff hy hx).mpr hunits.ge))
  unfold signedUnits at h hne
  split_ifs at h hne with hxneg hyneg hyneg
  · rw [hxneg, hyneg]
  · omega
  · omega
  · rw [Bool.eq_false_of_not_eq_true hxneg, Bool.eq_false_of_not_eq_true hyneg]

/-- A double up to one, less one, is minus one exactly if the double is at most half the spacing. -/
theorem sub_one_of_lt_one (hx : x.isFinite = true) (hx0 : 0 ≤ signedUnits x)
    (hx1 : units x ≤ unitsPerOne) :
    (signedUnits x ≤ signedUnits halfSpacing → x - 1 = -1) ∧
      (signedUnits halfSpacing < signedUnits x →
        -unitsPerOne < signedUnits (x - 1) ∧ signedUnits (x - 1) ≤ 0) := by
  have hone := isFinite_neg isFinite_one
  have habs := natAbs_signedUnits x
  have hsum : signedUnits x + signedUnits (-1) = units x - unitsPerOne := by
    rw [signedUnits_neg isFinite_one, signedUnits_one]
    omega
  constructor
  · intro hle
    have hzero : signedUnits (0 - 1 : Float) = -unitsPerOne := by decide +kernel
    have hhalf : signedUnits (halfSpacing - 1) = -unitsPerOne := by decide +kernel
    have hlow := signedUnits_sub_mono isFinite_zero isFinite_one hx isFinite_one
      (isFinite_sub_one isFinite_zero) (isFinite_sub_one hx) (by rw [signedUnits_zero]; omega)
    have hhigh := signedUnits_sub_mono hx isFinite_one isFinite_halfSpacing isFinite_one
      (isFinite_sub_one hx) (isFinite_sub_one isFinite_halfSpacing) (by omega)
    have hminus : signedUnits (-1) = -unitsPerOne := by
      rw [signedUnits_neg isFinite_one, signedUnits_one]
    have hpos := unitsPerOne_pos
    exact eq_of_signedUnits (isFinite_sub_one hx) hone (by omega) (by omega)
  · intro hlt
    rw [signedUnits_halfSpacing] at hlt
    have hpos := unitsPerOne_pos
    have hsize : (signedUnits x + signedUnits (-1)).natAbs = unitsPerOne - units x := by omega
    have hnear := (units_ofRatio_near (sumIsNegative x (-1)) (e := 1021) unitsPerOne_pos (by decide)
      (show (unitsPerOne - units x) * unitsPerOne < 2 ^ (53 + 1021) * unitsPerOne from
        Nat.mul_lt_mul_of_pos_right (by rw [← unitsPerOne_eq]; omega) hpos)).2.1
    rw [← hsize, ← add_eq hx hone, ← sub_eq_add_neg hx isFinite_one, hsize,
      ← two_mul_units_halfSpacing] at hnear
    have hbound : 2 * units (x - 1) ≤ 2 * (unitsPerOne - units x) + 2 * units halfSpacing := by
      refine Nat.le_of_mul_le_mul_right ?_ hpos
      calc 2 * units (x - 1) * unitsPerOne = 2 * (units (x - 1) * unitsPerOne) := Nat.mul_assoc ..
        _ ≤ 2 * ((unitsPerOne - units x) * unitsPerOne) + 2 * units halfSpacing * unitsPerOne := hnear
        _ = (2 * (unitsPerOne - units x) + 2 * units halfSpacing) * unitsPerOne := by ring
    have hnone : signedUnits (1 - 1 : Float) = 0 := by decide +kernel
    have hhigh := signedUnits_sub_mono hx isFinite_one isFinite_one isFinite_one
      (isFinite_sub_one hx) (isFinite_sub_one isFinite_one) (by rw [signedUnits_one]; omega)
    have habs' := natAbs_signedUnits (x - 1)
    omega

end Binary64

namespace Number

variable {a b : Number} {m : Int} {p : Nat}

/-- The whole number below a number. -/
theorem floor_spec (h : a.IsExact) :
    a.floor * (Binary64.unitsPerOne : Int) ≤ a.signedUnits ∧
      a.signedUnits < (a.floor + 1) * Binary64.unitsPerOne := by
  have hpos := unitsPerOne_pos
  cases a with
  | int n => exact ⟨le_rfl, Int.mul_lt_mul_of_pos_right (Int.lt_succ n) hpos⟩
  | float x =>
    exact ⟨Int.ediv_mul_le _ hpos.ne', Int.lt_ediv_add_one_mul_self _ hpos⟩

/-- The whole number above a number. -/
theorem ceil_spec (h : a.IsExact) :
    (a.ceil - 1) * (Binary64.unitsPerOne : Int) < a.signedUnits ∧
      a.signedUnits ≤ a.ceil * Binary64.unitsPerOne := by
  have hpos := unitsPerOne_pos
  cases a with
  | int n => exact ⟨Int.mul_lt_mul_of_pos_right (Int.sub_one_lt_of_le le_rfl) hpos, le_rfl⟩
  | float x =>
    have hle := Int.ediv_mul_le (-Binary64.signedUnits x) hpos.ne'
    have hlt := Int.lt_ediv_add_one_mul_self (-Binary64.signedUnits x) hpos
    constructor
    · show (-(-Binary64.signedUnits x / (Binary64.unitsPerOne : Int)) - 1) * _ < Binary64.signedUnits x
      linarith
    · show Binary64.signedUnits x ≤ -(-Binary64.signedUnits x / (Binary64.unitsPerOne : Int)) * _
      linarith

theorem isZero_of_zero_lt (h : (int 0).lt a = true) : a.isZero = false :=
  (Bool.or_eq_false_iff.mp (le_eq_false_of_lt h)).2

theorem zero_lt_float {x : Float} (hx : x.isFinite = true) (h : 0 < Binary64.signedUnits x) :
    (int 0).lt (float x) = true := by
  rw [isExact_zero.lt_iff (isExact_float hx), signedUnits_zero]
  exact h

theorem zero_lt_int (h : 0 < m) : (int 0).lt (int m) = true :=
  (lt_iff _ _).mpr ⟨_, _, exactValue?_int 0, exactValue?_int m, Prod.Lex.toLex_lt_toLex.mpr
    (.inr ⟨rfl, Int.mul_lt_mul_of_pos_right h unitsPerOne_pos⟩)⟩

theorem isFinite_sub_ofInt {x : Float} (hx : x.isFinite = true) (hm : m.natAbs ≤ 2 ^ 53) :
    (x - Binary64.ofInt m).isFinite = true := by
  have hexact : (int m).IsExact := IsDatum.isExact hm
  have hy : (Binary64.ofInt m).isFinite = true := hexact.isFinite_double
  have hunits : Binary64.units (Binary64.ofInt m) = (m * (Binary64.unitsPerOne : Int)).natAbs :=
    hexact.units_double
  rw [Binary64.sub_eq_add_neg hx hy]
  refine Binary64.isFinite_add_of_small hx (Binary64.isFinite_neg hy) (.inr ?_)
  rw [Binary64.units_neg hy, hunits, Int.natAbs_mul, Int.natAbs_natCast, Binary64.unitsPerOne_eq]
  calc m.natAbs * 2 ^ 1074 ≤ 2 ^ 53 * 2 ^ 1074 := Nat.mul_le_mul_right _ hm
    _ = 2 ^ (53 + 1074) := (pow_add 2 53 1074).symm
    _ ≤ 2 ^ 2043 := Nat.pow_le_pow_right Nat.two_pos (by decide)

/-- A datum less a whole number below it. -/
theorem sub_int_pos (ha : a.IsDatum) (hm : m.natAbs ≤ 2 ^ 53)
    (h : m * (Binary64.unitsPerOne : Int) < a.signedUnits) :
    ∃ d, a.sub (int m) = .ok d ∧ (int 0).lt d = true := by
  have hpos := unitsPerOne_pos
  have hexact : (int m).IsExact := IsDatum.isExact hm
  cases a with
  | int n =>
    have hlt : m < n := lt_of_mul_lt_mul_right h hpos.le
    exact ⟨_, rfl, zero_lt_int (by omega)⟩
  | float x =>
    have hf := isFinite_sub_ofInt ha hm
    have hy : (Binary64.ofInt m).isFinite = true := hexact.isFinite_double
    have hyu : Binary64.signedUnits (Binary64.ofInt m) = m * Binary64.unitsPerOne :=
      hexact.signedUnits_double
    have hxu : m * (Binary64.unitsPerOne : Int) < Binary64.signedUnits x := h
    refine ⟨_, float_sub hexact.toFloat_eq, zero_lt_float hf ?_⟩
    show 0 < Binary64.signedUnits (x - Binary64.ofInt m)
    rw [Binary64.sub_eq_add_neg ha hy] at hf ⊢
    refine Binary64.add_pos_of_pos ha (Binary64.isFinite_neg hy) ?_ hf
    rw [Binary64.signedUnits_neg hy, hyu]
    omega

/-- A datum below `2⁵³` less a whole number that leaves no more than the datum in size. -/
theorem sub_int_exact (ha : a.IsDatum) (hlt : a.signedUnits < 2 ^ 53 * Binary64.unitsPerOne)
    (ha0 : 0 ≤ a.signedUnits) (hm : m.natAbs ≤ 2 ^ 53)
    (h : (a.signedUnits - m * (Binary64.unitsPerOne : Int)).natAbs ≤ a.signedUnits) :
    ∃ d, a.sub (int m) = .ok d ∧ d.IsDatum ∧
      d.signedUnits = a.signedUnits - m * Binary64.unitsPerOne := by
  have hpos := unitsPerOne_pos
  have hexact : (int m).IsExact := IsDatum.isExact hm
  cases a with
  | int n =>
    have hdiff : n * (Binary64.unitsPerOne : Int) - m * Binary64.unitsPerOne =
        (n - m) * Binary64.unitsPerOne := (Int.sub_mul n m _).symm
    have hn : n.natAbs ≤ 2 ^ 53 := ha
    refine ⟨_, rfl, ?_, hdiff.symm⟩
    have hle : (n - m).natAbs * (Binary64.unitsPerOne : Int) ≤ n * (Binary64.unitsPerOne : Int) := by
      have habs : ((n - m) * (Binary64.unitsPerOne : Int)).natAbs =
          (n - m).natAbs * Binary64.unitsPerOne := by rw [Int.natAbs_mul, Int.natAbs_natCast]
      rw [signedUnits, hdiff, habs] at h
      exact_mod_cast h
    have hsize : ((n - m).natAbs : Int) ≤ n := le_of_mul_le_mul_right hle hpos
    show (n - m).natAbs ≤ 2 ^ 53
    omega
  | float x =>
    have habs := Binary64.natAbs_signedUnits x
    have hxu : (float x).signedUnits = Binary64.signedUnits x := rfl
    rw [hxu] at hlt ha0 h ⊢
    obtain ⟨hf, hunits⟩ := Binary64.sub_ofInt_exact ha (by omega) hm (by omega)
    exact ⟨_, float_sub hexact.toFloat_eq, hf, hunits⟩

/-- A datum above minus one, plus one. -/
theorem add_one_pos (ha : a.IsDatum) (hlt : a.signedUnits < 2 ^ 53 * Binary64.unitsPerOne)
    (h : -(Binary64.unitsPerOne : Int) < a.signedUnits) :
    ∃ d, a.add (int 1) = .ok d ∧ d.IsDatum ∧ 0 < d.signedUnits := by
  have hpos := unitsPerOne_pos
  cases a with
  | int n =>
    have hlow : (-1) * (Binary64.unitsPerOne : Int) < n * Binary64.unitsPerOne := by
      rw [Int.neg_one_mul]
      exact h
    have hn : -1 < n := lt_of_mul_lt_mul_right hlow hpos.le
    have hn' : n < 2 ^ 53 := lt_of_mul_lt_mul_right hlt hpos.le
    refine ⟨_, rfl, ?_, Int.mul_pos (by omega) hpos⟩
    show (n + 1).natAbs ≤ 2 ^ 53
    omega
  | float x =>
    have hxu : -(Binary64.unitsPerOne : Int) < Binary64.signedUnits x := h
    have hf : (x + 1).isFinite = true := by
      refine Binary64.isFinite_add_of_small ha Binary64.isFinite_one (.inr ?_)
      rw [Binary64.units_one, Binary64.unitsPerOne_eq]
      exact Nat.pow_le_pow_right Nat.two_pos (by decide)
    refine ⟨_, float_add toFloat_one, hf, ?_⟩
    refine Binary64.add_pos_of_pos ha Binary64.isFinite_one ?_ hf
    rw [Binary64.signedUnits_one]
    omega

end Number

end SheetFormulas
