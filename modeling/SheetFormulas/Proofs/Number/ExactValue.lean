import Mathlib.Data.Prod.Lex
import SheetFormulas.Number.Order
import SheetFormulas.Proofs.Binary64.Nearest

/-!
Numbers by their exact values. The comparisons of numbers are those of a linear order on exact
values, the whole part of a number is the quotient of its units, and what is picked from several
numbers by comparing them one after the other is the least or the greatest of them all.
-/

namespace SheetFormulas.Number

-- the number of units has 324 digits, and no proof looks at them
attribute [local irreducible] Binary64.unitsPerOne

theorem lt_two_pow {n places : Nat} (h : n < 2 ^ 64) (hp : 64 ≤ places) : n < 2 ^ places :=
  h.trans_le (Nat.pow_le_pow_right (by decide) hp)

theorem unitsPerOne_pos : (0 : Int) < (Binary64.unitsPerOne : Int) := by
  unfold Binary64.unitsPerOne
  exact Int.natCast_pos.mpr (twoTo_pos 1074)

theorem exactValue?_int (n : Int) :
    (int n).exactValue? = some (0, n * (Binary64.unitsPerOne : Int)) := rfl

theorem exactValue?_eq_none_iff (a : Number) : a.exactValue? = none ↔ a.isNaN = true := by
  cases a with
  | int n =>
    rw [exactValue?_int]
    simp [isNaN]
  | float x =>
    unfold exactValue? isNaN
    dsimp only
    split_ifs <;> simp_all

theorem exists_exactValue {a : Number} (h : a.isNaN = false) : ∃ x, a.exactValue? = some x := by
  rw [← Option.ne_none_iff_exists', ne_eq, exactValue?_eq_none_iff, h]
  exact Bool.false_ne_true

theorem compareExact_eq_cmp (x y : Int × Int) : compareExact x y = cmp (toLex x) (toLex y) := by
  rcases lt_trichotomy (toLex x) (toLex y) with h | h | h
  · rw [h.cmp_eq_lt]
    rcases Prod.Lex.toLex_lt_toLex.mp h with h1 | ⟨h1, h2⟩
    · simp [compareExact, Int.compare_eq_lt.mpr h1]
    · simp [compareExact, h1, Int.compare_eq_lt.mpr h2]
  · cases toLex.injective h
    rw [compareExact_self, cmp_self_eq_eq]
  · rw [h.cmp_eq_gt, ← compareExact_swap]
    rcases Prod.Lex.toLex_lt_toLex.mp h with h1 | ⟨h1, h2⟩
    · simp [compareExact, Int.compare_eq_lt.mpr h1]
    · simp [compareExact, h1, Int.compare_eq_lt.mpr h2]

theorem compare?_eq_some_iff (a b : Number) (o : Ordering) :
    a.compare? b = some o ↔
      ∃ x y, a.exactValue? = some x ∧ b.exactValue? = some y ∧ cmp (toLex x) (toLex y) = o := by
  unfold compare?
  cases a.exactValue? <;> cases b.exactValue? <;> simp [compareExact_eq_cmp]

theorem lt_iff (a b : Number) :
    a.lt b = true ↔
      ∃ x y, a.exactValue? = some x ∧ b.exactValue? = some y ∧ toLex x < toLex y := by
  simp [lt, compare?_eq_some_iff, cmp_eq_lt_iff]

theorem le_iff (a b : Number) :
    a.le b = true ↔
      ∃ x y, a.exactValue? = some x ∧ b.exactValue? = some y ∧ toLex x ≤ toLex y := by
  simp only [le, eq, Bool.or_eq_true, lt_iff, beq_iff_eq, compare?_eq_some_iff, cmp_eq_eq_iff,
    le_iff_lt_or_eq, and_or_left, exists_or]

theorem lt_eq_false_of_le {a b : Number} (h : a.le b = true) : b.lt a = false := by
  rw [← Bool.not_eq_true, lt_iff]
  rintro ⟨y, x, hy, hx, hlt⟩
  obtain ⟨x', y', hx', hy', hle⟩ := (le_iff a b).mp h
  rw [hx] at hx'
  rw [hy] at hy'
  cases hx'
  cases hy'
  exact absurd hlt (not_lt.mpr hle)

theorem le_eq_false_of_lt {a b : Number} (h : a.lt b = true) : b.le a = false := by
  rw [← Bool.not_eq_true]
  intro hle
  rw [lt_eq_false_of_le hle] at h
  cases h

/-- A number that is not below a whole number is not below any smaller one. -/
theorem int_le_of_le {a : Number} {m n : Int} (h : m ≤ n) (hn : (int n).le a = true) :
    (int m).le a = true := by
  obtain ⟨x, y, hx, hy, hle⟩ := (le_iff _ _).mp hn
  rw [exactValue?_int] at hx
  cases hx
  refine (le_iff _ _).mpr ⟨_, y, exactValue?_int m, hy, le_trans ?_ hle⟩
  rw [Prod.Lex.toLex_le_toLex]
  exact .inr ⟨rfl, Int.mul_le_mul_of_nonneg_right h unitsPerOne_pos.le⟩

theorem exactValue?_of_finite {x : Float} {value : Int × Int} (h : (float x).exactValue? = some value)
    (hz : value.1 = 0) : x.isFinite = true ∧ value.2 = Binary64.signedUnits x := by
  unfold exactValue? at h
  dsimp only at h
  split_ifs at h with hnan hinf hneg
  · cases h
    cases hz
  · cases h
    cases hz
  · cases h
    exact ⟨Binary64.isFinite_of_not (by simpa using hnan) (by simpa using hinf), rfl⟩

/-- The whole part of a finite number, from its units. -/
theorem truncate_eq {a : Number} {units : Int} (h : a.exactValue? = some (0, units)) :
    a.truncate = units.tdiv Binary64.unitsPerOne := by
  cases a with
  | int n =>
    rw [exactValue?_int] at h
    cases h
    exact (Int.mul_tdiv_cancel n unitsPerOne_pos.ne').symm
  | float x =>
    obtain ⟨-, hu⟩ := exactValue?_of_finite h rfl
    dsimp only at hu
    rw [hu]
    rfl

theorem toFloat_int (n : Int) (h : n.natAbs < 2 ^ 1023) :
    (int n).toFloat = .ok (Binary64.ofInt n) := by
  have hf := Binary64.isFinite_ofInt n h
  rw [Binary64.isFinite_iff] at hf
  unfold toFloat
  dsimp only
  rw [if_neg (fun hi => hf ((Binary64.isInf_iff _).mp hi).1)]

theorem isFinite_int (n : Int) (h : n.natAbs < 2 ^ 1023) : (int n).isFinite = .ok true := by
  unfold isFinite
  rw [toFloat_int n h]
  show Except.ok (Binary64.ofInt n).isFinite = _
  rw [Binary64.isFinite_ofInt n h]

/-- A number between two whole numbers has a number of units between theirs. -/
theorem exactValue?_of_between {a : Number} {low high : Int} (hl : (int low).le a = true)
    (hh : a.lt (int high) = true) :
    ∃ units, a.exactValue? = some (0, units) ∧ low * (Binary64.unitsPerOne : Int) ≤ units ∧
      units < high * (Binary64.unitsPerOne : Int) := by
  obtain ⟨x, ⟨i, u⟩, hx, ha, hle⟩ := (le_iff _ _).mp hl
  obtain ⟨v, y, hv, hy, hlt⟩ := (lt_iff _ _).mp hh
  rw [exactValue?_int] at hx hy
  rw [ha] at hv
  cases hx
  cases hy
  cases hv
  rw [Prod.Lex.toLex_le_toLex] at hle
  rw [Prod.Lex.toLex_lt_toLex] at hlt
  dsimp only at hle hlt
  have hi : i = 0 := by omega
  subst hi
  exact ⟨u, ha, by omega, by omega⟩

theorem isFinite_of_between {a : Number} {low high : Int} (hl : (int low).le a = true)
    (hh : a.lt (int high) = true) (low_lt : low.natAbs < 2 ^ 1022) (high_lt : high.natAbs < 2 ^ 1022) :
    a.isFinite = .ok true := by
  obtain ⟨units, hu, hlow, hhigh⟩ := exactValue?_of_between hl hh
  cases a with
  | int n =>
    rw [exactValue?_int] at hu
    cases hu
    have h1 := (Int.mul_le_mul_right unitsPerOne_pos).mp hlow
    have h2 := (Int.mul_lt_mul_right unitsPerOne_pos).mp hhigh
    exact isFinite_int n (by omega)
  | float x =>
    show Except.ok x.isFinite = _
    rw [(exactValue?_of_finite hu rfl).1]

/-- The whole part of a number between two whole numbers, neither of them negative. -/
theorem truncate_between {a : Number} {low high : Int} (h : 0 ≤ low) (hl : (int low).le a = true)
    (hh : a.lt (int high) = true) : low ≤ a.truncate ∧ a.truncate < high := by
  obtain ⟨units, hu, hlow, hhigh⟩ := exactValue?_of_between hl hh
  have hnonneg : 0 ≤ units := le_trans (Int.mul_nonneg h unitsPerOne_pos.le) hlow
  rw [truncate_eq hu, Int.tdiv_eq_ediv_of_nonneg hnonneg]
  exact ⟨(Int.le_ediv_iff_mul_le unitsPerOne_pos).mpr hlow,
    Int.ediv_lt_of_lt_mul unitsPerOne_pos hhigh⟩

/-- The exact value in the order of all numbers. -/
def exactKey (a : Number) : ℤ ×ₗ ℤ := toLex (a.exactValue?.getD (0, 0))

theorem lt_iff_exactKey {a b : Number} (ha : a.isNaN = false) (hb : b.isNaN = false) :
    a.lt b = true ↔ a.exactKey < b.exactKey := by
  obtain ⟨x, hx⟩ := exists_exactValue ha
  obtain ⟨y, hy⟩ := exists_exactValue hb
  simp [lt_iff, exactKey, hx, hy]

theorem eq_iff_exactKey {a b : Number} (ha : a.isNaN = false) (hb : b.isNaN = false) :
    a.eq b = true ↔ a.exactKey = b.exactKey := by
  obtain ⟨x, hx⟩ := exists_exactValue ha
  obtain ⟨y, hy⟩ := exists_exactValue hb
  simp [eq, compare?_eq_some_iff, exactKey, hx, hy, cmp_eq_eq_iff]

theorem exactKey_int_le_iff {m n : Int} : (int m).exactKey ≤ (int n).exactKey ↔ m ≤ n := by
  simp only [exactKey, exactValue?_int, Option.getD_some, Prod.Lex.toLex_le_toLex, lt_irrefl,
    false_or, true_and]
  exact Int.mul_le_mul_right unitsPerOne_pos

theorem isNaN_of_lt {a b : Number} (h : a.lt b = true) : a.isNaN = false ∧ b.isNaN = false := by
  obtain ⟨x, y, hx, hy, -⟩ := (lt_iff a b).mp h
  constructor
  · rw [← Bool.not_eq_true, ← exactValue?_eq_none_iff, hx]
    exact Option.some_ne_none x
  · rw [← Bool.not_eq_true, ← exactValue?_eq_none_iff, hy]
    exact Option.some_ne_none y

/-- Whether a function picks one of two numbers, to which both stand in a relation by their exact
values. The first one is picked if only one is a number, or none is. -/
structure Picks (R : ℤ ×ₗ ℤ → ℤ ×ₗ ℤ → Prop) (pick : Number → Number → Number) : Prop where
  mem : ∀ a b, pick a b = a ∨ pick a b = b
  isNaN_pick : ∀ a b, (pick a b).isNaN = a.isNaN
  related : ∀ a b, a.isNaN = false → b.isNaN = false →
    R a.exactKey (pick a b).exactKey ∧ R b.exactKey (pick a b).exactKey

section

variable {R : ℤ ×ₗ ℤ → ℤ ×ₗ ℤ → Prop} {pick : Number → Number → Number}

theorem Picks.isNaN_foldl (h : Picks R pick) (first : Number) (rest : List Number) :
    (rest.foldl pick first).isNaN = first.isNaN := by
  induction rest generalizing first with
  | nil => rfl
  | cons second rest ih => rw [List.foldl_cons, ih, h.isNaN_pick]

variable [IsPreorder (ℤ ×ₗ ℤ) R]

theorem picks_of_test {test : Number → Number → Bool}
    (hn : ∀ a b, test a b = true → a.isNaN = false ∧ b.isNaN = false)
    (h : ∀ a b, a.isNaN = false → b.isNaN = false → (test a b = true → R a.exactKey b.exactKey) ∧
      (test a b = false → R b.exactKey a.exactKey)) :
    Picks R fun a b => if test a b then b else a where
  mem a b := by
    split_ifs
    · exact .inr rfl
    · exact .inl rfl
  isNaN_pick a b := by
    split_ifs with ht
    · obtain ⟨ha, hb⟩ := hn a b ht
      rw [ha, hb]
    · rfl
  related a b ha hb := by
    obtain ⟨hsecond, hfirst⟩ := h a b ha hb
    split_ifs with ht
    · exact ⟨hsecond ht, refl _⟩
    · exact ⟨refl _, hfirst (Bool.eq_false_iff.mpr ht)⟩

theorem picks_max : Picks (· ≤ ·) Number.max :=
  picks_of_test (fun _ _ => isNaN_of_lt) fun _ _ ha hb =>
    ⟨fun h => ((lt_iff_exactKey ha hb).mp h).le, fun h =>
      not_lt.mp fun hlt => Bool.eq_false_iff.mp h ((lt_iff_exactKey ha hb).mpr hlt)⟩

theorem picks_min : Picks (· ≥ ·) Number.min :=
  picks_of_test (fun _ _ h => (isNaN_of_lt h).symm) fun _ _ ha hb =>
    ⟨fun h => ((lt_iff_exactKey hb ha).mp h).le, fun h =>
      not_lt.mp fun hlt => Bool.eq_false_iff.mp h ((lt_iff_exactKey hb ha).mpr hlt)⟩

/-- What is picked from several numbers one after the other is one of them, to which all stand in the
relation. -/
theorem Picks.foldl (h : Picks R pick) {first : Number} {rest : List Number}
    (hn : ∀ n ∈ first :: rest, n.isNaN = false) :
    rest.foldl pick first ∈ first :: rest ∧
      ∀ n ∈ first :: rest, R n.exactKey (rest.foldl pick first).exactKey := by
  induction rest generalizing first with
  | nil => exact ⟨List.mem_singleton_self _, fun n hm => List.mem_singleton.mp hm ▸ refl _⟩
  | cons second rest ih =>
    have hfirst := hn first List.mem_cons_self
    have hsecond := hn second (List.mem_cons_of_mem _ List.mem_cons_self)
    have hpick : (pick first second).isNaN = false := (h.isNaN_pick first second).trans hfirst
    have hrest : ∀ n ∈ rest, n.isNaN = false := fun n hm =>
      hn n (List.mem_cons_of_mem _ (List.mem_cons_of_mem _ hm))
    obtain ⟨hmem, hall⟩ := ih (List.forall_mem_cons.mpr ⟨hpick, hrest⟩)
    obtain ⟨hpicked, hafter⟩ := List.forall_mem_cons.mp hall
    obtain ⟨hone, htwo⟩ := h.related first second hfirst hsecond
    rw [List.foldl_cons]
    refine ⟨?_, List.forall_mem_cons.mpr ⟨IsTrans.trans _ _ _ hone hpicked,
      List.forall_mem_cons.mpr ⟨IsTrans.trans _ _ _ htwo hpicked, hafter⟩⟩⟩
    rcases List.mem_cons.mp hmem with heq | hlater
    · rw [heq]
      rcases h.mem first second with heq | heq <;> rw [heq] <;> simp
    · exact List.mem_cons_of_mem _ (List.mem_cons_of_mem _ hlater)

theorem Picks.foldl_ints (h : Picks R pick) (first : Int) (rest : List Int) :
    ∃ i, (rest.map int).foldl pick (int first) = int i ∧
      ∀ j ∈ first :: rest, R (int j).exactKey (int i).exactKey := by
  have hn : ∀ n ∈ (first :: rest).map int, n.isNaN = false := by simp [isNaN]
  rw [List.map_cons] at hn
  obtain ⟨hmem, hall⟩ := h.foldl hn
  rw [← List.map_cons] at hmem hall
  obtain ⟨i, -, heq⟩ := List.mem_map.mp hmem
  rw [← heq] at hall
  exact ⟨i, heq.symm, fun j hj => hall _ (List.mem_map_of_mem hj)⟩

end

end SheetFormulas.Number
