import SheetFormulas.Proofs.Value.Coercion
import SheetFormulas.Value.Comparison

/-!
The order behind the comparison of values. Numbers, texts and truth values are in a total preorder:
first by type, then by exact value, then by the letters in lower case. Comparing two of them gives
their order, unless both are numbers and one of them is too large for a double.
-/

namespace SheetFormulas

attribute [local irreducible] Binary64.unitsPerOne

namespace Number

/-- Whether the conversion to a double succeeds. -/
def hasDouble : Number → Bool
  | int n => !(Binary64.ofInt n).isInf
  | float _ => true

theorem toFloat_of_hasDouble {a : Number} (h : a.hasDouble = true) (hn : a.isNaN = false) :
    ∃ x, a.toFloat = .ok x ∧ x.isNaN = false := by
  cases a with
  | int n =>
    have hi : ¬ (Binary64.ofInt n).isInf = true := by simpa [hasDouble] using h
    refine ⟨Binary64.ofInt n, ?_, Binary64.isNaN_ofRatio _ _ _⟩
    unfold toFloat
    dsimp only
    rw [if_neg hi]
  | float x => exact ⟨x, rfl, hn⟩

theorem toFloat_int_of_hasDouble {n : Int} (h : (int n).hasDouble = true) :
    (int n).toFloat = .ok (Binary64.ofInt n) := by
  have hi : ¬ (Binary64.ofInt n).isInf = true := by simpa [hasDouble] using h
  unfold toFloat
  dsimp only
  rw [if_neg hi]

theorem toFloat_of_not_hasDouble {a : Number} (h : a.hasDouble = false) :
    a.toFloat = fail .overflow := by
  cases a with
  | int n =>
    have hi : (Binary64.ofInt n).isInf = true := by simpa [hasDouble] using h
    unfold toFloat
    dsimp only
    rw [if_pos hi]
  | float x => cases h

theorem hasDouble_int {n : Int} (h : n.natAbs < 2 ^ 1023) : (int n).hasDouble = true := by
  have hf := Binary64.isFinite_ofInt n h
  rw [Binary64.isFinite_iff] at hf
  have hi : (Binary64.ofInt n).isInf = false := by
    rw [← Bool.not_eq_true, Binary64.isInf_iff]
    exact fun hinf => hf hinf.1
  rw [hasDouble, hi, Bool.not_false]

theorem compareExact_int (m n : Int) :
    compareExact (0, m * (Binary64.unitsPerOne : Int)) (0, n * (Binary64.unitsPerOne : Int)) =
      Ord.compare m n := by
  have hu := unitsPerOne_pos
  have hzero : Ord.compare (0 : Int) 0 = .eq := by decide
  simp only [compareExact, hzero, Ordering.then]
  rcases lt_trichotomy m n with h | rfl | h
  · rw [Int.compare_eq_lt.mpr h, Int.compare_eq_lt.mpr (Int.mul_lt_mul_of_pos_right h hu)]
  · rw [Int.compare_eq_eq.mpr rfl, Int.compare_eq_eq.mpr rfl]
  · rw [Int.compare_eq_gt.mpr h, Int.compare_eq_gt.mpr (Int.mul_lt_mul_of_pos_right h hu)]

theorem compare?_int (m n : Int) : (int m).compare? (int n) = some (Ord.compare m n) := by
  rw [compare?, exactValue?_int, exactValue?_int]
  exact congrArg some (compareExact_int m n)

end Number

namespace Value

/-- Whether a value has a place in the order: a text, a truth value, or a number that is one. -/
def isOrdered : Value → Bool
  | number n => !n.isNaN
  | text _ => true
  | bool _ => true
  | _ => false

/-- The exact value of a number, or of a truth value as a number. -/
def exactPart : Value → Int × Int
  | number n => n.exactValue?.getD (0, 0)
  | bool b => (0, b.toNat)
  | _ => (0, 0)

/-- The characters of a text in lower case. -/
def letters : Value → List Char
  | text s => Text.lower s.toList
  | _ => []

/-- The order of two values of any types, by type, exact value and letters. -/
def order (a b : Value) : Ordering :=
  (Ord.compare a.rank b.rank).then
    ((Number.compareExact a.exactPart b.exactPart).then (Ord.compare a.letters b.letters))

instance : Std.TransCmp Number.compareExact :=
  inferInstanceAs (Std.TransCmp (compareLex (compareOn Prod.fst) (compareOn Prod.snd)))

instance : Std.TransCmp (fun a b : Value => Number.compareExact a.exactPart b.exactPart) where
  eq_swap := Std.OrientedCmp.eq_swap
  isLE_trans := Std.TransCmp.isLE_trans

instance : Std.TransCmp order :=
  inferInstanceAs (Std.TransCmp (compareLex (compareOn rank)
    (compareLex (fun a b : Value => Number.compareExact a.exactPart b.exactPart)
      (compareOn letters))))

/-- Whether two numbers are compared of which one is too large for a double. -/
def overflows : Value → Value → Bool
  | number m, number n => !(m.hasDouble && n.hasDouble)
  | _, _ => false

theorem overflows_comm (a b : Value) : a.overflows b = b.overflows a := by
  cases a <;> cases b <;> simp only [overflows]
  rw [Bool.and_comm]

theorem order_of_rank_ne {a b : Value} (h : a.rank ≠ b.rank) :
    a.order b = Ord.compare a.rank b.rank := by
  unfold order
  cases hc : Ord.compare a.rank b.rank with
  | lt => rfl
  | eq => exact absurd (Nat.compare_eq_eq.mp hc) h
  | gt => rfl

theorem compareNumbers_eq {m n : Number} (hm : m.isNaN = false) (hn : n.isNaN = false) :
    compareNumbers m n =
      if (number m).overflows (number n) then fail .overflow
      else .ok (.order ((number m).order (number n))) := by
  obtain ⟨x, hx⟩ := Number.exists_exactValue hm
  obtain ⟨y, hy⟩ := Number.exists_exactValue hn
  have horder : (m.compare? n).getD .eq = (number m).order (number n) := by
    simp [Number.compare?, order, exactPart, letters, rank, hx, hy]
  unfold compareNumbers
  by_cases hdm : m.hasDouble = true
  · obtain ⟨u, hu, hun⟩ := Number.toFloat_of_hasDouble hdm hm
    rw [hu, Outcome.ok_bind, hun, if_neg Bool.false_ne_true]
    by_cases hdn : n.hasDouble = true
    · obtain ⟨v, hv, hvn⟩ := Number.toFloat_of_hasDouble hdn hn
      rw [hv, horder, overflows, hdm, hdn]
      simp only [Outcome.pure_eq, Outcome.ok_bind, hvn, Bool.and_self, Bool.not_true,
        Bool.false_eq_true, if_false]
    · rw [Bool.not_eq_true] at hdn
      rw [Number.toFloat_of_not_hasDouble hdn, overflows, hdm, hdn]
      rfl
  · rw [Bool.not_eq_true] at hdm
    rw [Number.toFloat_of_not_hasDouble hdm, overflows, hdm]
    rfl

/-- The comparison of two values with a place in the order gives their order or an overflow. -/
theorem compare_eq {a b : Value} (ha : a.isOrdered = true) (hb : b.isOrdered = true) :
    a.compare b =
      if a.overflows b then fail .overflow else .ok (.order (a.order b)) := by
  by_cases hr : a.rank = b.rank
  · cases a <;> cases b <;> simp only [isOrdered, Bool.false_eq_true] at ha hb
    case number.number m n =>
      rw [Bool.not_eq_true'] at ha hb
      exact compareNumbers_eq ha hb
    case text.text s t =>
      simp [compare, kind, kind?, filledLike, compareFilled, overflows, order, rank, exactPart,
        letters, compareTexts, Number.compareExact]
    case bool.bool a b => cases a <;> cases b <;> rfl
    all_goals simp [rank] at hr
  · rw [order_of_rank_ne hr]
    cases a <;> cases b <;> simp only [isOrdered, Bool.false_eq_true] at ha hb
    all_goals first | rfl | exact absurd rfl hr

/-- Whole numbers in the range of doubles compare as whole numbers. -/
theorem compare_ofInt {m n : Int} (hm : m.natAbs < 2 ^ 1023) (hn : n.natAbs < 2 ^ 1023) :
    (ofInt m).compare (ofInt n) = .ok (.order (Ord.compare m n)) := by
  have ho : (ofInt m).order (ofInt n) = Ord.compare m n := by
    have he : (ofInt m).order (ofInt n) =
        Number.compareExact (0, m * (Binary64.unitsPerOne : Int))
          (0, n * (Binary64.unitsPerOne : Int)) := by
      simp only [order, ofInt, rank, exactPart, letters, Number.exactValue?_int, Option.getD_some]
      cases Number.compareExact _ _ <;> rfl
    rw [he, Number.compareExact_int]
  have hov : (ofInt m).overflows (ofInt n) = false := by
    rw [ofInt, ofInt, overflows, Number.hasDouble_int hm, Number.hasDouble_int hn]
    rfl
  rw [compare_eq rfl rfl, hov, ho]
  rfl

theorem equal_eq {a b : Value} (ha : a.isOrdered = true) (hb : b.isOrdered = true) :
    a.equal b = if a.overflows b then fail .overflow else .ok (a.order b == .eq) := by
  unfold equal
  rw [compare_eq ha hb]
  split
  · rfl
  · cases a.order b <;> rfl

theorem lessOrEqual_eq {a b : Value} (ha : a.isOrdered = true) (hb : b.isOrdered = true) :
    a.lessOrEqual b = if a.overflows b then fail .overflow else .ok (a.order b).isLE := by
  unfold lessOrEqual
  rw [compare_eq ha hb]
  split
  · rfl
  · cases a.order b <;> rfl

theorem rank_eq_of_order_eq {a b : Value} (h : a.order b = .eq) : a.rank = b.rank := by
  by_contra hr
  rw [order_of_rank_ne hr] at h
  exact hr (Nat.compare_eq_eq.mp h)

theorem rank_eq_of_overflows {a b : Value} (h : a.overflows b = true) : a.rank = b.rank := by
  cases a <;> cases b <;> first | rfl | cases h

theorem kind?_eq_iff {a b : Value} (ha : a.isOrdered = true) (hb : b.isOrdered = true) :
    a.kind? = b.kind? ↔ a.rank = b.rank := by
  cases a <;> cases b <;> simp_all [isOrdered, kind?, rank]

theorem kind?_ne_array {a : Value} (h : a.isOrdered = true) : a.kind? ≠ some .array := by
  cases a <;> simp_all [isOrdered, kind?]

/-- A number that overflows with another one does so with every number that the other is compared
with safely. -/
theorem overflows_of_not_overflows {a b t : Value} (h : a.overflows t = true)
    (hb : b.isOrdered = true) (hr : b.rank = t.rank) (hab : a.overflows b = false) :
    b.overflows t = true := by
  cases a <;> cases t <;> simp only [overflows, Bool.false_eq_true] at h
  cases b <;> simp_all [isOrdered, rank, overflows]

/-- Two values that are safely compared with a third one of the type of one of them are safely
compared with each other. -/
theorem overflows_eq_false {a b t : Value} (hb : b.isOrdered = true) (ht : t.isOrdered = true)
    (hr : b.rank = t.rank) (hat : a.overflows t = false) (hbt : b.overflows t = false) :
    a.overflows b = false := by
  cases a <;> cases b <;> cases t <;> simp_all [isOrdered, rank, overflows]

/-- The order of two values in sorted data. -/
def orderIn (descending : Bool) (a b : Value) : Ordering :=
  if descending then b.order a else a.order b

instance (descending : Bool) : Std.TransCmp (orderIn descending) := by
  cases descending
  · exact inferInstanceAs (Std.TransCmp order)
  · exact inferInstanceAs (Std.TransCmp fun a b => order b a)

theorem rank_eq_of_orderIn_eq {descending : Bool} {a b : Value}
    (h : orderIn descending a b = .eq) : a.rank = b.rank := by
  cases descending
  · exact rank_eq_of_order_eq h
  · exact (rank_eq_of_order_eq h).symm

end Value

end SheetFormulas
