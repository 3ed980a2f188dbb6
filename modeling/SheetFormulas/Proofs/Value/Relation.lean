import SheetFormulas.Proofs.Value.Consistency

/-!
What the comparison of any two values gives: the order that they have, an error value in its place,
or the overflow of a number that is too large for a double.
-/

namespace SheetFormulas.Value

attribute [local irreducible] Binary64.unitsPerOne

/-- Whether two values are compared as numbers of which one is too large for a double. The second
number is only looked at if the first one is a number at all. -/
def meetsTooLarge (a b : Value) : Bool :=
  match filledLike b a, filledLike a b with
  | number m, number n => !m.hasDouble || (!m.isNaN && !n.hasDouble)
  | _, _ => false

/-- The order of two values that are neither error values nor arrays. A double that is no number has
none with numbers. -/
def relationFilled (a b : Value) : Compared :=
  if (filledLike b a).rank = (filledLike a b).rank ∧ (a.isNaN ∨ b.isNaN) then .error .badValue
  else .order (a.orderFilled b)

/-- What stands between two values, by the rules alone: an error value is the answer, an array has
no order, and everything else is ordered. -/
def relation (a b : Value) : Compared :=
  match a, b with
  | error kind, _ => .error kind
  | _, error kind => .error kind
  | array _, _ => .error .badValue
  | _, array _ => .error .badValue
  | _, _ => a.relationFilled b

theorem relationFilled_of_isOrderedOrEmpty {a b : Value} (ha : a.isOrderedOrEmpty = true)
    (hb : b.isOrderedOrEmpty = true) : a.relationFilled b = .order (a.orderFilled b) := by
  have notNaN {v : Value} (hv : v.isOrderedOrEmpty = true) : ¬ v.isNaN = true := by
    cases v <;> simp_all [isOrderedOrEmpty, isEmpty, isOrdered, isNaN]
  exact if_neg fun h => h.2.elim (notNaN ha) (notNaN hb)

theorem compareNumbers_eq_relation (m n : Number) :
    compareNumbers m n =
      if (number m).meetsTooLarge (number n) then fail .overflow
      else .ok ((number m).relationFilled (number n)) := by
  have hr : (number m).relationFilled (number n) =
      if m.isNaN = true ∨ n.isNaN = true then .error .badValue
      else .order ((number m).order (number n)) := by
    simp only [relationFilled, filledLike, rank, isNaN, orderFilled, true_and]
  have hl : (number m).meetsTooLarge (number n) = (!m.hasDouble || (!m.isNaN && !n.hasDouble)) := rfl
  rw [hr, hl]
  cases hm : m.isNaN with
  | true =>
    have hd : m.hasDouble = true := by
      cases m with
      | int m => cases hm
      | float x => rfl
    rw [compareNumbers_of_isNaN_left hm, hd]
    rfl
  | false =>
    cases hn : n.isNaN with
    | true =>
      have hd : n.hasDouble = true := by
        cases n with
        | int n => cases hn
        | float x => rfl
      rw [compareNumbers_of_isNaN_right hn, hd]
      cases m.hasDouble <;> rfl
    | false =>
      rw [compareNumbers_eq hm hn, overflows]
      cases m.hasDouble <;> cases n.hasDouble <;> rfl

/-- Two values of different types, an empty one counted as its counterpart of the other side's type,
are compared by their types. -/
theorem relationFilled_of_rank_ne {a b : Value}
    (h : (filledLike b a).rank ≠ (filledLike a b).rank) :
    a.relationFilled b = .order (Ord.compare (filledLike b a).rank (filledLike a b).rank) := by
  rw [relationFilled, if_neg fun hr => h hr.1, orderFilled, order_of_rank_ne h]

/-- Whether a value is a number, a text or a truth value. -/
def isFilled : Value → Bool
  | number _ => true
  | text _ => true
  | bool _ => true
  | _ => false

theorem compare_eq_of_isFilled {a b : Value} (ha : a.isFilled = true) (hb : b.isFilled = true) :
    a.compare b =
      if a.meetsTooLarge b then fail .overflow else .ok (a.relationFilled b) := by
  have filled (ho : a.isOrderedOrEmpty = true) (ho' : b.isOrderedOrEmpty = true)
      (hf : a.meetsTooLarge b = a.overflowsFilled b) :
      a.compare b = if a.meetsTooLarge b then fail .overflow else .ok (a.relationFilled b) := by
    rw [hf, relationFilled_of_isOrderedOrEmpty ho ho']
    exact compare_eq_orderFilled ho ho'
  cases a <;> cases b <;> simp only [isFilled, Bool.false_eq_true] at ha hb
  case number.number m n => exact compareNumbers_eq_relation m n
  all_goals first
    | exact filled rfl rfl rfl
    | (rw [relationFilled_of_rank_ne (by simp [filledLike, rank])]; rfl)

/-- An empty value stands as its counterpart of the other side's type. -/
theorem filledLike_filledLike (a b : Value) :
    filledLike (filledLike b a) (filledLike a b) = filledLike a b := by
  cases a <;> cases b <;> rfl

theorem relationFilled_filledLike (a b : Value) :
    (filledLike b a).relationFilled (filledLike a b) = a.relationFilled b := by
  rw [relationFilled, relationFilled, orderFilled, orderFilled, filledLike_filledLike,
    filledLike_filledLike, isNaN_filledLike, isNaN_filledLike]

theorem meetsTooLarge_filledLike (a b : Value) :
    (filledLike b a).meetsTooLarge (filledLike a b) = a.meetsTooLarge b := by
  rw [meetsTooLarge, meetsTooLarge, filledLike_filledLike, filledLike_filledLike]

/-- Comparing two values gives what stands between them, or overflows. -/
theorem compare_eq_relation {a b : Value} (ha : a.kind? ≠ none) (hb : b.kind? ≠ none) :
    a.compare b = if a.meetsTooLarge b then fail .overflow else .ok (a.relation b) := by
  have filled (hf : (filledLike b a).isFilled = true) (hf' : (filledLike a b).isFilled = true)
      (hr : a.relation b = a.relationFilled b) :
      a.compare b = if a.meetsTooLarge b then fail .overflow else .ok (a.relation b) := by
    rw [compare_filledLike, compare_eq_of_isFilled hf hf', meetsTooLarge_filledLike,
      relationFilled_filledLike, hr]
  cases a <;> cases b
  all_goals first
    | exact absurd rfl ha
    | exact absurd rfl hb
    | exact filled rfl rfl rfl
    | rfl

end SheetFormulas.Value
