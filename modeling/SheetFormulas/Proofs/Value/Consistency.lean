import SheetFormulas.Proofs.Value.Order

/-!
The comparisons of values taken together. Wherever no number is too large for a double, the six
comparisons of two values follow one order, which is total and transitive, and an empty value stands
in it as its counterpart of the other side's type. Where an order is missing, nothing but being
different holds.
-/

namespace SheetFormulas.Value

attribute [local irreducible] Binary64.unitsPerOne

/-- Whether a value is ordered, or takes the type of what it is compared with. -/
def isOrderedOrEmpty (v : Value) : Bool := v.isEmpty || v.isOrdered

/-- The order of two values, an empty one counted as its counterpart of the other side's type. -/
def orderFilled (a b : Value) : Ordering := (filledLike b a).order (filledLike a b)

/-- Whether two values are compared as numbers of which one is too large for a double. -/
def overflowsFilled (a b : Value) : Bool := (filledLike b a).overflows (filledLike a b)

/-- All comparisons of two values follow one order. -/
structure ComparedAs (o : Ordering) (a b : Value) : Prop where
  compare : a.compare b = .ok (.order o)
  reverse : b.compare a = .ok (.order o.swap)
  equal : a.equal b = .ok (o == .eq)
  notEqual : a.notEqual b = .ok (o != .eq)
  less : a.less b = .ok (o == .lt)
  greater : a.greater b = .ok (o == .gt)
  lessOrEqual : a.lessOrEqual b = .ok o.isLE
  greaterOrEqual : a.greaterOrEqual b = .ok o.isGE

theorem isOrdered_filledLike {a : Value} (b : Value) (ha : a.isOrderedOrEmpty = true) :
    (filledLike b a).isOrdered = true := by
  cases a with
  | empty => cases b <;> rfl
  | _ => exact ha

theorem orderFilled_swap (a b : Value) : (a.orderFilled b).swap = b.orderFilled a :=
  (@Std.OrientedCmp.eq_swap _ order _ _ _).symm

theorem orderFilled_self (a : Value) : a.orderFilled a = .eq := @Std.ReflCmp.compare_self _ order _ _

theorem overflowsFilled_comm (a b : Value) : a.overflowsFilled b = b.overflowsFilled a :=
  overflows_comm _ _

/-- An empty value is compared as its counterpart of the other side's type. -/
theorem compare_filledLike (a b : Value) :
    a.compare b = (filledLike b a).compare (filledLike a b) := by
  cases a <;> cases b <;> rfl

theorem compare_eq_orderFilled {a b : Value} (ha : a.isOrderedOrEmpty = true)
    (hb : b.isOrderedOrEmpty = true) :
    a.compare b =
      if a.overflowsFilled b then fail .overflow else .ok (.order (a.orderFilled b)) := by
  rw [compare_filledLike]
  exact compare_eq (isOrdered_filledLike b ha) (isOrdered_filledLike a hb)

/-- Two orders of which one is the other in reverse settle all comparisons. -/
theorem comparedAs_of_compare {a b : Value} {o : Ordering} (h : a.compare b = .ok (.order o))
    (hr : b.compare a = .ok (.order o.swap)) : ComparedAs o a b := by
  refine ⟨h, hr, ?_, ?_, ?_, ?_, ?_, ?_⟩
  · rw [equal, h]
    cases o <;> rfl
  · rw [notEqual, equal, h]
    cases o <;> rfl
  · rw [less, h]
    cases o <;> rfl
  · rw [greater, less, hr]
    cases o <;> rfl
  · rw [lessOrEqual, h]
    cases o <;> rfl
  · rw [greaterOrEqual, lessOrEqual, hr]
    cases o <;> rfl

theorem comparedAs_orderFilled {a b : Value} (ha : a.isOrderedOrEmpty = true)
    (hb : b.isOrderedOrEmpty = true) (h : a.overflowsFilled b = false) :
    ComparedAs (a.orderFilled b) a b := by
  have hab := compare_eq_orderFilled ha hb
  have hba := compare_eq_orderFilled hb ha
  rw [h, if_neg Bool.false_ne_true] at hab
  rw [overflowsFilled_comm, h, if_neg Bool.false_ne_true, ← orderFilled_swap] at hba
  exact comparedAs_of_compare hab hba

theorem rank_le_of_isLE {a b : Value} (h : (a.order b).isLE = true) : a.rank ≤ b.rank := by
  by_cases hr : a.rank = b.rank
  · exact hr.le
  · rw [order_of_rank_ne hr] at h
    exact Nat.isLE_compare.mp h

/-- A value between two numbers is a number, so it fits in a double if it is safely compared. -/
theorem overflows_eq_false_of_between {a b c : Value} (hb : b.isOrdered = true)
    (hc : c.isOrdered = true) (hab : a.overflows b = false) (hbc : b.overflows c = false)
    (hle : (a.order b).isLE = true) (hle' : (b.order c).isLE = true) :
    a.overflows c = false := by
  rw [← Bool.not_eq_true]
  intro hac
  have hr := rank_eq_of_overflows hac
  have hr' : c.rank = b.rank := by
    have := rank_le_of_isLE hle
    have := rank_le_of_isLE hle'
    omega
  rw [overflows_comm] at hbc
  rw [overflows_eq_false hc hb hr' hab hbc] at hac
  cases hac

theorem lessOrEqual_eq_ok_true_iff {a b : Value} (ha : a.isOrdered = true)
    (hb : b.isOrdered = true) :
    a.lessOrEqual b = .ok true ↔ a.overflows b = false ∧ (a.order b).isLE = true := by
  rw [lessOrEqual_eq ha hb]
  cases a.overflows b with
  | false => simp
  | true => simp [fail]

theorem lessOrEqual_trans {a b c : Value} (ha : a.isOrdered = true) (hb : b.isOrdered = true)
    (hc : c.isOrdered = true) (hab : a.lessOrEqual b = .ok true)
    (hbc : b.lessOrEqual c = .ok true) : a.lessOrEqual c = .ok true := by
  rw [lessOrEqual_eq_ok_true_iff ha hb] at hab
  rw [lessOrEqual_eq_ok_true_iff hb hc] at hbc
  rw [lessOrEqual_eq_ok_true_iff ha hc]
  exact ⟨overflows_eq_false_of_between hb hc hab.1 hbc.1 hab.2 hbc.2,
    Std.TransCmp.isLE_trans hab.2 hbc.2⟩

/-- Whether a value is a double that is no number. -/
def isNaN : Value → Bool
  | number n => n.isNaN
  | _ => false

/-- Whether a value is a whole number beyond the range of doubles. -/
def isTooLarge : Value → Bool
  | number n => !n.hasDouble
  | _ => false

/-- The second of two numbers is only looked at if the first one fits in a double. -/
theorem compareNumbers_of_isNaN_right {m n : Number} (hn : n.isNaN = true) :
    compareNumbers m n =
      if m.hasDouble then .ok (.error .badValue) else fail .overflow := by
  cases hm : m.hasDouble with
  | false =>
    rw [compareNumbers, Number.toFloat_of_not_hasDouble hm]
    rfl
  | true =>
    cases n with
    | int n => cases hn
    | float y =>
      have hy : y.isNaN = true := hn
      cases hmn : m.isNaN with
      | true =>
        cases m with
        | int m => cases hmn
        | float x => exact if_pos hmn
      | false =>
        obtain ⟨x, hx, hxn⟩ := Number.toFloat_of_hasDouble hm hmn
        rw [compareNumbers, hx, Outcome.ok_bind, hxn, if_neg Bool.false_ne_true, if_pos rfl]
        exact if_pos hy

theorem compareNumbers_of_isNaN_left {m n : Number} (hm : m.isNaN = true) :
    compareNumbers m n = .ok (.error .badValue) := by
  cases m with
  | int m => cases hm
  | float x => exact if_pos hm

/-- Two numbers without an order have none in reverse, unless the first one is no number and the
second one too large for a double: the conversion of the latter then comes first and fails. -/
theorem compareNumbers_swap_of_error {m n : Number} {kind : ErrorKind}
    (h : compareNumbers m n = .ok (.error kind)) :
    compareNumbers n m =
      if m.isNaN && !n.hasDouble then fail .overflow else .ok (.error .badValue) := by
  cases hm : m.isNaN with
  | true =>
    rw [compareNumbers_of_isNaN_right hm]
    cases n.hasDouble <;> rfl
  | false =>
    cases hn : n.isNaN with
    | true => exact compareNumbers_of_isNaN_left hn
    | false =>
      rw [compareNumbers_eq hm hn] at h
      split at h <;> cases h

/-- Unless both sides are compared as numbers, an error value in place of an order comes from an
error value or an array, and stands there in reverse too. -/
theorem compare_swap_of_error_or_numbers {a b : Value} {kind : ErrorKind}
    (h : a.compare b = .ok (.error kind)) :
    (∃ m n, filledLike b a = number m ∧ filledLike a b = number n) ∨
      ∃ kind', b.compare a = .ok (.error kind') := by
  cases a <;> cases b <;>
    first | exact .inl ⟨_, _, rfl, rfl⟩ | (cases h; done) | exact .inr ⟨_, rfl⟩

theorem isNaN_filledLike (a b : Value) : (filledLike b a).isNaN = a.isNaN := by
  cases a <;> first | rfl | (cases b <;> rfl)

theorem isTooLarge_filledLike (a b : Value) : (filledLike b a).isTooLarge = a.isTooLarge := by
  have hzero := Number.hasDouble_int (n := 0) (Number.lt_two_pow (by decide) (by decide))
  cases a with
  | empty => cases b <;> simp only [filledLike, isTooLarge, hzero, Bool.not_true]
  | _ => rfl

theorem compare_of_isTooLarge_of_isNaN {a b : Value} (ha : a.isTooLarge = true)
    (hb : b.isNaN = true) : a.compare b = fail .overflow := by
  cases a <;> simp only [isTooLarge, Bool.false_eq_true, Bool.not_eq_true'] at ha
  cases b <;> simp only [isNaN, Bool.false_eq_true] at hb
  show compareNumbers _ _ = _
  rw [compareNumbers_of_isNaN_right hb, ha, if_neg Bool.false_ne_true]

/-- An error value in place of an order stands there in reverse too, unless the first side is a
double that is no number and the second a number too large for a double. -/
theorem compare_swap_of_error {a b : Value} {kind : ErrorKind}
    (h : a.compare b = .ok (.error kind)) (hf : (a.isNaN && b.isTooLarge) = false) :
    ∃ kind', b.compare a = .ok (.error kind') := by
  rcases compare_swap_of_error_or_numbers h with ⟨m, n, hm, hn⟩ | h'
  · rw [← isNaN_filledLike a b, ← isTooLarge_filledLike b a, hm, hn] at hf
    rw [compare_filledLike, hm, hn] at h
    have hs : (number n).compare (number m) = _ := compareNumbers_swap_of_error h
    have hboth : (m.isNaN && !n.hasDouble) = false := hf
    rw [compare_filledLike, hm, hn, hs, if_neg (Bool.eq_false_iff.mp hboth)]
    exact ⟨_, rfl⟩
  · exact h'

/-- The comparisons that ask for one order alone, where an error value stands in its place. -/
theorem comparisons_of_error {a b : Value} {kind : ErrorKind}
    (h : a.compare b = .ok (.error kind)) :
    a.equal b = .ok false ∧ a.notEqual b = .ok true ∧ a.less b = .ok false ∧
      a.lessOrEqual b = .ok false := by
  have he : a.equal b = .ok false := by
    rw [equal, h]
    rfl
  refine ⟨he, ?_, ?_, ?_⟩
  · rw [notEqual, he]
    rfl
  · rw [less, h]
    rfl
  · rw [lessOrEqual, h]
    rfl

theorem comparisons_of_overflow {a b : Value} (h : a.compare b = fail .overflow) :
    a.less b = fail .overflow ∧ a.lessOrEqual b = fail .overflow := by
  rw [less, lessOrEqual, h]
  exact ⟨rfl, rfl⟩

/-- Two values that are ordered or empty are compared by one order, unless they are compared as
numbers of which one is too large for a double. A value is equal to itself, and what lies between
two values orders them. Where an error value stands in place of an order, nothing but being
different holds; only a double that is no number cannot be asked whether it is greater than a number
too large for a double. -/
theorem comparisons_consistent_unless_overflow (a b : Value) :
    (a.isOrderedOrEmpty = true → b.isOrderedOrEmpty = true →
      if a.overflowsFilled b then a.compare b = fail .overflow ∧ b.compare a = fail .overflow
      else ComparedAs (a.orderFilled b) a b) ∧
    (a.isOrderedOrEmpty = true →
      a.compare a = if a.overflowsFilled a then fail .overflow else .ok (.order .eq)) ∧
    (∀ c : Value, a.isOrdered = true → b.isOrdered = true → c.isOrdered = true →
      a.lessOrEqual b = .ok true → b.lessOrEqual c = .ok true → a.lessOrEqual c = .ok true) ∧
    ∀ kind : ErrorKind, a.compare b = .ok (.error kind) →
      (a.equal b = .ok false ∧ a.notEqual b = .ok true ∧ a.less b = .ok false ∧
        a.lessOrEqual b = .ok false) ∧
      if a.isNaN && b.isTooLarge then
        a.greater b = fail .overflow ∧ a.greaterOrEqual b = fail .overflow
      else a.greater b = .ok false ∧ a.greaterOrEqual b = .ok false := by
  refine ⟨fun ha hb => ?_, fun ha => ?_, fun c ha hb hc => lessOrEqual_trans ha hb hc,
    fun kind h => ⟨comparisons_of_error h, ?_⟩⟩
  · split
    · next ho =>
      have hab := compare_eq_orderFilled ha hb
      have hba := compare_eq_orderFilled hb ha
      rw [if_pos ho] at hab
      rw [overflowsFilled_comm, if_pos ho] at hba
      exact ⟨hab, hba⟩
    · next ho => exact comparedAs_orderFilled ha hb (Bool.eq_false_iff.mpr ho)
  · rw [compare_eq_orderFilled ha ha, orderFilled_self]
  · split
    · next hf =>
      rw [Bool.and_eq_true] at hf
      exact comparisons_of_overflow (compare_of_isTooLarge_of_isNaN hf.2 hf.1)
    · next hf =>
      obtain ⟨kind', h'⟩ := compare_swap_of_error h (Bool.eq_false_iff.mpr hf)
      obtain ⟨-, -, hless, hle⟩ := comparisons_of_error h'
      exact ⟨hless, hle⟩

/-- A whole number beyond the doubles cannot be compared with the number one. -/
theorem not_compared_of_tenTo_309 :
    ((ofInt (tenTo 309)).isOrderedOrEmpty = true ∧ (ofInt 1).isOrderedOrEmpty = true ∧
      (ofInt (tenTo 309)).compare (ofInt 1) = fail .overflow) ∧
    ((ofInt 1).lessOrEqual (text "a") = .ok true ∧ (text "a").lessOrEqual (bool false) = .ok true ∧
      (ofInt 1).lessOrEqual (bool false) = .ok true) ∧
    (ofFloat (Float.ofBits 0x7ff8000000000000)).compare (ofInt (tenTo 309)) =
        .ok (.error .badValue) ∧
      (ofFloat (Float.ofBits 0x7ff8000000000000)).greater (ofInt (tenTo 309)) = fail .overflow := by
  have hnan : (Float.ofBits 0x7ff8000000000000).isNaN = true := by decide +kernel
  have apart (n : Int) (hn : (Number.int n).hasDouble = false) :
      ((ofInt n).isOrderedOrEmpty = true ∧ (ofInt 1).isOrderedOrEmpty = true ∧
        (ofInt n).compare (ofInt 1) = fail .overflow) ∧
      (ofFloat (Float.ofBits 0x7ff8000000000000)).compare (ofInt n) = .ok (.error .badValue) ∧
        (ofFloat (Float.ofBits 0x7ff8000000000000)).greater (ofInt n) = fail .overflow := by
    have hov : (ofInt n).overflowsFilled (ofInt 1) = true := by
      simp only [overflowsFilled, filledLike, ofInt, overflows, hn, Bool.false_and, Bool.not_false]
    have hpair := (comparisons_consistent_unless_overflow (ofInt n) (ofInt 1)).1 rfl rfl
    rw [if_pos hov] at hpair
    have hnone : (ofFloat (Float.ofBits 0x7ff8000000000000)).compare (ofInt n) = _ :=
      @compareNumbers_of_isNaN_left (.float (Float.ofBits 0x7ff8000000000000)) (.int n) hnan
    have hgreater := ((comparisons_consistent_unless_overflow _ _).2.2.2 _ hnone).2
    have hboth : ((ofFloat (Float.ofBits 0x7ff8000000000000)).isNaN && (ofInt n).isTooLarge) =
        true := by
      simp only [ofFloat, ofInt, isNaN, Number.isNaN, hnan, isTooLarge, hn, Bool.not_false,
        Bool.and_true]
    rw [if_pos hboth] at hgreater
    exact ⟨⟨rfl, rfl, hpair.1⟩, hnone, hgreater.1⟩
  obtain ⟨hpair, hsingle⟩ := apart (tenTo 309) (by decide +kernel)
  have hbefore : (ofInt 1).lessOrEqual (text "a") = .ok true := rfl
  have hafter : (text "a").lessOrEqual (bool false) = .ok true := rfl
  have htrans := (comparisons_consistent_unless_overflow (ofInt 1) (text "a")).2.2.1 (bool false)
  exact ⟨hpair, ⟨hbefore, hafter, htrans rfl rfl rfl hbefore hafter⟩, hsingle⟩

end SheetFormulas.Value
