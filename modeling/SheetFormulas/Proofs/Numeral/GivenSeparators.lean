import SheetFormulas.Proofs.Numeral.Reading

/-!
Separators given by the caller. Whatever they are, what is peeled off a numeral is the same, and the
unsigned numeral is read with a point in the place of the first decimal separator.
-/

namespace SheetFormulas

open Text

namespace Numeral

/-! Characters may be exchanged for others that are no mark where they are none. -/

/-- Whether an exchange of characters keeps the blanks and the marks around a numeral, and makes no
others. -/
structure KeepsMarks (f : Char → Char) : Prop where
  isBlank : ∀ c, isBlank (f c) = isBlank c
  eq_iff : ∀ m ∈ ['(', ')', '%', '$', '+', '-'], ∀ c, f c = m ↔ c = m

namespace KeepsMarks

variable {f : Char → Char} (hf : KeepsMarks f)

include hf

theorem isBlank_comp : Text.isBlank ∘ f = Text.isBlank := funext hf.isBlank

theorem map_mark {m : Char} (hm : m ∈ ['(', ')', '%', '$', '+', '-']) : f m = m :=
  (hf.eq_iff m hm m).mpr rfl

theorem trimLeft_map (text : List Char) : trimLeft (text.map f) = (trimLeft text).map f := by
  rw [trimLeft, List.dropWhile_map, hf.isBlank_comp, ← trimLeft]

theorem trim_map (text : List Char) : trim (text.map f) = (trim text).map f := by
  rw [trim, hf.trimLeft_map, trimRight, ← List.map_reverse, List.dropWhile_map, hf.isBlank_comp,
    ← List.map_reverse, ← trimRight, ← trim]

theorem visible_map (strict : Bool) (text : List Char) :
    visible strict (text.map f) = (visible strict text).map f := by
  cases strict
  · have hkept : (fun c => !Text.isBlank c) ∘ f = fun c => !Text.isBlank c :=
      funext fun c => congrArg not (hf.isBlank c)
    show (text.map f).filter _ = (text.filter _).map f
    rw [List.filter_map, hkept]
  · rfl

theorem takeSign_map (negated : Bool) (text : List Char) :
    takeSign negated (text.map f) =
      ((takeSign negated text).1, (takeSign negated text).2.map f) := by
  cases text with
  | nil => rfl
  | cons c rest =>
    by_cases hminus : c = '-'
    · rw [hminus, List.map_cons, hf.map_mark (by decide), takeSign, takeSign, hf.trimLeft_map]
    · by_cases hplus : c = '+'
      · rw [hplus, List.map_cons, hf.map_mark (by decide), takeSign, takeSign, hf.trimLeft_map]
      · have hminus' : f c ≠ '-' := mt (hf.eq_iff '-' (by decide) c).mp hminus
        have hplus' : f c ≠ '+' := mt (hf.eq_iff '+' (by decide) c).mp hplus
        simp [takeSign, hminus, hplus, hminus', hplus']

theorem takeCurrency_map (negated : Bool) (text : List Char) :
    takeCurrency negated (text.map f) =
      ((takeCurrency negated text).1, (takeCurrency negated text).2.map f) := by
  cases text with
  | nil => rfl
  | cons c rest =>
    by_cases hmark : c = '$'
    · rw [hmark, List.map_cons, hf.map_mark (by decide), takeCurrency, takeCurrency,
        hf.trimLeft_map, hf.takeSign_map]
    · have hmark' : f c ≠ '$' := mt (hf.eq_iff '$' (by decide) c).mp hmark
      simp [takeCurrency, hmark, hmark']

theorem takePercents_map (text : List Char) :
    takePercents (text.map f) = ((takePercents text).1, (takePercents text).2.map f) := by
  have hpercent : (fun c => f c == '%') = fun c => c == '%' :=
    funext fun c => Bool.eq_iff_iff.mpr (by simpa using hf.eq_iff '%' (by decide) c)
  have hrun : isPercentOrBlank ∘ f = isPercentOrBlank :=
    funext fun c => congrArg₂ or (congrFun hpercent c) (hf.isBlank c)
  have hcount (run : List Char) : (run.map f).count '%' = run.count '%' := by
    rw [List.count, List.countP_map]
    exact congrArg (List.countP · run) hpercent
  unfold takePercents
  dsimp only
  rw [← List.map_reverse, List.takeWhile_map, List.dropWhile_map, hrun, hcount, List.map_reverse]

theorem takeParentheses_map (text : List Char) :
    takeParentheses (text.map f) =
      ((takeParentheses text).1, (takeParentheses text).2.map f) := by
  have hhead : (text.map f).head? = some '(' ↔ text.head? = some '(' := by
    simp [List.head?_map, hf.eq_iff '(' (by decide)]
  have hlast : (text.map f).getLast? = some ')' ↔ text.getLast? = some ')' := by
    simp [List.getLast?_map, hf.eq_iff ')' (by decide)]
  unfold takeParentheses
  simp only [hhead, hlast]
  split
  · rw [← List.map_tail, ← List.map_dropLast, hf.trim_map]
  · rfl

/-- Peeling does not look at the characters that are exchanged. -/
theorem peel_map (text : List Char) :
    peel (text.map f) = ((peel text).1, (peel text).2.1, (peel text).2.2.map f) := by
  unfold peel peelBody
  simp only [hf.takeParentheses_map, hf.takePercents_map, hf.takeSign_map, hf.takeCurrency_map]

end KeepsMarks

/-! Unsigned numerals by the separators of the caller. -/

/-- The separators of the caller, with blanks and groups left unchecked. -/
def Convention.given (decimal group : Char) : Convention := ⟨[decimal], [group], false⟩

/-- A text without a character. -/
def without (c : Char) (text : List Char) : List Char := text.filter (· != c)

theorem without_eq_self {c : Char} {text : List Char} (h : c ∉ text) : without c text = text :=
  List.filter_eq_self.mpr fun d hd => by simpa using fun he : d = c => h (he ▸ hd)

section

variable {decimal group : Char} {before after text : List Char}

theorem splitAtFirst_append_cons (h : decimal ∉ before) :
    splitAtFirst [decimal] (before ++ decimal :: after) = some (before, after) := by
  have hbefore : ∀ c ∈ before, (c != decimal) = true := fun c hc => by
    simpa using fun he : c = decimal => h (he ▸ hc)
  have hstop : ∀ c ∈ (decimal :: after).head?, (c != decimal) = false := by
    rintro c ⟨⟩
    simp
  rw [splitAtFirst_singleton, if_pos (by simp), takeWhile_append_of_head hbefore hstop,
    dropWhile_append_of_head hbefore hstop]
  rfl

theorem withoutGroups_given (whole fraction : List Char) :
    withoutGroups (.given decimal group) whole fraction =
      if group ∈ fraction then .error .groupAfterDecimal else .ok (without group whole) := by
  have hg : (Convention.given decimal group).group = [group] := rfl
  have hs : (Convention.given decimal group).strict = false := rfl
  unfold withoutGroups
  dsimp only
  rw [hg, hs, occursIn_singleton, occursIn_singleton, eraseAll_singleton]
  by_cases hmem : group ∈ whole
  · simp [hmem, without]
  · simp [hmem, without_eq_self hmem]

/-- Behind the first decimal separator no group separator may stand. -/
theorem unsignedNumber_given_of_append (h : decimal ∉ before) (percents : Nat) :
    unsignedNumber (.given decimal group) percents (before ++ decimal :: after) =
      if group ∈ after then .error .groupAfterDecimal
      else plainNumber true (without group before ++ '.' :: after) >>=
        dividePercents percents := by
  have hd : (Convention.given decimal group).decimal = [decimal] := rfl
  unfold unsignedNumber
  rw [hd, splitAtFirst_append_cons h]
  show withoutGroups _ before after >>= (fun whole =>
    plainNumber true (whole ++ '.' :: after) >>= dividePercents percents) = _
  rw [withoutGroups_given]
  by_cases hmem : group ∈ after
  · rw [if_pos hmem, if_pos hmem]
    rfl
  · rw [if_neg hmem, if_neg hmem]
    rfl

theorem unsignedNumber_given_of_not_mem (h : decimal ∉ text) (percents : Nat) :
    unsignedNumber (.given decimal group) percents text =
      plainNumber (decide (0 < percents)) (without group text) >>= dividePercents percents := by
  have hd : (Convention.given decimal group).decimal = [decimal] := rfl
  unfold unsignedNumber
  rw [hd, splitAtFirst_singleton, if_neg h]
  show withoutGroups _ text [] >>= (fun whole =>
    plainNumber (decide (0 < percents)) whole >>= dividePercents percents) = _
  rw [withoutGroups_given, if_neg List.not_mem_nil]
  rfl

end

theorem plainNumber_of_not_plain {body : List Char} (h : ∀ p, ¬ PlainNumeral p body)
    (isFloat : Bool) : plainNumber isFloat body = .error .notNumeral := by
  have hread : readPlain body = none :=
    Option.eq_none_iff_forall_ne_some.mpr fun p hp => h p (readPlain_eq_some_iff.mp hp)
  rw [plainNumber, hread]

/-- A numeral with a point is a double only if one is asked for or it has an exponent. -/
theorem plainNumber_of_point {p : Plain} {body : List Char} (h : PlainNumeral p body)
    (hp : p.point = true) (isFloat : Bool) :
    plainNumber isFloat body =
      if (isFloat || p.exponent.isSome) = true then .ok (.float p.nearest)
      else .error (.notWhole body) := by
  rw [plainNumber, readPlain_eq_some_iff.mpr h, ← p.toFloat_eq_nearest]
  dsimp only
  rw [if_pos hp]

theorem Plain.number_of_point {p : Plain} (hp : p.point = true) (percents : Nat) :
    dividePercents percents (.float p.nearest) = p.number percents := by
  have hwhole : p.isWhole = false := by rw [Plain.isWhole, hp]; rfl
  have hlong : p.isTooLong percents = false := by
    rw [Plain.isTooLong, hwhole, Bool.and_false, Bool.false_and]
  rw [dividePercents_float, Plain.number, hlong, if_neg Bool.false_ne_true, Plain.unsigned, hwhole]
  by_cases hn : percents = 0
  · rw [if_pos hn, if_pos hn, if_neg Bool.false_ne_true, if_pos (by omega)]
  · rw [if_neg hn, if_neg hn]

/-- Two readings that are the same, but for the flaw that is named where there is one. -/
inductive Agree : Except Flaw Number → Except Flaw Number → Prop
  | same (x : Except Flaw Number) : Agree x x
  | flawed {flaw flaw' : Flaw} (h : flaw ≠ .tooManyPercents) (h' : flaw' ≠ .tooManyPercents) :
      Agree (.error flaw) (.error flaw')

theorem Agree.map {x y : Except Flaw Number} (h : Agree x y) (f : Number → Number) :
    Agree (x.map f) (y.map f) := by
  cases h with
  | same => exact .same _
  | flawed h h' => exact .flawed h h'

end Numeral

end SheetFormulas
