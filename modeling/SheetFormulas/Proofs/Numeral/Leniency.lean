import SheetFormulas.Proofs.Catalog.Call
import SheetFormulas.Proofs.Numeral.Reading

/-!
Numbers read with blanks and groups checked are read without the checks too, as the same numbers: a
frame stays one when its blanks are deleted, and its core is a numeral with commas in any places.
-/

namespace SheetFormulas

open Text

namespace Numeral

theorem visible_append (strict : Bool) (s t : List Char) :
    visible strict (s ++ t) = visible strict s ++ visible strict t := by
  cases strict
  · exact List.filter_append ..
  · rfl

theorem visible_cons {c : Char} (h : isBlank c = false) (strict : Bool) (text : List Char) :
    visible strict (c :: text) = c :: visible strict text := by
  cases strict <;> simp [visible, h]

theorem visible_of_isBlanks {text : List Char} (h : IsBlanks text) : visible false text = [] :=
  List.filter_eq_nil_iff.mpr fun c hc => by simpa using h c hc

theorem visible_eq_self {text : List Char} (h : ∀ c ∈ text, isBlank c = false) (strict : Bool) :
    visible strict text = text := by
  cases strict
  · exact List.filter_eq_self.mpr fun c hc => by simpa using h c hc
  · rfl

theorem Separated.visible_eq_self {strict : Bool} {p : Plain} {core : List Char}
    (h : Separated strict p core) (strict' : Bool) : visible strict' core = core := by
  refine Numeral.visible_eq_self (fun c hc => ?_) strict'
  rcases h.of_mem c hc with hdigit | hmark
  · exact isBlank_of_isDigit hdigit
  · have hmarks : [',', '.', 'e', 'E', '+', '-'].all (!isBlank ·) = true := by decide
    simpa using List.all_eq_true.mp hmarks c hmark

/-! Each part of a frame stays one without its blanks. -/

theorem Sign.without_blanks {minus : Bool} {sign : List Char} (h : Sign minus sign) :
    Sign minus (visible false sign) := by
  cases h with
  | missing => exact .missing
  | plus hb =>
    rw [visible_cons (by decide), visible_of_isBlanks hb]
    exact .plus isBlanks_nil
  | minus hb =>
    rw [visible_cons (by decide), visible_of_isBlanks hb]
    exact .minus isBlanks_nil

theorem Currency.without_blanks {minus : Bool} {currency : List Char}
    (h : Currency minus currency) :
    Currency minus (visible false currency) := by
  cases h with
  | missing => exact .missing
  | given hb hs =>
    rw [visible_cons (by decide), visible_append, visible_of_isBlanks hb]
    exact .given isBlanks_nil hs.without_blanks

theorem Percents.without_blanks {count : Nat} {percents : List Char} (h : Percents count percents) :
    Percents count (visible false percents) := by
  induction h with
  | none => exact .none
  | more hb _ ih =>
    rw [visible_append, visible_of_isBlanks hb, visible_cons (by decide)]
    exact .more isBlanks_nil ih

section

variable {negative : Bool} {percents : Nat} {core text : List Char}

theorem Body.without_blanks (h : Body negative percents core text) :
    Body negative percents (visible false core) (visible false text) := by
  cases h with
  | intro hs hc hp =>
    rw [visible_append, visible_append, visible_append]
    exact .intro hs.without_blanks hc.without_blanks hp.without_blanks

theorem Framed.without_blanks (h : Framed negative percents core text) :
    Framed negative percents (visible false core) (visible false text) := by
  cases h with
  | plain hb ha h =>
    rw [visible_append, visible_append, visible_of_isBlanks hb, visible_of_isBlanks ha]
    exact .plain isBlanks_nil isBlanks_nil h.without_blanks
  | parenthesized hb ha hi hi' h =>
    rw [visible_append, visible_append, visible_cons (by decide), visible_append, visible_append,
      visible_append, visible_cons (by decide), visible_of_isBlanks hb, visible_of_isBlanks ha,
      visible_of_isBlanks hi, visible_of_isBlanks hi']
    exact .parenthesized isBlanks_nil isBlanks_nil isBlanks_nil isBlanks_nil h.without_blanks

end

/-- Without the checks a numeral may have its commas where it has them with the checks. -/
theorem Separated.unchecked {strict : Bool} {p : Plain} {core : List Char}
    (h : Separated strict p core) : Separated false p core :=
  ⟨h.plain, h.not_mem_fromPoint, fun hs => absurd hs Bool.false_ne_true⟩

theorem Written.unchecked {negative : Bool} {percents : Nat} {p : Plain} {text : List Char}
    (h : Written true negative percents p text) : Written false negative percents p text := by
  cases h with
  | intro hf hs =>
    have hframed := hf.without_blanks
    rw [hs.visible_eq_self] at hframed
    exact .intro hframed hs.unchecked

theorem read_unchecked {text : List Char} {n : Number} (h : read .cell text = .ok n) :
    read (.pointed false) text = .ok n := by
  obtain ⟨negative, percents, p, hw, hlong, hle, hn⟩ := read_eq_ok_iff.mp h
  exact read_eq_ok_iff.mpr ⟨negative, percents, p, hw.unchecked, hlong, hle, hn⟩

theorem trim_ne_nil_of_read {text : List Char} {n : Number} (h : read .cell text = .ok n) :
    trim text ≠ [] := by
  intro hnil
  have hread := read_eq_peel .cell text
  rw [show visible Convention.cell.strict text = text from rfl, if_pos hnil, h] at hread
  cases hread

end Numeral

theorem numberOfText_eq_ok_iff {convention : Numeral.Convention} {t : String} {n : Number} :
    numberOfText convention t = .ok n ↔ Numeral.read convention t.toList = .ok n := by
  unfold numberOfText
  split
  · rename_i h
    rw [h]
    simp
  · rename_i h
    simp [h, fail]
  · rename_i h
    simp [h, refuseCoercion, refuse]

/-- A text that is a number is the same number where blanks and groups are not checked, whole or a
double as before. -/
theorem number_value_extends_conversion {context : Context} {t : String} {n : Number}
    (h : (Value.text t).toNumber = .ok n) :
    (Catalog.standard.call context "NUMBERVALUE" [.text t] []).Yields (.ok (.number n)) [] := by
  have hvalue : Aggregate.numberValue (.text t) (.text ".") (.text ",") =
      if (trim t.toList).isEmpty then .ok (.int 0) else numberOfText (.pointed false) t := rfl
  have hnumber : Aggregate.numberValue (.text t) (.text ".") (.text ",") = .ok n := by
    rw [hvalue]
    unfold Value.toNumber at h
    dsimp only at h
    split at h
    · rename_i hempty
      have htext : t = "" := by simpa using hempty
      subst htext
      exact h
    · rw [numberOfText_eq_ok_iff] at h
      rw [if_neg (fun he => Numeral.trim_ne_nil_of_read h (List.isEmpty_iff.mp he)),
        numberOfText_eq_ok_iff]
      exact Numeral.read_unchecked h
  exact Catalog.standard_call_yields_ok rfl rfl rfl rfl hnumber

/-- Blanks around every mark, and a group. -/
theorem number_value_of_framed_group :
    let context : Context := ⟨⟨⟨2024, 1, 15⟩, .midnight⟩, fun _ => fail .arguments⟩
    (Value.text " ( $ 1,234 ) ").toNumber = .ok (.int (-1234)) ∧
      (Catalog.standard.call context "NUMBERVALUE" [.text " ( $ 1,234 ) "] []).Yields
        (.ok (.number (.int (-1234)))) [] := by
  intro context
  have h : (Value.text " ( $ 1,234 ) ").toNumber = .ok (.int (-1234)) := by rfl
  exact ⟨h, number_value_extends_conversion h⟩

end SheetFormulas
