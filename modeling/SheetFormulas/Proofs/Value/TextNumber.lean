import SheetFormulas.Aggregate
import SheetFormulas.Proofs.Numeral.Reading
import SheetFormulas.Proofs.Value.Coercion

/-!
Texts as numbers. A text is converted or refused, unless it is a numeral with so many percent signs
that the power of one hundred has no double: then every conversion of it overflows.
-/

namespace SheetFormulas

attribute [local irreducible] Binary64.unitsPerOne

open Numeral Text

/-- Whether a text is a numeral with too many percent signs for a double. -/
def IsOverdrawn (strict : Bool) (t : String) : Prop :=
  ∃ negative percents p, Written strict negative percents p t.toList ∧ 154 < percents

/-- What becomes of a text: a number, or a refusal that answers with an error value, unless the text
is overdrawn. -/
structure Converts (t : String) (overdrawn : Prop) (outcome : Outcome Number) : Prop where
  number_or_refused : ¬ overdrawn →
    (∃ n, outcome = .ok n) ∨ outcome = refuseCoercion (.text t .number)
  answered : ¬ overdrawn → ∃ v, Value.answer (.number <$> outcome) = .ok v ∧
    ((∃ n, v = .number n) ∨ v = .error .badValue)
  overflow : overdrawn → outcome = fail .overflow

theorem percents_replicate : ∀ n, Percents n (List.replicate n '%')
  | 0 => .none
  | n + 1 => .more isBlanks_nil (percents_replicate n)

/-- Digits with more than 154 percent signs are overdrawn. -/
theorem isOverdrawn_digits (strict : Bool) {digits : List Char} {n : Nat} (hne : digits ≠ [])
    (hd : IsDigits digits) (hn : 154 < n) :
    IsOverdrawn strict (String.ofList (digits ++ List.replicate n '%')) := by
  have hframed : Framed false n digits (digits ++ List.replicate n '%') := by
    have hbody : Numeral.Body false n digits ([] ++ ([] ++ (digits ++ List.replicate n '%'))) :=
      .intro .missing .missing (percents_replicate n)
    simpa using Framed.plain isBlanks_nil isBlanks_nil hbody
  have hvisible : visible strict (digits ++ List.replicate n '%') =
      digits ++ List.replicate n '%' := by
    cases strict
    · refine List.filter_eq_self.mpr fun c hc => ?_
      rcases List.mem_append.mp hc with hc | hc
      · rw [isBlank_of_isDigit (hd c hc)]
        rfl
      · rw [List.eq_of_mem_replicate hc]
        decide
    · rfl
  have hcomma : ',' ∉ digits := hd.not_mem (by decide)
  have hplain : PlainNumeral ⟨digits, false, [], none⟩ digits := .of_isDigits hne hd
  have hseparated : Separated strict ⟨digits, false, [], none⟩ digits := by
    refine ⟨by rwa [withoutCommas_eq_self hcomma], ?_, fun _ hc => absurd hc hcomma⟩
    rw [fromPoint_eq_nil (hd.not_mem (by decide))]
    exact List.not_mem_nil
  rw [← hvisible, ← String.toList_ofList (l := digits ++ List.replicate n '%')] at hframed
  exact ⟨false, n, _, .intro hframed hseparated, hn⟩

namespace Converts

variable {t : String} {overdrawn : Prop}

theorem of_ok (n : Number) (h : ¬ overdrawn) : Converts t overdrawn (.ok n) where
  number_or_refused _ := .inl ⟨n, rfl⟩
  answered _ := ⟨.number n, rfl, .inl ⟨n, rfl⟩⟩
  overflow ho := absurd ho h

theorem of_refused (h : ¬ overdrawn) : Converts t overdrawn (refuseCoercion (.text t .number)) where
  number_or_refused _ := .inr rfl
  answered _ := ⟨.error .badValue, rfl, .inr rfl⟩
  overflow ho := absurd ho h

theorem of_overflow (h : overdrawn) : Converts t overdrawn (fail .overflow) where
  number_or_refused ho := absurd h ho
  answered ho := absurd h ho
  overflow _ := rfl

/-- A further step that always succeeds keeps what becomes of a text. -/
theorem bind {outcome : Outcome Number} {next : Number → Outcome Number}
    (h : Converts t overdrawn outcome) (hnext : ∀ n, ∃ m, next n = .ok m) :
    Converts t overdrawn (outcome >>= next) := by
  by_cases ho : overdrawn
  · rw [h.overflow ho]
    exact of_overflow ho
  · rcases h.number_or_refused ho with ⟨n, rfl⟩ | rfl
    · obtain ⟨m, hm⟩ := hnext n
      rw [Outcome.ok_bind, hm]
      exact of_ok m ho
    · exact of_refused ho

end Converts

theorem converts_numberOfText (strict : Bool) (t : String) :
    Converts t (IsOverdrawn strict t) (numberOfText (.pointed strict) t) := by
  unfold numberOfText IsOverdrawn
  rw [← read_eq_tooManyPercents_iff]
  cases read (.pointed strict) t.toList with
  | ok n => exact .of_ok n (by simp)
  | error flaw =>
    cases flaw with
    | tooManyPercents => exact .of_overflow rfl
    | _ => exact .of_refused (by simp)

theorem not_isOverdrawn_of_trim {strict : Bool} {t : String}
    (h : trim (visible strict t.toList) = []) : ¬ IsOverdrawn strict t := by
  rintro ⟨negative, percents, p, ⟨hf, hs⟩, -⟩
  exact ((framed_iff hs.solid).mp hf).1 h

theorem trim_visible_of_trim (strict : Bool) {text : List Char} (h : trim text = []) :
    trim (visible strict text) = [] := by
  cases strict
  · obtain ⟨before, after, hb, ha, htext⟩ := exists_trim text
    have hnone : visible false text = [] := by
      refine List.filter_eq_nil_iff.mpr fun c hc => ?_
      rw [htext, h, List.append_nil] at hc
      simpa using (List.mem_append.mp hc).elim (hb c) (ha c)
    rw [hnone]
    rfl
  · exact h

theorem converts_toNumber (t : String) :
    Converts t (IsOverdrawn true t) (Value.text t).toNumber := by
  unfold Value.toNumber
  dsimp only
  split
  · rename_i hempty
    have htext : t = "" := by simpa using hempty
    subst htext
    exact .of_ok (.int 0) (not_isOverdrawn_of_trim rfl)
  · exact converts_numberOfText true t

theorem exists_total (n : Number) : ∃ m, Aggregate.total [n] = .ok m := by
  -- the sum starts at a whole zero, which has a double
  have hadd : ∃ m, Number.add (.int 0) n = .ok m := by
    cases n with
    | int n => exact ⟨_, rfl⟩
    | float x =>
      have hzero := Number.toFloat_int 0 (Number.lt_two_pow (by decide) (by decide))
      refine ⟨.float (Binary64.ofInt 0 + x), ?_⟩
      show (do return .float ((← (Number.int 0).toFloat) + (← (Number.float x).toFloat)) :
        Outcome Number) = _
      rw [hzero]
      rfl
  obtain ⟨m, hm⟩ := hadd
  refine ⟨m, ?_⟩
  show (Number.add (.int 0) n >>= fun m => pure m) = _
  rw [hm]
  rfl

theorem sum_text (t : String) :
    Aggregate.sum [.text t] = (Value.text t).toNumber >>= fun n => Aggregate.total [n] := by
  have hnumbers : Aggregate.numbers [.text t] = (Value.text t).toNumber >>= fun n => pure [n] := by
    unfold Aggregate.numbers Aggregate.argumentNumbers
    simp only [List.mapM_cons, List.mapM_nil]
    cases (Value.text t).toNumber <;> rfl
  unfold Aggregate.sum
  rw [hnumbers]
  cases (Value.text t).toNumber <;> rfl

theorem converts_numberValue (t : String) :
    Converts t (IsOverdrawn false t) (Aggregate.numberValue (.text t) (.text ".") (.text ",")) := by
  have hvalue : Aggregate.numberValue (.text t) (.text ".") (.text ",") =
      if (trim t.toList).isEmpty then .ok (.int 0) else numberOfText (.pointed false) t := rfl
  rw [hvalue]
  split
  · rename_i h
    exact .of_ok (.int 0)
      (not_isOverdrawn_of_trim (trim_visible_of_trim false (List.isEmpty_iff.mp h)))
  · exact converts_numberOfText false t

/-- A text is a number or refused, alone, in a sum, and with blanks and groups ignored, unless it is
overdrawn. -/
theorem text_converts_unless_overdrawn (t : String) :
    Converts t (IsOverdrawn true t) (Value.text t).toNumber ∧
      Converts t (IsOverdrawn true t) (Aggregate.sum [.text t]) ∧
      Converts t (IsOverdrawn false t)
        (Aggregate.numberValue (.text t) (.text ".") (.text ",")) := by
  refine ⟨converts_toNumber t, ?_, converts_numberValue t⟩
  rw [sum_text]
  exact (converts_toNumber t).bind exists_total

/-- A digit with 155 percent signs overflows in every conversion. -/
theorem text_overflows_of_155_percents :
    let t := String.ofList (['5'] ++ List.replicate 155 '%')
    (Value.text t).toNumber = fail .overflow ∧ Aggregate.sum [.text t] = fail .overflow ∧
      Aggregate.numberValue (.text t) (.text ".") (.text ",") = fail .overflow := by
  have hoverdrawn : ∀ strict, IsOverdrawn strict (String.ofList (['5'] ++ List.replicate 155 '%')) :=
    fun strict => isOverdrawn_digits strict (by decide) (isDigits_iff_all.mp (by decide)) (by decide)
  obtain ⟨hnumber, hsum, hvalue⟩ := text_converts_unless_overdrawn
    (String.ofList (['5'] ++ List.replicate 155 '%'))
  exact ⟨hnumber.overflow (hoverdrawn true), hsum.overflow (hoverdrawn true),
    hvalue.overflow (hoverdrawn false)⟩

end SheetFormulas
