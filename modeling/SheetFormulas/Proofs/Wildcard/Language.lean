import SheetFormulas.Proofs.Text.LetterCase
import SheetFormulas.Wildcard

/-!
The texts that a wildcard pattern stands for. A pattern is followed character by character with the
set of places that are reached; the text matches if the last place is among them. A final line end
of the text may be left over.
-/

namespace SheetFormulas.Wildcard

/-- Whether a text matches a pattern, both character by character. A `*` stands for any run of
characters, a `?` for one character, and a `~` makes the character after it literal; a `~` at the
end is a literal itself. -/
inductive Fits : List Char → List Char → Prop where
  | nil : Fits [] []
  | anyRun {pattern text : List Char} (run : List Char) :
      Fits pattern text → Fits ('*' :: pattern) (run ++ text)
  | anyChar {pattern text : List Char} (c : Char) :
      Fits pattern text → Fits ('?' :: pattern) (c :: text)
  | escaped {pattern text : List Char} {c d : Char} :
      Text.agreeCaseless c d = true → Fits pattern text → Fits ('~' :: c :: pattern) (d :: text)
  | lastTilde : Fits ['~'] ['~']
  | literal {pattern text : List Char} {c d : Char} :
      c ≠ '*' → c ≠ '?' → c ≠ '~' → Text.agreeCaseless c d = true → Fits pattern text →
      Fits (c :: pattern) (d :: text)

section Matches

variable {part : Part} {parts : List Part} {c : Char} {text : List Char}

theorem matches_nil_iff : Matches [] text ↔ text = [] := by
  constructor
  · rintro ⟨⟩
    rfl
  · rintro rfl
    exact .nil

theorem matches_anyRun_nil_iff : Matches (.anyRun :: parts) [] ↔ Matches parts [] := by
  constructor
  · intro h
    cases h with
    | skip h => exact h
  · exact .skip

theorem matches_anyRun_cons_iff :
    Matches (.anyRun :: parts) (c :: text) ↔
      Matches parts (c :: text) ∨ Matches (.anyRun :: parts) text := by
  constructor
  · intro h
    cases h with
    | skip h => exact .inl h
    | more c h => exact .inr h
    | one c htakes => cases htakes
  · rintro (h | h)
    · exact .skip h
    · exact .more c h

theorem not_matches_nil (h : part ≠ .anyRun) : ¬ Matches (part :: parts) [] := by
  rintro ⟨⟩
  exact h rfl

theorem matches_cons_iff (h : part ≠ .anyRun) :
    Matches (part :: parts) (c :: text) ↔ part.takes c = true ∧ Matches parts text := by
  constructor
  · intro hm
    cases hm with
    | skip => exact absurd rfl h
    | more => exact absurd rfl h
    | one c htakes hm => exact ⟨htakes, hm⟩
  · rintro ⟨htakes, hm⟩
    exact .one c htakes hm

theorem anyChar_ne_anyRun : Part.anyChar ≠ .anyRun := nofun

theorem literal_ne_anyRun : Part.literal c ≠ .anyRun := nofun

theorem matches_anyChar_iff :
    Matches (.anyChar :: parts) text ↔ ∃ d rest, text = d :: rest ∧ Matches parts rest := by
  cases text with
  | nil => simpa using not_matches_nil anyChar_ne_anyRun
  | cons d text =>
    rw [matches_cons_iff anyChar_ne_anyRun]
    constructor
    · rintro ⟨-, h⟩
      exact ⟨d, text, rfl, h⟩
    · rintro ⟨_, _, heq, h⟩
      cases heq
      exact ⟨rfl, h⟩

theorem matches_literal_iff :
    Matches (.literal c :: parts) text ↔
      ∃ d rest, text = d :: rest ∧ Text.agreeCaseless c d = true ∧ Matches parts rest := by
  cases text with
  | nil => simpa using not_matches_nil literal_ne_anyRun
  | cons d text =>
    rw [matches_cons_iff literal_ne_anyRun, Part.takes]
    constructor
    · rintro ⟨hagree, h⟩
      exact ⟨d, text, rfl, hagree, h⟩
    · rintro ⟨_, _, heq, hagree, h⟩
      cases heq
      exact ⟨hagree, h⟩

/-- A run takes any number of characters. -/
theorem matches_anyRun_iff :
    Matches (.anyRun :: parts) text ↔ ∃ run rest, text = run ++ rest ∧ Matches parts rest := by
  constructor
  · intro h
    induction text with
    | nil => exact ⟨[], [], rfl, matches_anyRun_nil_iff.mp h⟩
    | cons c text ih =>
      rcases matches_anyRun_cons_iff.mp h with h | h
      · exact ⟨[], _, rfl, h⟩
      · obtain ⟨run, rest, rfl, hrest⟩ := ih h
        exact ⟨c :: run, rest, rfl, hrest⟩
  · rintro ⟨run, rest, rfl, h⟩
    induction run with
    | nil => exact .skip h
    | cons c run ih => exact .more c ih

end Matches

/-- A text has the parts of a pattern if it matches the pattern character by character. -/
theorem matches_parse_iff (pattern text : List Char) :
    Matches (parse pattern) text ↔ Fits pattern text := by
  fun_induction parse pattern generalizing text with
  | case1 =>
    rw [matches_nil_iff]
    constructor
    · rintro rfl
      exact .nil
    · rintro ⟨⟩
      rfl
  | case2 =>
    simp only [matches_literal_iff, matches_nil_iff, Text.agreeCaseless_tilde_iff]
    constructor
    · rintro ⟨_, _, rfl, rfl, rfl⟩
      exact .lastTilde
    · intro h
      cases h with
      | lastTilde => exact ⟨_, _, rfl, rfl, rfl⟩
      | literal _ _ hne => exact absurd rfl hne
  | case3 c rest ih =>
    simp only [matches_literal_iff, ih]
    constructor
    · rintro ⟨d, text, rfl, hagree, h⟩
      exact .escaped hagree h
    · intro h
      cases h with
      | escaped hagree h => exact ⟨_, _, rfl, hagree, h⟩
      | literal _ _ hne => exact absurd rfl hne
  | case4 rest ih =>
    simp only [matches_anyRun_iff, ih]
    constructor
    · rintro ⟨run, text, rfl, h⟩
      exact .anyRun run h
    · intro h
      cases h with
      | anyRun run h => exact ⟨run, _, rfl, h⟩
      | literal hne => exact absurd rfl hne
  | case5 rest ih =>
    simp only [matches_anyChar_iff, ih]
    constructor
    · rintro ⟨d, text, rfl, h⟩
      exact .anyChar d h
    · intro h
      cases h with
      | anyChar d h => exact ⟨d, _, rfl, h⟩
      | literal _ hne => exact absurd rfl hne
  | case6 c rest hlast hescape hrun hchar ih =>
    simp only [matches_literal_iff, ih]
    constructor
    · rintro ⟨d, text, rfl, hagree, h⟩
      refine .literal hrun hchar ?_ hagree h
      rintro rfl
      cases rest with
      | nil => exact hlast rfl rfl
      | cons c rest => exact hescape c rest rfl rfl
    · intro h
      cases h with
      | literal _ _ _ hagree h => exact ⟨_, _, rfl, hagree, h⟩
      | anyRun => exact absurd rfl hrun
      | anyChar => exact absurd rfl hchar
      | escaped => exact absurd rfl (hescape _ _ rfl)
      | lastTilde => exact absurd rfl (hlast rfl)

/-- Whether a text leads from one of the places that are reached to the end of the pattern. -/
def Leads : List Part → List Bool → List Char → Prop
  | [], [here], text => here = true ∧ Matches [] text
  | part :: parts, here :: rest, text =>
    (here = true ∧ Matches (part :: parts) text) ∨ Leads parts rest text
  | _, _, _ => False

/-- Whether the place behind a run is reached wherever the place before it is: a run may be
empty. -/
inductive Closed : List Part → List Bool → Prop where
  | nil (here : Bool) : Closed [] [here]
  | cons {part : Part} {parts : List Part} {here next : Bool} {rest : List Bool} :
      (part = .anyRun → here = true → next = true) → Closed parts (next :: rest) →
      Closed (part :: parts) (here :: next :: rest)

section Places

variable {here : Bool} {parts : List Part} {reached : List Bool} {c : Char} {text : List Char}

theorem Closed.leads_of_head {rest : List Bool} (h : Closed parts (true :: rest))
    (hm : Matches parts text) : Leads parts (true :: rest) text := by
  cases h with
  | nil => exact ⟨rfl, hm⟩
  | cons _ _ => exact .inl ⟨rfl, hm⟩

theorem exists_start (here : Bool) (parts : List Part) :
    ∃ rest, start here parts = here :: rest := by
  cases parts with
  | nil => exact ⟨_, rfl⟩
  | cons part parts => cases part <;> exact ⟨_, rfl⟩

theorem closed_start (here : Bool) (parts : List Part) : Closed parts (start here parts) := by
  have step {part : Part} {parts : List Part} {here next : Bool}
      (hrun : part = .anyRun → here = true → next = true) (ih : Closed parts (start next parts)) :
      Closed (part :: parts) (here :: start next parts) := by
    obtain ⟨rest, hrest⟩ := exists_start next parts
    rw [hrest] at ih ⊢
    exact .cons hrun ih
  induction parts generalizing here with
  | nil => exact .nil here
  | cons part parts ih =>
    cases part with
    | anyRun => exact step (fun _ h => h) (ih here)
    | anyChar => exact step nofun (ih false)
    | literal c => exact step nofun (ih false)

/-- Before any character is read, a text leads to the end if it matches the whole pattern. -/
theorem leads_start : Leads parts (start here parts) text ↔ here = true ∧ Matches parts text := by
  induction parts generalizing here with
  | nil => exact Iff.rfl
  | cons part parts ih =>
    cases part with
    | anyRun =>
      rw [start, Leads, ih, ← and_or_left]
      exact and_congr_right fun _ => or_iff_left_of_imp .skip
    | anyChar => simp [start, Leads, ih]
    | literal c => simp [start, Leads, ih]

theorem Closed.exists_advance (h : Closed parts reached) (c : Char) (here : Bool) :
    ∃ now rest, advance c here parts reached = now :: rest ∧ (here = true → now = true) := by
  cases h with
  | nil => exact ⟨here, [], rfl, id⟩
  | @cons part parts before _ _ _ _ =>
    cases part with
    | anyRun => exact ⟨here || before, _, rfl, fun h => by rw [h, Bool.true_or]⟩
    | anyChar => exact ⟨here, _, rfl, id⟩
    | literal c => exact ⟨here, _, rfl, id⟩

/-- One more character keeps the empty runs taken. -/
theorem Closed.advance (h : Closed parts reached) (c : Char) (here : Bool) :
    Closed parts (advance c here parts reached) := by
  induction h generalizing here with
  | nil => exact .nil here
  | @cons part parts before next rest hrun hclosed ih =>
    have step {here now : Bool} (hnow : part = .anyRun → here = true → now = true) :
        Closed (part :: parts) (here :: Wildcard.advance c now parts (next :: rest)) := by
      obtain ⟨head, tail, htail, hhead⟩ := hclosed.exists_advance c now
      have hclosed := ih now
      rw [htail] at hclosed ⊢
      exact .cons (fun hpart h => hhead (hnow hpart h)) hclosed
    cases part with
    | anyRun => exact step fun _ h => h
    | anyChar => exact step nofun
    | literal d => exact step nofun

/-- After one more character a text leads to the end if it did so with this character in front. -/
theorem Closed.leads_advance (h : Closed parts reached) :
    Leads parts (Wildcard.advance c here parts reached) text ↔
      (here = true ∧ Matches parts text) ∨ Leads parts reached (c :: text) := by
  induction h generalizing here with
  | nil before =>
    simp [Wildcard.advance, Leads, matches_nil_iff]
  | @cons part parts before next rest hrun hclosed ih =>
    have step (hpart : part ≠ .anyRun) :
        Leads (part :: parts) (here ::
            Wildcard.advance c (before && part.takes c) parts (next :: rest)) text ↔
          (here = true ∧ Matches (part :: parts) text) ∨
            Leads (part :: parts) (before :: next :: rest) (c :: text) := by
      rw [Leads, ih, Leads, matches_cons_iff hpart, Bool.and_eq_true, and_assoc]
    cases part with
    | anyRun =>
      -- an empty run in front of the character is found at the place behind the run
      have hempty : before = true → Matches parts (c :: text) →
          Leads parts (next :: rest) (c :: text) := by
        rintro hbefore hm
        rw [hrun rfl hbefore] at hclosed ⊢
        exact hclosed.leads_of_head hm
      rw [Wildcard.advance, Leads, ih, Leads, matches_anyRun_cons_iff, Bool.or_eq_true]
      constructor
      · rintro (⟨hnow | hnow, hm⟩ | ⟨hnow | hnow, hm⟩ | h)
        · exact .inl ⟨hnow, hm⟩
        · exact .inr (.inl ⟨hnow, .inr hm⟩)
        · exact .inl ⟨hnow, .skip hm⟩
        · exact .inr (.inl ⟨hnow, .inr (.skip hm)⟩)
        · exact .inr (.inr h)
      · rintro (⟨hnow, hm⟩ | ⟨hnow, hm | hm⟩ | h)
        · exact .inl ⟨.inl hnow, hm⟩
        · exact .inr (.inr (hempty hnow hm))
        · exact .inl ⟨.inr hnow, hm⟩
        · exact .inr (.inr h)
    | anyChar => exact step anyChar_ne_anyRun
    | literal d => exact step literal_ne_anyRun

/-- At the end of the text the last place tells whether it matches. -/
theorem Closed.getLast_iff_leads (h : Closed parts reached) :
    reached.getLast?.getD false = true ↔ Leads parts reached [] := by
  induction h with
  | nil here => simp [Leads, matches_nil_iff]
  | @cons part parts here next rest hrun hclosed ih =>
    rw [List.getLast?_cons_cons, ih, Leads]
    refine (or_iff_right_of_imp ?_).symm
    rintro ⟨hhere, hm⟩
    by_cases hpart : part = .anyRun
    · subst hpart
      rw [hrun rfl hhere] at hclosed ⊢
      exact hclosed.leads_of_head (matches_anyRun_nil_iff.mp hm)
    · exact absurd hm (not_matches_nil hpart)

theorem Closed.foldl_leads (h : Closed parts reached) (text : List Char) :
    (text.foldl (fun reached c => Wildcard.advance c false parts reached) reached).getLast?.getD
        false = true ↔ Leads parts reached text := by
  induction text generalizing reached with
  | nil => exact h.getLast_iff_leads
  | cons c text ih =>
    rw [List.foldl_cons, ih (h.advance c false), h.leads_advance]
    simp

theorem matchesAll_iff : matchesAll parts text = true ↔ Matches parts text := by
  rw [matchesAll, (closed_start true parts).foldl_leads, leads_start]
  simp

end Places

/-- A text matches a wildcard pattern if it is one of the texts that the pattern stands for, or such
a text with a line end behind it. Nothing else is special in a pattern: between characters of Basic
Latin, a literal character stands for those with its lower case form. -/
theorem matchesValue_iff_fits (pattern text : String) :
    (∃ found, matchesValue (.text pattern) (.text text) = .ok found ∧
      (found = true ↔ Fits pattern.toList text.toList ∨
        ∃ front, text.toList = front ++ ['\n'] ∧ Fits pattern.toList front)) ∧
    ∀ a b : Char, a.toNat < 0x80 → b.toNat < 0x80 →
      (Text.agreeCaseless a b = true ↔ a.toLower = b.toLower) := by
  refine ⟨⟨_, rfl, ?_⟩, fun a b => Text.agreeCaseless_iff_toLower⟩
  simp only [matchesText, Bool.or_eq_true, Bool.and_eq_true, matchesAll_iff, matches_parse_iff,
    beq_iff_eq]
  refine or_congr_right ?_
  rw [List.getLast?_eq_some_iff]
  constructor
  · rintro ⟨⟨front, htext⟩, hfits⟩
    rw [htext, List.dropLast_concat] at hfits
    exact ⟨front, htext, hfits⟩
  · rintro ⟨front, htext, hfits⟩
    rw [htext, List.dropLast_concat]
    exact ⟨⟨front, rfl⟩, hfits⟩

theorem matchesValue_of_final_line_end :
    'a'.toNat < 0x80 ∧ 'A'.toNat < 0x80 ∧
      matchesValue (.text "a") (.text "A\n") = .ok true ∧ ¬ Fits "a".toList "A\n".toList := by
  obtain ⟨⟨found, hmatches, hfound⟩, hlower⟩ := matchesValue_iff_fits "a" "A\n"
  have hagree : Text.agreeCaseless 'a' 'A' = true := (hlower 'a' 'A' (by decide) (by decide)).mpr rfl
  have hfits : Fits ['a'] ['A'] := .literal (by decide) (by decide) (by decide) hagree .nil
  rw [hfound.mpr (.inr ⟨['A'], rfl, hfits⟩)] at hmatches
  refine ⟨by decide, by decide, hmatches, ?_⟩
  rintro (_ | _ | _ | _ | _ | ⟨_, _, _, _, ⟨⟩⟩)

end SheetFormulas.Wildcard
