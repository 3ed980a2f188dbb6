/-!
Finding one text in another. A separator that is looked for is not empty.
-/

namespace SheetFormulas.Text

/-- The parts before and after the first place where the separator stands. -/
def splitAtFirst (separator : List Char) : List Char → Option (List Char × List Char)
  | [] => none
  | c :: rest =>
    if separator.isPrefixOf (c :: rest) then some ([], (c :: rest).drop separator.length)
    else (splitAtFirst separator rest).map fun (before, after) => (c :: before, after)

/-- Whether the separator stands anywhere in the text. -/
def occursIn (separator text : List Char) : Bool := (splitAtFirst separator text).isSome

/-- The text without the next `skip` characters and without every separator after them. -/
def eraseFrom (separator : List Char) : Nat → List Char → List Char
  | _, [] => []
  | skip + 1, _ :: rest => eraseFrom separator skip rest
  | 0, c :: rest =>
    if separator.isPrefixOf (c :: rest) then eraseFrom separator (separator.length - 1) rest
    else c :: eraseFrom separator 0 rest

/-- The text without the separators, found from left to right. -/
def eraseAll (separator text : List Char) : List Char := eraseFrom separator 0 text

/-- The parts of a text between its separators, a single character. -/
def splitAll (separator : Char) : List Char → List (List Char)
  | [] => [[]]
  | c :: rest =>
    if c = separator then [] :: splitAll separator rest
    else
      match splitAll separator rest with
      | [] => [[c]]
      | first :: others => (c :: first) :: others

/-- What is put back is the text. -/
theorem splitAtFirst_eq_some {separator text before after : List Char}
    (h : splitAtFirst separator text = some (before, after)) :
    text = before ++ separator ++ after := by
  induction text generalizing before after with
  | nil => simp [splitAtFirst] at h
  | cons c rest ih =>
    unfold splitAtFirst at h
    split at h
    · rename_i hp
      obtain ⟨t, ht⟩ := List.isPrefixOf_iff_prefix.1 hp
      simp only [Option.some.injEq, Prod.mk.injEq] at h
      obtain ⟨rfl, rfl⟩ := h
      rw [← ht]
      simp
    · cases hr : splitAtFirst separator rest with
      | none => simp [hr] at h
      | some parts =>
        obtain ⟨b, a⟩ := parts
        simp only [hr, Option.map_some, Option.some.injEq, Prod.mk.injEq] at h
        obtain ⟨rfl, rfl⟩ := h
        simp [ih hr]

end SheetFormulas.Text
