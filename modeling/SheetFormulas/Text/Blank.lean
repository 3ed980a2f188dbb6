/-!
Blank characters: the separators, the line and paragraph ends and the control characters that count
as white space.
-/

namespace SheetFormulas.Text

/-- Whether a character is blank. -/
def isBlank (c : Char) : Bool :=
  let code := c.toNat
  (0x09 ≤ code && code ≤ 0x0d) || (0x1c ≤ code && code ≤ 0x20) || code == 0x85 || code == 0xa0 ||
    code == 0x1680 || (0x2000 ≤ code && code ≤ 0x200a) || code == 0x2028 || code == 0x2029 ||
    code == 0x202f || code == 0x205f || code == 0x3000

/-- Every white space character of the core library is blank. -/
theorem isBlank_of_isWhitespace {c : Char} (h : c.isWhitespace = true) : isBlank c = true := by
  simp only [Char.isWhitespace, Bool.or_eq_true, decide_eq_true_eq] at h
  rcases h with ((h | h) | h) | h <;> subst h <;> decide

/-- A text without the blanks before its first other character. -/
def trimLeft (text : List Char) : List Char := text.dropWhile isBlank

/-- A text without the blanks after its last other character. -/
def trimRight (text : List Char) : List Char := (text.reverse.dropWhile isBlank).reverse

/-- A text without the blanks at both ends. -/
def trim (text : List Char) : List Char := trimRight (trimLeft text)

end SheetFormulas.Text
