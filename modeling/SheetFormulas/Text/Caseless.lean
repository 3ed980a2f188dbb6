import SheetFormulas.Text.Lowercase

/-!
Characters compared one at a time without regard to case. Two characters agree when their simple
lower case forms are equal or belong to one family, such as the long s and the s.
-/

namespace SheetFormulas.Text

/-- The families of lower case letters that differ in shape only. -/
def letterFamilies : List (List Char) :=
  [['\u0069', '\u0131'], ['\u0073', '\u017f'], ['\u00b5', '\u03bc'],
    ['\u0345', '\u03b9', '\u1fbe'], ['\u0390', '\u1fd3'], ['\u03b0', '\u1fe3'],
    ['\u03b2', '\u03d0'], ['\u03b5', '\u03f5'], ['\u03b8', '\u03d1'], ['\u03ba', '\u03f0'],
    ['\u03c0', '\u03d6'], ['\u03c1', '\u03f1'], ['\u03c2', '\u03c3'], ['\u03c6', '\u03d5'],
    ['\u0432', '\u1c80'], ['\u0434', '\u1c81'], ['\u043e', '\u1c82'], ['\u0441', '\u1c83'],
    ['\u0442', '\u1c84', '\u1c85'], ['\u044a', '\u1c86'], ['\u0463', '\u1c87'],
    ['\u1c88', '\ua64b'], ['\u1e61', '\u1e9b'], ['\ufb05', '\ufb06']]

/-- A character that stands for all that agree with `c` up to case. -/
def caselessKey (c : Char) : Char :=
  let lowered := lowerChar c
  match letterFamilies.find? (·.contains lowered) with
  | some (first :: _) => first
  | _ => lowered

/-- Whether two characters agree up to case. -/
def agreeCaseless (a b : Char) : Bool := caselessKey a == caselessKey b

end SheetFormulas.Text
