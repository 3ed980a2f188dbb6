import SheetFormulas.Decimal.Shortest

/-!
Decimal texts of doubles. A layout says from which exponent on the scientific form is used, whether
zeros at the end are kept, and how the parts are spelled.
-/

namespace SheetFormulas.Decimal

/-- The decisions of one text form of numbers. -/
structure Layout where
  /-- Exponents from here on are written in scientific form. -/
  scientificFrom : Int
  /-- A whole number in positional form keeps a point and a zero. -/
  wholeMark : String
  /-- The mark before the exponent. -/
  exponentMark : String
  infinity : String
  notANumber : String

/-- Numbers as shown in messages: the fewest digits that read back. -/
def Layout.shown : Layout := ⟨16, ".0", "e", "inf", "nan"⟩

/-- Numbers as text in a cell: at most fifteen digits. -/
def Layout.general : Layout := ⟨15, "", "E", "INF", "NAN"⟩

/-- An exponent with its sign and at least two digits. -/
def exponentText (e : Int) : String :=
  let digits := Nat.toDigits 10 e.natAbs
  (if e < 0 then "-" else "+") ++
    String.ofList (List.replicate (2 - digits.length) '0' ++ digits)

/-- The first digit, a point, the other digits and the exponent; no point after a lone digit. -/
def scientificText (mark : String) (digits : List Char) (e : Int) : String :=
  match digits with
  | [] => ""
  | [d] => String.singleton d ++ mark ++ exponentText e
  | d :: rest => String.singleton d ++ "." ++ String.ofList rest ++ mark ++ exponentText e

/-- The digits with the point put where the exponent says. -/
def positionalText (wholeMark : String) (digits : List Char) (e : Int) : String :=
  if e < 0 then
    "0." ++ String.ofList (List.replicate ((-e).toNat - 1) '0' ++ digits)
  else
    let whole := e.toNat + 1
    let fraction := digits.drop whole
    let integer := digits.take whole ++ List.replicate (whole - digits.length) '0'
    if fraction.isEmpty then String.ofList integer ++ wholeMark
    else String.ofList integer ++ "." ++ String.ofList fraction

/-- Digits without zeros at the end, in positional form from `10⁻⁴` up to the layout's bound and in
scientific form elsewhere. -/
def Layout.write (layout : Layout) (s : Scientific) : String :=
  let digits := dropTrailingZeros (Nat.toDigits 10 s.digits)
  if s.exponent < -4 ∨ layout.scientificFrom ≤ s.exponent then
    scientificText layout.exponentMark digits s.exponent
  else positionalText layout.wholeMark digits s.exponent

/-- A double in a layout, with the digits chosen by `select` from a positive finite double. -/
def Layout.text (layout : Layout) (select : Float → Scientific) (x : Float) : String :=
  let sign := if Binary64.isNegative x then "-" else ""
  if x.isNaN then layout.notANumber
  else if x.isInf then sign ++ layout.infinity
  else if x == 0 then sign ++ layout.write ⟨0, 0⟩
  else sign ++ layout.write (select x)

/-- A double with the fewest digits that read back as the same double. -/
def shownText (x : Float) : String := Layout.shown.text shortest x

/-- A double with fifteen significant digits, less the zeros at the end. -/
def generalText (x : Float) : String :=
  Layout.general.text (fun x => significant 15 (Binary64.units x) Binary64.unitsPerOne) x

/-- Scientific form with exactly `count` digits, zeros kept. -/
def fixedText (count : Nat) (x : Float) : String :=
  let sign := if Binary64.isNegative x then "-" else ""
  if x.isNaN then "nan"
  else if x.isInf then sign ++ "inf"
  else
    let s := significant count (Binary64.units x) Binary64.unitsPerOne
    let digits := Nat.toDigits 10 s.digits
    sign ++ scientificText "e" (digits ++ List.replicate (count - digits.length) '0') s.exponent

end SheetFormulas.Decimal
