import SheetFormulas.Text.Caseless
import SheetFormulas.Value.Basic

/-!
Wildcard patterns: `*` stands for any run of characters, `?` for one character, and `~` takes the
character after it literally. Letters match without regard to case, and a line end at the very end
of the text may stay unmatched.
-/

namespace SheetFormulas.Wildcard

/-- One part of a pattern. -/
inductive Part where
  | anyRun
  | anyChar
  | literal (c : Char)
  deriving DecidableEq

/-- The parts of a pattern. A `~` at the end stands for itself. -/
def parse : List Char → List Part
  | [] => []
  | ['~'] => [.literal '~']
  | '~' :: c :: rest => .literal c :: parse rest
  | '*' :: rest => .anyRun :: parse rest
  | '?' :: rest => .anyChar :: parse rest
  | c :: rest => .literal c :: parse rest

def Part.takes : Part → Char → Bool
  | anyRun, _ => false
  | anyChar, _ => true
  | literal c, d => Text.agreeCaseless c d

/-- The texts that match a pattern. -/
inductive Matches : List Part → List Char → Prop where
  | nil : Matches [] []
  | skip {parts text} : Matches parts text → Matches (.anyRun :: parts) text
  | more {parts text} (c : Char) :
      Matches (.anyRun :: parts) text → Matches (.anyRun :: parts) (c :: text)
  | one {part parts text} (c : Char) :
      part.takes c = true → Matches parts text → Matches (part :: parts) (c :: text)

/-- Which places between the parts are reached before any character is read; `here` says whether the
first one is. A run may be empty. -/
def start (here : Bool) : List Part → List Bool
  | [] => [here]
  | .anyRun :: parts => here :: start here parts
  | _ :: parts => here :: start false parts

/-- Which places are reached after one more character. The list says which were reached before;
`here` says whether the first place is reached now. -/
def advance (c : Char) (here : Bool) : List Part → List Bool → List Bool
  | .anyRun :: parts, reached :: rest =>
    let now := here || reached
    now :: advance c now parts rest
  | part :: parts, reached :: rest => here :: advance c (reached && part.takes c) parts rest
  | _, _ => [here]

/-- Whether a whole text matches a pattern. -/
def matchesAll (parts : List Part) (text : List Char) : Bool :=
  let reached := text.foldl (fun reached c => advance c false parts reached) (start true parts)
  reached.getLast?.getD false

/-- Whether a text matches a pattern, with or without a line end at its end. -/
def matchesText (pattern text : String) : Bool :=
  let parts := parse pattern.toList
  let chars := text.toList
  matchesAll parts chars ||
    (chars.getLast? == some '\n' && matchesAll parts chars.dropLast)

/-- Whether a value is a text that matches a pattern, which has to be a text then. -/
def matchesValue (pattern candidate : Value) : Outcome Bool :=
  match pattern, candidate with
  | .text pattern, .text s => .ok (matchesText pattern s)
  | _, .text _ => fail .arguments
  | _, _ => .ok false

/-- Whether a value is a text with a wildcard in it. -/
def hasWildcards : Value → Bool
  | .text s => s.toList.contains '*' || s.toList.contains '?'
  | _ => false

end SheetFormulas.Wildcard
