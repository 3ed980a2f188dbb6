import SheetFormulas.Number.Text
import SheetFormulas.Text.Quoted
import SheetFormulas.Value.Basic

/-!
Values as messages show them.
-/

namespace SheetFormulas.Value

mutual

/-- A value as a message shows it: texts in quotes, arrays in brackets. -/
def shown : Value → Outcome String
  | empty => .ok "None"
  | number n => n.shown
  | text s => .ok (Text.quoted s)
  | bool true => .ok "True"
  | bool false => .ok "False"
  | error kind => .ok ("ExcelError(" ++ kind.display ++ ")")
  | array items => do return "[" ++ String.intercalate ", " (← shownItems items) ++ "]"
  | deferred label _ => .ok ("<deferred " ++ label ++ ">")

/-- The items of an array as a message shows them. -/
def shownItems : List Value → Outcome (List String)
  | [] => .ok []
  | item :: rest => do
    let first ← shown item
    return first :: (← shownItems rest)

end

/-- The kind of a value; a deferred formula is refused. -/
def kind (v : Value) : Outcome Kind := do
  match v.kind? with
  | some kind => return kind
  | none => refuseCoercion (.unknownType (← v.shown))

end SheetFormulas.Value
