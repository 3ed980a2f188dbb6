import SheetFormulas.Numeral.Reader
import SheetFormulas.Text.Uppercase
import SheetFormulas.Value.Shown

/-!
Conversions between the types of values. Empty is zero, the empty text or false; truth values are
one and zero; text is read as a number or as a truth value; an error value is carried on.
-/

namespace SheetFormulas

/-- The number that a text stands for. A text that is no numeral is refused. -/
def numberOfText (convention : Numeral.Convention) (text : String) : Outcome Number :=
  match Numeral.read convention text.toList with
  | .ok number => .ok number
  | .error .tooManyPercents => fail .overflow
  | .error _ => refuseCoercion (.text text .number)

namespace Value

def toNumber : Value → Outcome Number
  | empty => .ok (.int 0)
  | bool b => .ok (.int b.toNat)
  | number n => if n.isNaN then refuseCoercion (.notANumber .number) else .ok n
  | text s => if s.isEmpty then .ok (.int 0) else numberOfText .cell s
  | error kind => refuse (.carried kind)
  | array _ => refuseCoercion (.array .number)
  | v@(deferred _ _) => do refuseCoercion (.other (← v.shown) .number)

/-- The value as a truth value. Only the words themselves, in any case, are read from text. -/
def toBool : Value → Outcome Bool
  | empty => .ok false
  | bool b => .ok b
  | number n => if n.isNaN then refuseCoercion (.notANumber .boolean) else .ok (!n.isZero)
  | text s =>
    let word := String.ofList (Text.upper s.toList)
    if word = "TRUE" then .ok true
    else if word = "FALSE" then .ok false
    else refuseCoercion (.text s .boolean)
  | error kind => refuse (.carried kind)
  | array _ => refuseCoercion (.array .boolean)
  | v@(deferred _ _) => do refuseCoercion (.other (← v.shown) .boolean)

def toText : Value → Outcome String
  | empty => .ok ""
  | bool b => .ok (if b then "TRUE" else "FALSE")
  | number n => if n.isNaN then refuseCoercion (.notANumber .number) else n.general
  | text s => .ok s
  | error kind => refuse (.carried kind)
  | array _ => refuseCoercion (.array .text)
  | v@(deferred _ _) => do refuseCoercion (.other (← v.shown) .text)

def toFinite (v : Value) : Outcome Number := do
  let n ← v.toNumber
  if ← n.isFinite then return n else refuse (.notFinite (← n.shown))

/-- The value as a whole number, toward zero. -/
def toInt (v : Value) : Outcome Int := do return (← v.toFinite).truncate

/-- The value as a whole number, downward. -/
def toFloor (v : Value) : Outcome Int := do return (← v.toFinite).floor

/-- A refusal as the error value it stands for; failures stay. -/
def answer (outcome : Outcome Value) : Outcome Value :=
  match outcome with
  | .error (.refusal cause) => .ok (error cause.kind)
  | other => other

end Value

/-- The error value with this display text, in any letter case. -/
def ErrorKind.read (text : String) : Outcome ErrorKind :=
  match ErrorKind.ofDisplay? (String.ofList (Text.upper text.toList)) with
  | some kind => .ok kind
  | none => fail (.unreadable ("Unknown Excel error: " ++ text))

end SheetFormulas
