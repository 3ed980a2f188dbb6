import SheetFormulas.DateText.DayParts
import SheetFormulas.DateText.Word

/-!
What a date text says: the fields of a date and a time as far as they are written, read token by
token.
-/

namespace SheetFormulas.DateText

/-- The fields read so far. -/
structure Fields where
  parts : DayParts
  weekday : Option Nat
  hour : Option Nat
  minute : Option Nat
  second : Option Nat
  microsecond : Option Nat
  zone : Option Token
  /-- The distance from universal time in seconds. -/
  offset : Option Int
  /-- A sign that follows the name of a zone counts the other way round. -/
  signTurned : Bool

namespace Fields

def none : Fields :=
  ⟨.none, Option.none, Option.none, Option.none, Option.none, Option.none, Option.none, Option.none,
    false⟩

/-- Sets a time of day: the hour, and a second and microsecond if given. -/
def setMinute (f : Fields) (q : Quantity) : Reader Fields := do
  return { f with minute := some q.whole, second := ← q.sixtieths? }

def setSeconds (f : Fields) (token : Token) : Reader Fields := do
  let (second, microsecond) ← token.secondsOf
  return { f with second := some second, microsecond := some microsecond }

/-- An hour of the twelve-hour clock as one of the full day. -/
def fullHour (hour half : Nat) : Nat :=
  if hour < 12 ∧ half = 1 then hour + 12
  else if hour = 12 ∧ half = 0 then 0
  else hour

/-- A number with a unit: hours, minutes or seconds. -/
def setUnit (f : Fields) (token : Token) (q : Quantity) (unit : Nat) : Reader Fields := do
  match unit with
  | 0 =>
    let f := { f with hour := some q.whole }
    match ← q.sixtieths? with
    | some minute => return { f with minute := some minute }
    | Option.none => return f
  | 1 => f.setMinute q
  | 2 => f.setSeconds token
  | _ => return f

/-- The unit of a number, and how many tokens after the number it takes: the unit after it, with or
without a space, else the one that follows the unit before it. -/
def unitOf (before rest : List Token) : Option (Nat × Nat) :=
  match rest.head?.bind Token.unit? with
  | some unit => some (unit, 1)
  | Option.none =>
    match (if rest.head? = some [' '] then rest[1]?.bind Token.unit? else Option.none) with
    | some unit => some (unit, 2)
    | Option.none =>
      match before.head?.bind Token.unit? with
      | some unit => some (unit + 1, 0)
      | Option.none =>
        if rest.isEmpty ∧ before.head? = some [' '] then
          (before[1]?.bind Token.unit?).map fun unit => (unit + 1, 0)
        else Option.none

/-- Six digits, or six before a point: year, month and day of two digits each if nothing is known of
the date and there is no point, and hour, minute and second otherwise. -/
def readSix (f : Fields) (token : Token) : Reader Fields := do
  if f.parts.count = 0 ∧ !token.contains '.' then
    let parts ← f.parts.addToken (token.part 0 2)
    let parts ← parts.addToken (token.part 2 2)
    return { f with parts := ← parts.addToken (token.after 4) }
  else
    let hour ← (token.part 0 2).int
    let minute ← (token.part 2 2).int
    { f with hour := some hour, minute := some minute }.setSeconds (token.after 4)

/-- Eight, twelve or fourteen characters: year, month and day, then hour, minute and second. -/
def readLong (f : Fields) (token : Token) : Reader Fields := do
  let parts ← f.parts.addYearToken (token.part 0 4)
  let parts ← parts.addToken (token.part 4 2)
  let f := { f with parts := ← parts.addToken (token.part 6 2) }
  if token.length = 8 then return f
  else
    let hour ← (token.part 8 2).int
    let minute ← (token.part 10 2).int
    let f := { f with hour := some hour, minute := some minute }
    if token.length = 12 then return f
    else return { f with second := some (← (token.after 12).int) }

/-- A number before a colon: hour and minute, and the second after another colon. The count says how
many more tokens are taken. -/
def readClock (f : Fields) (q : Quantity) (rest : List Token) : Reader (Fields × Nat) := do
  let minute ← required (rest[1]?.bind Token.quantity?)
  let f ← { f with hour := some q.whole }.setMinute minute
  match rest[2]?, rest[3]? with
  | some [':'], some token => return (← f.setSeconds token, 4)
  | _, _ => return (f, 2)

def addMonthOrToken (parts : DayParts) (token : Token) : Reader DayParts :=
  match token.month? with
  | some month => parts.addMonth month
  | Option.none => parts.addToken token

/-- A number before a separator: two or three parts of a date with the same separator between. -/
def readSeparated (f : Fields) (token separator : Token) (rest : List Token) :
    Reader (Fields × Nat) := do
  let parts ← f.parts.addToken token
  match rest[1]? with
  | Option.none => return ({ f with parts }, 1)
  | some second =>
    if second.isFiller then return ({ f with parts }, 1)
    else
      let parts ←
        if second.isDigits then parts.addToken second
        else parts.addMonth (← required second.month?)
      if rest[2]? = some separator then
        let third ← required rest[3]?
        return ({ f with parts := ← addMonthOrToken parts third }, 4)
      else return ({ f with parts }, 2)

/-- Whether the next token makes a number of two or four digits something else than a time. -/
def isClockOrUnit (token : Token) : Bool := token.isChar ':' || token.unit?.isSome

def isSeparator (token : Token) : Bool :=
  token.isChar '-' || token.isChar '/' || token.isChar '.'

/-- A number that neither a unit, a colon nor a separator follows. -/
def readAlone (f : Fields) (q : Quantity) (rest : List Token) : Reader (Fields × Nat) := do
  if rest.head?.all Token.isFiller then
    match rest[1]?.bind Token.half? with
    | some half => return ({ f with hour := some (fullHour q.whole half) }, 2)
    | Option.none => return ({ f with parts := ← f.parts.addQuantity q }, 1)
  else
    match rest.head?.bind Token.half? with
    | some half =>
      if q.whole < 24 then return ({ f with hour := some (fullHour q.whole half) }, 1)
      else if f.parts.admitsDay q then return ({ f with parts := ← f.parts.addQuantity q }, 0)
      else notDate
    | Option.none =>
      if f.parts.admitsDay q then return ({ f with parts := ← f.parts.addQuantity q }, 0)
      else notDate

/-- Reads a number, with the tokens before it, nearest first, and after it. The count says how many
tokens after it are taken. -/
def readNumber (f : Fields) (before : List Token) (token : Token) (q : Quantity)
    (rest : List Token) : Reader (Fields × Nat) := do
  let length := token.length
  if f.parts.count = 3 ∧ (length = 2 ∨ length = 4) ∧ f.hour.isNone ∧
      !rest.head?.any isClockOrUnit then
    let f := { f with hour := some (← (token.part 0 2).int) }
    if length = 4 then return ({ f with minute := some (← (token.after 2).int) }, 0)
    else return (f, 0)
  else if length = 6 ∨ (6 < length ∧ token.idxOf '.' = 6) then
    return (← f.readSix token, 0)
  else if length = 8 ∨ length = 12 ∨ length = 14 then
    return (← f.readLong token, 0)
  else
    match unitOf before rest with
    | some (unit, taken) => return (← f.setUnit token q unit, taken)
    | Option.none =>
      if 2 ≤ rest.length ∧ rest.head? = some [':'] then f.readClock q rest
      else
        match rest.head? with
        | some next =>
          if isSeparator next then f.readSeparated token next rest else f.readAlone q rest
        | Option.none => f.readAlone q rest

/-- A year of two digits in the century around the current year: at most 50 years back and less than
50 years ahead. -/
def nearYear (currentYear year : Nat) : Int :=
  if year < 100 then
    let near := year + currentYear / 100 * 100
    if currentYear + 50 ≤ near then (near : Int) - 100
    else if near + 50 < currentYear then near + 100
    else near
  else year

/-- What follows the name of a month: a day or year after a separator, or a year after "of". -/
def readAfterMonth (currentYear : Nat) (parts : DayParts) (rest : List Token) :
    Reader (DayParts × Nat) := do
  match rest.head? with
  | Option.none => return (parts, 0)
  | some next =>
    if next.isChar '-' || next.isChar '/' then
      let parts ← parts.addToken (← required rest[1]?)
      if rest[2]? = some next then
        return (← parts.addToken (← required rest[3]?), 4)
      else return (parts, 2)
    else
      match rest with
      | [' '] :: word :: [' '] :: year :: _ =>
        if word.isOf then
          if year.isDigits then
            return (← parts.addNearYear (nearYear currentYear (← year.int)), 4)
          else return (parts, 4)
        else return (parts, 0)
      | _ => return (parts, 0)

/-- The distance from universal time after its sign: hours and minutes. The count says how many
tokens are taken. -/
def readOffset (rest : List Token) : Reader (Nat × Nat) := do
  let token ← required rest.head?
  if token.length = 4 then
    let hours ← (token.part 0 2).int
    let minutes ← (token.after 2).int
    return (hours * 3600 + minutes * 60, 1)
  else if rest[1]? = some [':'] then
    let hours ← token.int
    let minutes ← (← required rest[2]?).int
    return (hours * 3600 + minutes * 60, 3)
  else if token.length ≤ 2 then
    return ((← token.int) * 3600, 1)
  else notDate

def admitsZone (f : Fields) (token : Token) : Bool :=
  f.hour.isSome && f.zone.isNone && token.isZoneSpelling

/-- A sign and the distance from universal time, with the name of the zone in parentheses. -/
def readSign (f : Fields) (sign : Token) (rest : List Token) : Reader (Fields × Nat) := do
  let (seconds, taken) ← readOffset rest
  let ahead := sign.isChar '+' != f.signTurned
  let f := { f with offset := some (if ahead then seconds else -seconds), signTurned := false }
  match rest.drop taken with
  | gap :: ['('] :: name :: [')'] :: _ =>
    if gap.isFiller ∧ 3 ≤ name.length ∧ f.admitsZone name then
      return ({ f with zone := some name }, taken + 4)
    else return (f, taken)
  | _ => return (f, taken)

/-- The name of a zone, before a sign or not. -/
def readZone (f : Fields) (token : Token) (rest : List Token) : Fields :=
  if rest.head?.any (fun next => next.isChar '+' || next.isChar '-') then
    { f with
      zone := if token.isUniversal then Option.none else some token
      offset := Option.none
      signTurned := true }
  else { f with zone := some token, offset := if token = ['z'] then some 0 else Option.none }

/-- Reads one token, with the tokens before it, nearest first, and after it. -/
def readToken (currentYear : Nat) (f : Fields) (before : List Token) (token : Token)
    (rest : List Token) : Reader (Fields × Nat) := do
  match token.quantity? with
  | some q => f.readNumber before token q rest
  | Option.none =>
    if token.isNumberWord then notDate
    else
      match token.weekday?, token.month?, token.half? with
      | some weekday, _, _ => return ({ f with weekday := some weekday }, 0)
      | _, some month, _ =>
        let (parts, taken) ← readAfterMonth currentYear (← f.parts.addMonth month) rest
        return ({ f with parts }, taken)
      | _, _, some half =>
        let hour ← required f.hour
        if hour ≤ 12 then return ({ f with hour := some (fullHour hour half) }, 0) else notDate
      | _, _, _ =>
        if f.offset.isNone && f.admitsZone token then return (f.readZone token rest, 0)
        else if f.hour.isSome && (token.isChar '+' || token.isChar '-') then f.readSign token rest
        else if token.isFiller then return (f, 0)
        else notDate

def readTokens (currentYear : Nat) (f : Fields) (before : List Token) :
    List Token → Reader Fields
  | [] => .ok f
  | token :: rest => do
    let (f, taken) ← f.readToken currentYear before token rest
    readTokens currentYear f ((rest.take taken).reverse ++ token :: before) (rest.drop taken)
termination_by tokens => tokens.length
decreasing_by
  rw [List.length_drop, List.length_cons]
  omega

end Fields

end SheetFormulas.DateText
