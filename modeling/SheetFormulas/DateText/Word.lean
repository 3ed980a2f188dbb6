import SheetFormulas.DateText.Token
import SheetFormulas.Text.Lowercase

/-!
The words of date texts, in any letter case.
-/

namespace SheetFormulas.DateText

/-- The place of a word in a list of groups of words that mean the same. -/
def placeOf (groups : List (List String)) (token : Token) : Option Nat :=
  let word := String.ofList (Text.lower token)
  groups.findIdx? (·.contains word)

namespace Token

/-- The day of the week that a word names, Monday being zero. -/
def weekday? (token : Token) : Option Nat :=
  placeOf
    [["mon", "monday"], ["tue", "tuesday"], ["wed", "wednesday"], ["thu", "thursday"],
      ["fri", "friday"], ["sat", "saturday"], ["sun", "sunday"]] token

/-- The month that a word names, January being one. -/
def month? (token : Token) : Option Nat :=
  (placeOf
    [["jan", "january"], ["feb", "february"], ["mar", "march"], ["apr", "april"], ["may"],
      ["jun", "june"], ["jul", "july"], ["aug", "august"], ["sep", "sept", "september"],
      ["oct", "october"], ["nov", "november"], ["dec", "december"]] token).map (· + 1)

/-- The unit that a word names: hours zero, minutes one, seconds two. -/
def unit? (token : Token) : Option Nat :=
  placeOf [["h", "hour", "hours"], ["m", "minute", "minutes"], ["s", "second", "seconds"]] token

/-- The half of the day that a word names: before noon zero, after noon one. -/
def half? (token : Token) : Option Nat := placeOf [["am", "a"], ["pm", "p"]] token

/-- Whether a token says nothing by itself. -/
def isFiller (token : Token) : Bool :=
  (placeOf
    [[" ", ".", ",", ";", "-", "/", "\x27", "at", "on", "and", "ad", "m", "t", "of", "st", "nd",
      "rd", "th"]] token).isSome

/-- Whether a word ties a month to a year. -/
def isOf (token : Token) : Bool := (placeOf [["of"]] token).isSome

/-- Whether a word names the zone of universal time, in any letter case. -/
def isUniversal (token : Token) : Bool := (placeOf [["utc", "gmt", "z"]] token).isSome

/-- Whether a token is spelled like the name of a time zone. -/
def isZoneSpelling (token : Token) : Bool :=
  token.length ≤ 5 &&
    (token.all (fun c => 'A' ≤ c && c ≤ 'Z') || token == ['z'])

def isChar (c : Char) (token : Token) : Bool := token == [c]

end Token

end SheetFormulas.DateText
