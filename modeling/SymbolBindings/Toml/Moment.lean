import SymbolBindings.Toml.Number

/-!
The dates and times of a TOML document. They are checked against the calendar and kept as they are
spelled.
-/

namespace SymbolBindings.Toml

/-- Two digits with a value between the bounds. -/
def twoDigits (least most : Nat) : Reader Nat
  | tens :: ones :: rest =>
    if tens.isDigit && ones.isDigit then
      let value := valueOf 10 [tens, ones]
      if least ≤ value ∧ value ≤ most then some (value, rest) else none
    else none
  | _ => none

def fourDigits : Reader Nat
  | a :: b :: c :: d :: rest =>
    if [a, b, c, d].all Char.isDigit then some (valueOf 10 [a, b, c, d], rest) else none
  | _ => none

/-- What follows an expected character. -/
def after (expected : Char) : List Char → Option (List Char)
  | character :: rest => if character = expected then some rest else none
  | [] => none

def isLeapYear (year : Nat) : Bool :=
  year % 4 == 0 && (year % 100 != 0 || year % 400 == 0)

def daysInMonth (year month : Nat) : Nat :=
  if month = 2 then (if isLeapYear year then 29 else 28)
  else if month = 4 ∨ month = 6 ∨ month = 9 ∨ month = 11 then 30
  else 31

/-- What follows a date. -/
def afterDate (text : List Char) : Option (List Char) := do
  let (year, rest) ← fourDigits text
  let (month, rest) ← twoDigits 1 12 (← after '-' rest)
  let (_, rest) ← twoDigits 1 (daysInMonth year month) (← after '-' rest)
  return rest

/-- What follows the digits of a second's fraction, if there are any. -/
def afterFraction : List Char → List Char
  | '.' :: digit :: rest =>
    if digit.isDigit then rest.dropWhile Char.isDigit else '.' :: digit :: rest
  | text => text

/-- What follows a time of day. The last minute may have a leap second. -/
def afterTime (text : List Char) : Option (List Char) := do
  let (_, rest) ← twoDigits 0 23 text
  let (_, rest) ← twoDigits 0 59 (← after ':' rest)
  let (_, rest) ← twoDigits 0 60 (← after ':' rest)
  return afterFraction rest

def afterClockOffset (text : List Char) : Option (List Char) := do
  let (_, rest) ← twoDigits 0 23 text
  let (_, rest) ← twoDigits 0 59 (← after ':' rest)
  return rest

/-- What follows an offset from universal time, if there is one. A sign has to begin one. -/
def afterOffset : List Char → Option (List Char)
  | 'Z' :: rest => some rest
  | 'z' :: rest => some rest
  | '+' :: rest => afterClockOffset rest
  | '-' :: rest => afterClockOffset rest
  | text => some text

def isTimeMark (character : Char) : Bool :=
  character == 'T' || character == 't' || character == ' '

/-- What follows the time that comes after a date, if one does. -/
def afterDatedTime : List Char → Option (List Char)
  | [] => some []
  | mark :: rest =>
    if isTimeMark mark then
      match afterTime rest with
      | some rest => afterOffset rest
      | none => some (mark :: rest)
    else some (mark :: rest)

def moment (text : List Char) : Option (Item × List Char) := do
  let rest ← ((afterDate text).bind afterDatedTime).or (afterTime text)
  return (.moment (spelling text rest), rest)

example : (moment "1979-05-27 07:32:00Z,".toList).map (·.2) = some [','] := by decide

example : (moment "2023-02-29".toList).isNone = true := by decide

end SymbolBindings.Toml
