import SymbolBindings.Toml.Item
import SymbolBindings.Toml.Text

/-!
The numbers of a TOML document. Integers fit 64 bits with a sign. A number with a fraction or an
exponent must not be so large that the nearest double is infinity, unless it is negative.
-/

namespace SymbolBindings.Toml

/-! ## Digits -/

/-- More digits of a run. An underscore stands between two digits, never at the end. -/
def moreDigits (isDigit : Char → Bool) : Reader (List Char)
  | '_' :: digit :: rest =>
    if isDigit digit then put digit (moreDigits isDigit rest) else none
  | ['_'] => none
  | character :: rest =>
    if isDigit character then put character (moreDigits isDigit rest)
    else some ([], character :: rest)
  | [] => some ([], [])

/-- A run of digits, without its underscores. -/
def digits (isDigit : Char → Bool) : Reader (List Char)
  | character :: rest =>
    if isDigit character then put character (moreDigits isDigit rest) else none
  | [] => none

/-- The digits before a point or an exponent: a zero stands alone. -/
def wholeDigits : Reader (List Char)
  | '0' :: rest => some (['0'], rest)
  | text => digits Char.isDigit text

def valueOf (base : Nat) (digits : List Char) : Nat :=
  digits.foldl (fun value digit => base * value + (hexValue digit).getD 0) 0

/-! ## Integers -/

/-- Integers fit 64 bits with their sign. -/
def integerItem (value : Int) : Option Item :=
  if -9223372036854775808 ≤ value ∧ value ≤ 9223372036854775807 then some (.integer value) else none

def isOctal (character : Char) : Bool :=
  '0' ≤ character && character ≤ '7'

def isBinary (character : Char) : Bool :=
  character == '0' || character == '1'

def basedInteger (base : Nat) (isDigit : Char → Bool) (text : List Char) :
    Option (Item × List Char) := do
  let (found, rest) ← digits isDigit text
  let item ← integerItem (valueOf base found)
  return (item, rest)

/-! ## Fractions and exponents -/

/-- From this value on the nearest double is infinity: half a unit above the largest one. -/
def overflowBound : Nat := Nat.pow 2 1024 - Nat.pow 2 970

/-- Whether `value * 10 ^ exponent`, where `value` has `length` digits, reaches the bound. Numbers
with far fewer or far more digits than the bound are told apart by length alone. -/
def overflows (value length : Nat) (exponent : Int) : Bool :=
  if value = 0 then false
  else if (length : Int) + exponent < 300 then false
  else if (length : Int) + exponent > 400 then true
  else if 0 ≤ exponent then overflowBound ≤ value * Nat.pow 10 exponent.toNat
  else overflowBound * Nat.pow 10 exponent.natAbs ≤ value

/-- The digits after a point, if there is one. -/
def fraction : Reader (Option (List Char))
  | '.' :: rest => (digits Char.isDigit rest).map fun (found, rest) => (some found, rest)
  | text => some (none, text)

def isExponentMark (character : Char) : Bool :=
  character == 'e' || character == 'E'

def signedDigits : Reader Int
  | '-' :: rest => (digits Char.isDigit rest).map fun (found, rest) => (-(valueOf 10 found), rest)
  | '+' :: rest => (digits Char.isDigit rest).map fun (found, rest) => (valueOf 10 found, rest)
  | text => (digits Char.isDigit text).map fun (found, rest) => (valueOf 10 found, rest)

/-- The exponent, if there is one. -/
def exponent : Reader (Option Int)
  | [] => some (none, [])
  | mark :: rest =>
    if isExponentMark mark then
      (signedDigits rest).map fun (value, rest) => (some value, rest)
    else some (none, mark :: rest)

/-- The characters of `text` before `rest`. -/
def spelling (text rest : List Char) : String :=
  String.ofList (text.take (text.length - rest.length))

/-- A decimal number, whose sign was read before. -/
def decimal (negative : Bool) (text : List Char) : Option (Item × List Char) := do
  let (whole, afterWhole) ← wholeDigits text
  let (fraction?, afterFraction) ← fraction afterWhole
  let (exponent?, rest) ← exponent afterFraction
  match fraction?, exponent? with
  | none, none => do
    let value : Int := valueOf 10 whole
    let item ← integerItem (if negative then -value else value)
    return (item, rest)
  | _, _ =>
    let places := fraction?.getD []
    let significant := (whole ++ places).dropWhile (· == '0')
    let overflow :=
      overflows (valueOf 10 significant) significant.length (exponent?.getD 0 - places.length)
    if overflow && !negative then none else some (.real (spelling text rest), rest)

/-- Infinity and the value that is no number are spelled out. -/
def unsigned (negative : Bool) : Reader Item
  | 'i' :: 'n' :: 'f' :: rest => some (.real "inf", rest)
  | 'n' :: 'a' :: 'n' :: rest => some (.real "nan", rest)
  | text => decimal negative text

/-- A number. Only decimal ones have a sign. -/
def number : Reader Item
  | '+' :: rest => unsigned false rest
  | '-' :: rest => unsigned true rest
  | '0' :: 'x' :: rest => basedInteger 16 (fun digit => (hexValue digit).isSome) rest
  | '0' :: 'o' :: rest => basedInteger 8 isOctal rest
  | '0' :: 'b' :: rest => basedInteger 2 isBinary rest
  | text => unsigned false text

end SymbolBindings.Toml
