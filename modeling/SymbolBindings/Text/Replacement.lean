import SymbolBindings.Text.Utf8

/-!
Showing octets that need not be text. A character shows as itself, and each ill-formed sequence as
U+FFFD: the longest start of a character that goes no further, or an octet that starts none.
-/

namespace SymbolBindings.Text

def replacement : Char := '\uFFFD'

/-- How many octets a character with this first octet has. -/
def width (first : UInt8) : Nat :=
  if first < 0xC2 then 1
  else if first < 0xE0 then 2
  else if first < 0xF0 then 3
  else if first < 0xF5 then 4
  else 1

/-- Whether these two octets can start a character. What could have been written with fewer octets,
surrogates and codes beyond the last are excluded. -/
def starts (first second : UInt8) : Bool :=
  2 ≤ width first && continues second &&
    (first != 0xE0 || 0xA0 ≤ second) && (first != 0xED || second < 0xA0) &&
    (first != 0xF0 || 0x90 ≤ second) && (first != 0xF4 || second < 0x90)

/-- How many octets from the first one on are shown together. -/
def extent (first : UInt8) : List UInt8 → Nat
  | [] => 1
  | second :: rest =>
    if starts first second then 2 + ((rest.take (width first - 2)).takeWhile continues).length
    else 1

/-- The one character of the octets, or the replacement. -/
def characterOrReplacement (octets : List UInt8) : Char :=
  match decodeFrom 0 octets with
  | .ok [character] => character
  | _ => replacement

/-- Shows the octets after the first `passed`, which were shown before. -/
def showFrom : (passed : Nat) → List UInt8 → List Char
  | _, [] => []
  | passed + 1, _ :: rest => showFrom passed rest
  | 0, first :: rest =>
    characterOrReplacement ((first :: rest).take (extent first rest)) ::
      showFrom (extent first rest - 1) rest

/-- The octets as a text, whatever they are. -/
def shown (octets : List UInt8) : String :=
  String.ofList (showFrom 0 octets)

example : shown [0x63, 0xC3, 0xA9, 0xE9] = "cé\uFFFD" := by decide

/-- Of a character that is broken off, one replacement is left, and of a surrogate one for each
octet. -/
example : shown [0xF0, 0x90, 0x80, 0x2F, 0xED, 0xA0, 0x80] = "\uFFFD/\uFFFD\uFFFD\uFFFD" := by
  decide

end SymbolBindings.Text
