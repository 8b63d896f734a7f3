/-!
Blank characters and trimming. A character is blank when it has the Unicode property White_Space;
an octet is blank when it is one of the five blanks that field trimming knows before a field has
been decoded.
-/

namespace SymbolBindings.Text

/-- The code points with the property White_Space, as closed ranges in ascending order. -/
def blankRanges : List (Nat × Nat) :=
  [(0x9, 0xD), (0x20, 0x20), (0x85, 0x85), (0xA0, 0xA0), (0x1680, 0x1680), (0x2000, 0x200A),
   (0x2028, 0x2029), (0x202F, 0x202F), (0x205F, 0x205F), (0x3000, 0x3000)]

def isBlank (character : Char) : Bool :=
  blankRanges.any fun (first, last) => first ≤ character.toNat && character.toNat ≤ last

/-- Tab, line feed, form feed, carriage return and space. The vertical tab is not among them,
although the character is blank. -/
def isBlankOctet (octet : UInt8) : Bool :=
  octet == 0x20 || octet == 0x09 || octet == 0x0A || octet == 0x0C || octet == 0x0D

/-- Removes what `blank` holds of from both ends. -/
def trimBy (blank : α → Bool) (text : List α) : List α :=
  ((text.dropWhile blank).reverse.dropWhile blank).reverse

/-- Removes blank characters from both ends. -/
def trim (text : String) : String :=
  String.ofList (trimBy isBlank text.toList)

example : trim " \tconst char\n" = "const char" := by decide

example : trim "\u3000a\u00a0b\u2003" = "a\u00a0b" := by decide

/-- The ideographic space is blank and the zero-width space is not. -/
example : isBlank '\u3000' = true ∧ isBlank '\u200b' = false := by decide

end SymbolBindings.Text
