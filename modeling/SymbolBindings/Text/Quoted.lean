import SymbolBindings.Text.Unseen

/-!
Quoted text for log lines: every character can be told from its neighbours, whatever it is.
-/

namespace SymbolBindings.Text

/-- How a character stands between quotes: with a backslash if it has a short escape, by its code
if it cannot be seen, and as it is otherwise. -/
def quotedCharacter (character : Char) : String :=
  if character = '\x00' then "\\0"
  else if character = '\t' then "\\t"
  else if character = '\r' then "\\r"
  else if character = '\n' then "\\n"
  else if character = '\\' then "\\\\"
  else if character = '"' then "\\\""
  else if isUnseen character then
    "\\u\x7b" ++ String.ofList (Nat.toDigits 16 character.toNat) ++ "\x7d"
  else character.toString

def quoted (text : String) : String :=
  "\"" ++ String.join (text.toList.map quotedCharacter) ++ "\""

/-- A list of quoted texts in brackets. -/
def quotedList (texts : List String) : String :=
  "[" ++ String.intercalate ", " (texts.map quoted) ++ "]"

example : quotedList ["a\"b", "\t"] = "[\"a\\\"b\", \"\\t\"]" := by decide

end SymbolBindings.Text
