/-!
What to do with a selected symbol that is neither a variable nor a function.
-/

namespace SymbolBindings

inductive Policy
  /-- Leave the row out and go on. -/
  | skip
  /-- End the run with a failure. -/
  | error
  deriving DecidableEq, Repr

namespace Policy

def text : Policy → String
  | skip => "skip"
  | error => "error"

/-- The lower case of a character, for the sake of words in ASCII letters: outside ASCII only the
Kelvin sign has an ASCII letter for its lower case, and the others may stay as they are. -/
def lowerCase (character : Char) : Char :=
  if character = '\u212a' then 'k' else character.toLower

/-- A word in any mixture of cases. -/
def ofWord (word : String) : Option Policy :=
  let lower := String.ofList (word.toList.map lowerCase)
  if lower = "skip" then some skip
  else if lower = "error" then some error
  else none

/-- What is said of a word that names no policy. -/
def refusal (word : String) : String :=
  "unknown entry policy: " ++ word ++ " (expected skip or error)"

example : ofWord "sKIP" = some skip := by decide

example : ofWord "skip " = none := by decide

end Policy

end SymbolBindings
