/-!
Log lines: what a run tells about its progress on the side.
-/

namespace SymbolBindings

inductive Log.Level
  | debug
  | info
  | warning
  deriving DecidableEq, Repr

structure Log.Line where
  level : Log.Level
  message : String
  deriving DecidableEq, Repr

namespace Log

/-- The level right-aligned to five characters. -/
def Level.label : Level → String
  | debug => "DEBUG"
  | info => " INFO"
  | warning => " WARN"

/-- Debug lines are shown only on request. -/
def Level.isShown (verbose : Bool) : Level → Bool
  | debug => verbose
  | info => true
  | warning => true

def debug (message : String) : Line := ⟨.debug, message⟩

def info (message : String) : Line := ⟨.info, message⟩

def warning (message : String) : Line := ⟨.warning, message⟩

/-- The digits of a code point in lower-case hexadecimal. -/
def hexadecimal (number : Nat) : String :=
  String.ofList (Nat.toDigits 16 number)

/-- Characters a terminal would obey are shown by their codes: escape, bell, backspace, form feed,
delete and the control characters from U+0080 to U+009F. Line breaks and tabs stay. -/
def shown (character : Char) : String :=
  let code := character.toNat
  if code = 0x1B then "\\x1b"
  else if code = 0x07 then "\\x07"
  else if code = 0x08 then "\\x08"
  else if code = 0x0C then "\\x0c"
  else if code = 0x7F then "\\x7f"
  else if 0x80 ≤ code ∧ code ≤ 0x9F then "\\u\x7b" ++ hexadecimal code ++ "\x7d"
  else character.toString

def Line.render (line : Line) : String :=
  line.level.label ++ " " ++ String.join (line.message.toList.map shown) ++ "\n"

example : (info "Building gpio").render = " INFO Building gpio\n" := by decide

end Log

end SymbolBindings
