/-!
Diagnostics: a message for the reader of a terminal, with the place it is about, context lines and
numbered suggestions. The order in which parts of different sorts are added leaves no trace.
-/

namespace SymbolBindings

structure Diagnostic where
  message : String
  /-- The path that the message is about, as the text it is shown as. Octets of a path that are no
  text are replaced before it becomes a part of a diagnostic. -/
  location : Option String
  context : List String
  suggestions : List String
  deriving DecidableEq, Repr

namespace Diagnostic

def ofMessage (message : String) : Diagnostic :=
  ⟨message, none, [], []⟩

def withContext (diagnostic : Diagnostic) (line : String) : Diagnostic :=
  { diagnostic with context := diagnostic.context ++ [line] }

def withSuggestion (diagnostic : Diagnostic) (suggestion : String) : Diagnostic :=
  { diagnostic with suggestions := diagnostic.suggestions ++ [suggestion] }

/-- A later location replaces an earlier one. -/
def withLocation (diagnostic : Diagnostic) (path : String) : Diagnostic :=
  { diagnostic with location := some path }

/-! ## Layout -/

/-- A heading word, in bold `colour` when the terminal shows colours. -/
def heading (coloured : Bool) (colour word : String) : String :=
  if coloured then "\x1b[1;" ++ colour ++ "m" ++ word ++ "\x1b[0m" else word

/-- The suggestions as a list numbered from `number`. -/
def numbered (number : Nat) : List String → String
  | [] => ""
  | suggestion :: rest =>
    "  " ++ toString number ++ ". " ++ suggestion ++ "\n" ++ numbered (number + 1) rest

def locationLine : Option String → String
  | none => ""
  | some path => "  --> " ++ path ++ "\n"

def contextLines (context : List String) : String :=
  String.join (context.map fun line => "  = " ++ line ++ "\n")

/-- Without suggestions there is neither a blank line nor a heading. -/
def suggestionBlock (coloured : Bool) : List String → String
  | [] => ""
  | suggestions =>
    "\n" ++ heading coloured "32" "help" ++ ": consider:\n" ++ numbered 1 suggestions

def render (coloured : Bool) (diagnostic : Diagnostic) : String :=
  heading coloured "31" "error" ++ ": " ++ diagnostic.message ++ "\n" ++
    locationLine diagnostic.location ++ contextLines diagnostic.context ++
    suggestionBlock coloured diagnostic.suggestions

example :
    (((ofMessage "bad row").withContext "at line 2").withSuggestion "mend it").render false =
      "error: bad row\n  = at line 2\n\nhelp: consider:\n  1. mend it\n" := by decide

end Diagnostic

end SymbolBindings
