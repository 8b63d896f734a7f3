import SymbolBindings.Generate.Policy

/-!
What a command line can ask for.
-/

namespace SymbolBindings

/-- To generate declarations from a table. What is left open is left to the settings. -/
structure GenerateRequest where
  table : String
  leading : Option String
  strip : Bool
  policy : Option Policy
  /-- The file to write to, if not the printed result. -/
  output : Option String
  deriving DecidableEq, Repr

/-- To build examples. -/
structure ExamplesRequest where
  names : List String
  install : Bool
  workspace : String
  deriving DecidableEq, Repr

inductive Task
  | generate (request : GenerateRequest)
  | examples (request : ExamplesRequest)
  /-- To print completions for a shell. -/
  | completions (shell : String)
  deriving DecidableEq, Repr

structure Invocation where
  verbose : Bool
  /-- Whether colours are unwanted. -/
  plain : Bool
  /-- The only file to take settings from, if one is named. -/
  settings : Option String
  task : Task
  deriving DecidableEq, Repr

/-- What reading a command line comes to. -/
inductive Reading
  | invocation (invocation : Invocation)
  | help
  | version
  /-- The words make no command line. -/
  | refused
  deriving DecidableEq, Repr

end SymbolBindings
