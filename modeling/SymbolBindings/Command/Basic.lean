import SymbolBindings.PathText

/-!
Commands: a program, the arguments it is given and the directory it is to work in. The program and
the directory are told as the system has them, but every argument is text.
-/

namespace SymbolBindings

open PathText (shown)

structure Command (σ : Type := String) where
  program : σ
  arguments : List String
  /-- Where the program works, if not in the current directory. -/
  directory : Option σ
  deriving DecidableEq, Repr

/-- How a program ended: with a code, or with none if a signal ended it. -/
structure Command.Exit where
  code : Option Nat
  deriving DecidableEq, Repr

def Command.Exit.isSuccess (exit : Exit) : Bool :=
  exit.code == some 0

namespace Command

variable {σ α τ β : Type} [PathText σ α] [PathText τ β]

def ofProgram (program : σ) : Command σ :=
  ⟨program, [], none⟩

/-- Further arguments, of which only what is well-formed is kept as it is. -/
def withArguments (command : Command σ) (arguments : List τ) : Command σ :=
  { command with arguments := command.arguments ++ arguments.map shown }

/-- A later directory replaces an earlier one. -/
def inDirectory (command : Command σ) (directory : σ) : Command σ :=
  { command with directory := some directory }

/-- The command as it is shown: its words with blanks between them, and no quotes. -/
def display (command : Command σ) : String :=
  String.intercalate " " (shown command.program :: command.arguments)

/-- Whether any of its words holds U+0000, with which no program can be started. -/
def hasZero [DecidableEq α] (command : Command σ) : Bool :=
  (command.program :: command.directory.toList).any PathText.hasZero ||
    command.arguments.any PathText.hasZero

example : ((ofProgram "cargo").withArguments ["build", ""]).display = "cargo build " := by decide

/-- An argument that is not text reaches the program as another one. -/
example :
    ((ofProgram "storage").withArguments [SystemText.mk [0x2F, 0xE9]]).arguments =
      ["/\uFFFD"] := by decide

end Command

end SymbolBindings
