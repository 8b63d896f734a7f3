import SymbolBindings.Command.Basic
import SymbolBindings.Symbol.Table

/-!
The surrounding system, as far as a session needs it: its files, its environment, its programs and
the two streams to the user. A session is written for any system whose operations run in some monad.
Names of files are texts of a type that the system chooses, and what the environment tells is text.
-/

namespace SymbolBindings

structure System (m : Type → Type) (σ : Type := String) where
  currentDirectory : m (Except SystemFault σ)
  /-- The value of a variable, if it is set. -/
  environment : (name : String) → m (Option String)
  /-- Where the user's account is at home, for when the environment does not tell. -/
  accountHome : m (Option String)
  isPresent : (path : σ) → m Bool
  /-- Whether there is a file that can be run as a program. -/
  isExecutable : (path : σ) → m Bool
  /-- Opens a file for reading. Directories can be opened, but not read. -/
  openFile : (path : σ) → m (Except SystemFault Source)
  /-- Leaves an empty file, whatever the file held before. -/
  createFile : (path : σ) → m (Except SystemFault Unit)
  /-- Adds octets at the end of a file that was created before. -/
  extendFile : (path : σ) → List UInt8 → m (Except SystemFault Unit)
  /-- Delivers octets as the session's result. -/
  print : List UInt8 → m Unit
  /-- Tells the user something on the side. -/
  tell : String → m Unit
  /-- Starts a command and waits for its end. -/
  launch : Command σ → m (Except SystemFault Command.Exit)

namespace System

variable {m : Type → Type} [Monad m] {σ : Type}

/-- The user's home directory. -/
def home (system : System m σ) : m (Option String) := do
  match ← system.environment "HOME" with
  | none => system.accountHome
  | some directory => if directory = "" then system.accountHome else return some directory

end System

end SymbolBindings
