import SymbolBindings.CommandLine.Reader
import SymbolBindings.Session.Examples
import SymbolBindings.Session.Generate
import SymbolBindings.Session.Settings

/-!
A whole session: from the words of a command line to an exit code. A command line that is refused
exits with 2, and trouble on the way with 1.
-/

namespace SymbolBindings

namespace Session

variable {m : Type → Type} [Monad m]

/-- The settings are read before anything else is done. -/
def perform (session : Session m) (invocation : Invocation) : Step m Unit := do
  let settings ← session.settings invocation.settings
  match invocation.task with
  | .generate request => session.generate request settings.generate
  | .examples request => session.examples request settings.examples
  | .completions _ => return ()

/-- Tells the user of trouble. -/
def report (session : Session m) (coloured : Bool) (trouble : Trouble) : m Unit :=
  session.system.tell (trouble.diagnose.render coloured)

end Session

namespace System

variable {m : Type → Type} [Monad m]

/-- Does what an invocation asks for and gives the exit code. -/
def invoke (system : System m) (invocation : Invocation) (coloured : Bool) : m Nat := do
  let session : Session m := ⟨system, invocation.verbose⟩
  match ← (session.perform invocation).run with
  | .ok () => return 0
  | .error trouble => do
    session.report (coloured && !invocation.plain) trouble
    return 1

def versionText : String :=
  "symgen 0.1.0\n"

/-- Runs the program on the words after its name and gives its exit code. Colours are used only
where the user's terminal shows them. -/
def run (system : System m) (words : List String) (coloured : Bool) : m Nat := do
  match CommandLine.read (← system.environment "SYMGEN_CONFIG") words with
  | .invocation invocation => system.invoke invocation coloured
  | .help => return 0
  | .version => do
    system.print (Text.octets versionText)
    return 0
  | .refused => return 2

end System

end SymbolBindings
