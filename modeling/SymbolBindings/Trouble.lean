import SymbolBindings.Command.Basic
import SymbolBindings.Failure
import SymbolBindings.Text.Optional

/-!
Troubles: what ends a session before its work is done, as causes. Some come about because of
another, and the user is told both. Paths and commands are kept as they are shown.
-/

namespace SymbolBindings

inductive Trouble
  /-- No declarations could be made, or not all of them, from the table at `path`. -/
  | table (path : String) (failure : Failure)
  | settingsUnread (path : String) (fault : SystemFault)
  | settingsRefused (path : String)
  | noCurrentDirectory (fault : SystemFault)
  | outputRefused (path : String) (fault : SystemFault)
  | noWorkspace (path : String) (fault : SystemFault)
  | noBuildTool
  | notStarted (program : String) (fault : SystemFault)
  | endedBadly (command : String) (exit : Command.Exit)
  | notBuilt (unit : String) (cause : Trouble)
  | notCopied (artifact remote : String) (cause : Trouble)
  deriving DecidableEq, Repr

namespace Trouble

/-- What is told of a trouble, from the outermost cause to the innermost. -/
def causes : Trouble → List String
  | table path failure => ["failed to generate declarations from " ++ path, failure.message]
  | settingsUnread path fault => ["failed to read config file: " ++ path, fault.message]
  | settingsRefused path => ["failed to parse config file: " ++ path]
  | noCurrentDirectory fault => [fault.message]
  | outputRefused path fault => ["failed to create " ++ path, fault.message]
  | noWorkspace path fault => ["failed to resolve workspace " ++ path, fault.message]
  | noBuildTool => ["could not find `cargo` in PATH"]
  | notStarted program fault => ["failed to execute `" ++ program ++ "`", fault.message]
  | endedBadly command exit =>
    ["`" ++ command ++ "` failed with exit code " ++ Text.optionalNumber exit.code]
  | notBuilt unit cause => ("failed to build example `" ++ unit ++ "`") :: cause.causes
  | notCopied artifact remote cause =>
    ("failed to copy " ++ artifact ++ " to " ++ remote) :: cause.causes

def message (trouble : Trouble) : String :=
  String.intercalate ": " trouble.causes

/-- A failed table is diagnosed at its place, everything else by its causes alone. -/
def diagnose : Trouble → Diagnostic
  | table path failure => failure.diagnoseAt path
  | trouble => .ofMessage trouble.message

end Trouble

end SymbolBindings
