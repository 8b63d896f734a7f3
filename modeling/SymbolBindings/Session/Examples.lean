import SymbolBindings.CommandLine.Request
import SymbolBindings.Examples
import SymbolBindings.Session.Basic
import SymbolBindings.Settings.Basic
import SymbolBindings.Text.Utf8

/-!
Building examples in a session, with the build tool as a program of its own.
-/

namespace SymbolBindings

namespace Examples

/-- What the user is advised when building failed. -/
def advice : Log.Line :=
  Log.info "help: Run `symgen --verbose examples` for the full cargo command"

/-- Where an example ended up: on the device, or else where it was built. -/
def Built.report {σ α : Type} [PathText σ α] (built : Built σ) : String :=
  built.name ++ " -> " ++ built.installedTo.getD (PathText.shown built.artifact) ++ "\n"

end Examples

namespace Session

variable {m : Type → Type} [Monad m] {σ α : Type} [PathText σ α] [DecidableEq α]

/-- The absolute path of a workspace. Only a relative one depends on the current directory. -/
def absoluteWorkspace (session : Session m σ) (path : σ) : m (Except SystemFault σ) := do
  if PathText.isEmpty path ∨ PathName.isAbsolute path then
    return PathName.absolute (PathText.ofLetters []) path
  else return (← session.system.currentDirectory).bind fun current =>
    PathName.absolute current path

/-- A builder for the examples of a workspace. -/
def exampleBuilder (session : Session m σ) (tool workspace : σ) (package target : String) :
    Step m (ExampleBuilder σ) := do
  let workspace ←
    attempt (.noWorkspace (PathText.shown workspace)) (session.absoluteWorkspace workspace)
  return ⟨tool, workspace, package, target⟩

def buildExample (session : Session m σ) (builder : ExampleBuilder σ) (unit : String) :
    Step m σ := do
  ExceptT.adapt (.notBuilt unit) (session.runCommand (builder.command unit))
  return builder.artifact unit

def sendExample (session : Session m σ) (transfer : DeviceTransfer σ) (artifact : σ)
    (remote : String) : Step m Unit :=
  ExceptT.adapt (.notCopied (PathText.shown artifact) remote)
    (session.runCommand (transfer.command artifact remote))

/-- A transfer for the device, if examples are to be installed. -/
def deviceTransfer (session : Session m) (settings : ExampleSettings) :
    (install : Bool) → Step m (Option DeviceTransfer)
  | false => return none
  | true => return some ⟨← session.buildTool, settings.toolsDirectoryInUse⟩

def workshop (session : Session m σ) (builder : ExampleBuilder σ)
    (transfer : Option (DeviceTransfer σ)) : Examples.Workshop m Trouble σ :=
  { note := session.note
    build := session.buildExample builder
    send := transfer.map session.sendExample }

/-- Gives advice before trouble is passed on. -/
def advised {β : Type} (session : Session m) (step : Step m β) : Step m β :=
  tryCatch step fun trouble => do
    session.note Examples.advice
    throw trouble

def examples (session : Session m) (request : ExamplesRequest) (settings : ExampleSettings) :
    Step m Unit := do
  let names := if request.names.isEmpty then settings.namesInUse else request.names
  let tool ← session.buildTool
  let builder ← session.exampleBuilder tool request.workspace settings.packageInUse
    settings.targetInUse
  let transfer ← session.deviceTransfer settings request.install
  let built ← session.advised
    (Examples.buildAll (session.workshop builder transfer) settings.installDirectoryInUse names)
  session.system.print (Text.octets (String.join (built.map Examples.Built.report)))

end Session

end SymbolBindings
