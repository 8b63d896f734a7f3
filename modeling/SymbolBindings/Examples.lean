import SymbolBindings.Command.Basic
import SymbolBindings.Log
import SymbolBindings.PathName

/-!
Examples: programs of a workspace that are built one by one and can be installed on the device.
-/

namespace SymbolBindings

open PathText (ofText shown)

/-- Builds examples of a package for a target. -/
structure ExampleBuilder (σ : Type := String) where
  tool : σ
  /-- The workspace's absolute path, so that what is built can be found from any directory. -/
  workspace : σ
  package : String
  target : String
  deriving DecidableEq, Repr

/-- Copies files to the device, with a program of the tools workspace. -/
structure DeviceTransfer (σ : Type := String) where
  tool : σ
  toolsDirectory : σ
  deriving DecidableEq, Repr

section Commands

variable {σ α : Type} [PathText σ α]

def ExampleBuilder.command (builder : ExampleBuilder σ) (unit : String) : Command σ :=
  ((Command.ofProgram builder.tool).withArguments
    ["build", "--package", builder.package, "--example", unit, "--all-features", "--release"]
    ).inDirectory builder.workspace

/-- Where the build tool leaves an example. -/
def ExampleBuilder.artifact [DecidableEq α] (builder : ExampleBuilder σ) (unit : String) : σ :=
  PathName.joinAll builder.workspace
    (["target", builder.target, "release", "examples", unit].map ofText)

def DeviceTransfer.command (transfer : DeviceTransfer σ) (artifact : σ) (remote : String) :
    Command σ :=
  ((((Command.ofProgram transfer.tool).withArguments
    ["run", "--release", "--bin", "storage", "--", "send"]
    ).withArguments [artifact]
    ).withArguments [remote]
    ).inDirectory transfer.toolsDirectory

end Commands

namespace Examples

/-- The path of an example on the device. Slashes at the end of the directory do not count. -/
def installPath (directory unit : String) : String :=
  PathName.withoutEndSlashes directory ++ "/" ++ unit ++ ".fap"

example : installPath "/ext/apps//" "gpio" = "/ext/apps/gpio.fap" := by decide

/-- An example that was built, and where it was installed if it was. -/
structure Built (σ : Type := String) where
  name : String
  artifact : σ
  installedTo : Option String
  deriving DecidableEq, Repr

/-- What building examples needs done: telling of progress, building an example, which gives the
path of what was built, and sending that path to the device. -/
structure Workshop (m : Type → Type) (ε : Type) (σ : Type := String) where
  note : Log.Line → m Unit
  build : (unit : String) → ExceptT ε m σ
  send : Option ((artifact : σ) → (remote : String) → ExceptT ε m Unit)

variable {m : Type → Type} [Monad m] {ε σ α : Type} [PathText σ α]

/-- Installs what was built, if the workshop can. -/
def install (workshop : Workshop m ε σ) (directory unit : String) (artifact : σ) :
    ExceptT ε m (Option String) :=
  match workshop.send with
  | none => return none
  | some send => do
    let remote := installPath directory unit
    workshop.note (Log.info ("Copying " ++ shown artifact ++ " to " ++ remote))
    send artifact remote
    return some remote

/-- Builds the units in order and installs each before the next is built. The first failure ends
it. -/
def buildAll (workshop : Workshop m ε σ) (directory : String) :
    List String → ExceptT ε m (List (Built σ))
  | [] => return []
  | unit :: rest => do
    workshop.note (Log.info ("Building " ++ unit))
    let artifact ← workshop.build unit
    let installedTo ← install workshop directory unit artifact
    let built ← buildAll workshop directory rest
    return ⟨unit, artifact, installedTo⟩ :: built

end Examples

end SymbolBindings
