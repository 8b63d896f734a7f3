import SymbolBindings.Log
import SymbolBindings.PathName
import SymbolBindings.System
import SymbolBindings.Trouble

/-!
Sessions: a system to work on and how much to tell. Everything a session does may end in trouble.
-/

namespace SymbolBindings

structure Session (m : Type → Type) (σ : Type := String) where
  system : System m σ
  /-- Whether debug lines are told, too. -/
  verbose : Bool

/-- A step of a session over `m`. -/
abbrev Step (m : Type → Type) := ExceptT Trouble m

namespace Session

variable {m : Type → Type} [Monad m] {σ α : Type} [PathText σ α] [DecidableEq α]

def note (session : Session m σ) (line : Log.Line) : m Unit :=
  if line.level.isShown session.verbose then session.system.tell line.render else return ()

def notes (session : Session m σ) (lines : List Log.Line) : m Unit :=
  lines.forM session.note

/-- What an operation of the system comes to, its fault explained by `explain`. -/
def attempt {β : Type} (explain : SystemFault → Trouble) (operation : m (Except SystemFault β)) :
    Step m β :=
  ExceptT.mk do return (← operation).mapError explain

/-! ## Commands -/

/-- How a command ends, whatever its code. -/
def status (session : Session m σ) (command : Command σ) : Step m Command.Exit :=
  attempt (.notStarted (PathText.shown command.program))
    (if command.hasZero then return .error .zeroInCommand else session.system.launch command)

/-- Runs a command that has to succeed. -/
def runCommand (session : Session m σ) (command : Command σ) : Step m Unit := do
  session.note (Log.debug ("Running `" ++ command.display ++ "`"))
  let exit ← session.status command
  if exit.isSuccess then return () else throw (.endedBadly command.display exit)

/-! ## The build tool -/

def buildToolName : String := "cargo"

/-- A place to look for programs. If its first part is a tilde, that stands for the home
directory. -/
def searchPlace (home : Option String) (place : String) : String :=
  match PathName.parts place, home with
  | "~" :: rest, some directory =>
    PathName.joinAll directory (rest.filter PathName.isStep)
  | _, _ => place

/-- Where the build tool may be. A relative place is meant from the directory `current`, and no
place at all means that directory itself. Only a path that starts with a tilde, for a home directory
can do so, too, stays as it is. -/
def candidate (current : String) (home : Option String) (place : String) : String :=
  let path := PathName.join (searchPlace home place) buildToolName
  if (PathName.parts path).head? = some "~" then path else PathName.seenFrom current path

/-- The candidates in the order in which their places are listed, with colons between them. -/
def candidates (current : String) (home : Option String) (places : String) : List String :=
  (places.toList.splitOn ':').map fun place => candidate current home (String.ofList place)

example : candidates "/work" (some "/home/me") "~/bin/:./tools:" =
    ["/home/me/bin/cargo", "/work/tools/cargo", "/work/cargo"] := rfl

/-- The first candidate that can be run. -/
def searchedTool (session : Session m) : m (Option String) := do
  match ← session.system.environment "PATH" with
  | none => return none
  | some places =>
    let current ← session.system.currentDirectory
    let home ← session.system.home
    (candidates (current.toOption.getD "") home places).findM? session.system.isExecutable

/-- The build tool that the environment asks for, if it is there. -/
def requestedTool (session : Session m) : m (Option String) := do
  match ← session.system.environment "CARGO" with
  | none => return none
  | some tool => return if ← session.system.isPresent tool then some tool else none

/-- The build tool: the requested one before any that a search finds. -/
def buildTool (session : Session m) : Step m String := do
  match ← session.requestedTool with
  | some tool => return tool
  | none =>
    match ← session.searchedTool with
    | some tool => return tool
    | none => throw .noBuildTool

end Session

end SymbolBindings
