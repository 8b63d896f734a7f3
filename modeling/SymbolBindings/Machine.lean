import SymbolBindings.FileTree
import SymbolBindings.Session.Run

/-!
Machines: a surrounding system as a value, on which sessions can be run and examined. Programs are
given by how they end; a machine records every call of one.
-/

namespace SymbolBindings

/-- A program that was started, where, and with which arguments. -/
structure Machine.Call (σ : Type := String) where
  program : Place σ
  directory : Place σ
  arguments : List String
  deriving DecidableEq, Repr

structure Machine (σ : Type := String) where
  files : FileTree σ
  current : Place σ
  environment : List (String × String)
  accountHome : Option String
  /-- How a call ends. -/
  respond : Machine.Call σ → Command.Exit
  /-- The calls so far, the latest first. -/
  calls : List (Machine.Call σ)
  /-- The octets printed so far. -/
  printed : List UInt8
  /-- What the user was told so far. -/
  told : String

namespace Machine

open PathText (letters ofLetters ofText slash isEmpty size)

variable {σ α : Type} [PathText σ α]

def pathOf (place : Place σ) : σ :=
  ofLetters (slash σ :: [slash σ].intercalate (place.map letters))

example : pathOf ["home", "me"] = "/home/me" := by decide

/-! ## Programs -/

variable [DecidableEq σ] [DecidableEq α]

/-- The program at a path, if it can be started. -/
def programAt (machine : Machine σ) (directory : Place σ) (path : σ) :
    Except SystemFault (Place σ) := do
  match ← machine.files.locate directory path with
  | (place, .file _ true) => .ok place
  | _ => .error .permissionDenied

/-- Whether a search for a program goes on after this fault. -/
def isPassedOver (fault : SystemFault) : Bool :=
  fault == .notFound || fault == .notDirectory || fault == .permissionDenied

/-- Tries the paths in order. Of the faults it passes over it tells the last one, or that a program
is there but cannot be started. -/
def firstProgram (machine : Machine σ) (directory : Place σ) (told : SystemFault) :
    List σ → Except SystemFault (Place σ)
  | [] => .error told
  | path :: rest =>
    match machine.programAt directory path with
    | .ok place => .ok place
    | .error fault =>
      if ¬ isPassedOver fault then .error fault
      else if told = .permissionDenied then machine.firstProgram directory told rest
      else machine.firstProgram directory fault rest

/-- The path of a program in a listed place. No place at all means the current directory. -/
def pathIn (place name : σ) : σ :=
  if isEmpty place then name else place ++ ofLetters [slash σ] ++ name

/-- The paths of a program in the listed places. A place that is too long for a path is taken for
no place at all, or is left out if it is the last. -/
def pathsIn (name : σ) : List σ → List σ
  | [] => []
  | [place] => if size place > FileTree.longestPath then [] else [pathIn place name]
  | place :: rest =>
    pathIn (if size place > FileTree.longestPath then ofLetters [] else place) name ::
      pathsIn name rest

/-- A name without slashes is searched for in the places the environment lists. -/
def searchPaths (machine : Machine σ) (name : σ) : List σ :=
  let places := (machine.environment.lookup "PATH").getD "/bin:/usr/bin"
  pathsIn name ((places.toList.splitOn ':').map fun place => ofText (String.ofList place))

def program (machine : Machine σ) (directory : Place σ) (path : σ) :
    Except SystemFault (Place σ) :=
  if (letters path).contains (slash σ) then machine.programAt directory path
  else if isEmpty path then .error .notFound
  else machine.firstProgram directory .notFound (machine.searchPaths path)

/-- The directory a command works in. Paths of programs are meant from there. -/
def workingDirectory (machine : Machine σ) : Option σ → Except SystemFault (Place σ)
  | none => .ok machine.current
  | some path => do
    match ← machine.files.locate machine.current path with
    | (place, .directory) => .ok place
    | _ => .error .notDirectory

/-- The most octets one argument of a command can have. -/
def longestArgument : Nat := 131071

/-- The call a command amounts to. The arguments are looked at after the program was found. -/
def call (machine : Machine σ) (command : Command σ) : Except SystemFault (Call σ) := do
  let directory ← machine.workingDirectory command.directory
  let program ← machine.program directory command.program
  if command.arguments.any (·.utf8ByteSize > longestArgument) then throw .argumentsTooLong
  return ⟨program, directory, command.arguments⟩

def launch (command : Command σ) (machine : Machine σ) :
    Except SystemFault Command.Exit × Machine σ :=
  match machine.call command with
  | .error fault => (.error fault, machine)
  | .ok call => (.ok (machine.respond call), { machine with calls := call :: machine.calls })

/-! ## Files -/

def isExecutable (machine : Machine σ) (path : σ) : Bool :=
  match machine.programAt machine.current path with
  | .ok _ => true
  | .error _ => false

def isPresent (machine : Machine σ) (path : σ) : Bool :=
  match machine.files.locate machine.current path with
  | .ok _ => true
  | .error _ => false

def print (octets : List UInt8) (machine : Machine σ) : Machine σ :=
  { machine with printed := machine.printed ++ octets }

def tell (text : String) (machine : Machine σ) : Machine σ :=
  { machine with told := machine.told ++ text }

def createFile (path : σ) (machine : Machine σ) : Except SystemFault Unit × Machine σ :=
  match machine.files.createFile machine.current path with
  | .error fault => (.error fault, machine)
  | .ok files => (.ok (), { machine with files })

def extendFile (path : σ) (octets : List UInt8) (machine : Machine σ) :
    Except SystemFault Unit × Machine σ :=
  match machine.files.extendFile machine.current path octets with
  | .error fault => (.error fault, machine)
  | .ok files =>
    let extended := { machine with files }
    match files.deviceAt machine.current path with
    | some .prints => (.ok (), extended.print octets)
    | some .tells => (.ok (), extended.tell ((Text.decode octets).toOption.getD ""))
    | _ => (.ok (), extended)

/-! ## The system -/

/-- A machine as the surrounding system of a session. -/
def system : System (StateM (Machine σ)) σ where
  currentDirectory := fun machine => (.ok (pathOf machine.current), machine)
  environment name := fun machine => (machine.environment.lookup name, machine)
  accountHome := fun machine => (machine.accountHome, machine)
  isPresent path := fun machine => (machine.isPresent path, machine)
  isExecutable path := fun machine => (machine.isExecutable path, machine)
  openFile path := fun machine => (machine.files.openFile machine.current path, machine)
  createFile := createFile
  extendFile := extendFile
  print octets := fun machine => ((), machine.print octets)
  tell text := fun machine => ((), machine.tell text)
  launch := launch

/-- The machine after it ran the program, and the exit code. -/
def run (machine : Machine) (words : List String) : Nat × Machine :=
  (system.run words false) machine

end Machine

end SymbolBindings
