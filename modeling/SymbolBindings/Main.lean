import SymbolBindings.Session.Run

/-!
The program itself, on the system it is started on. Programs cannot be started from here, so that
examples are built only up to the first command.
-/

namespace SymbolBindings.Main

/-- The fault behind an error of the system. -/
def faultOf : IO.Error → SystemFault
  | .noFileOrDirectory _ _ _ => .notFound
  | .permissionDenied _ _ _ => .permissionDenied
  | .inappropriateType _ code _ => if code = 20 then .notDirectory else .isDirectory
  | .resourceExhausted _ code details => if code = 28 then .noSpace else .described details
  | .invalidArgument _ code details => if code = 36 then .nameTooLong else .described details
  | error => .described (toString error)

def guarded (operation : IO α) : IO (Except SystemFault α) :=
  tryCatch (Except.ok <$> operation) fun error => return .error (faultOf error)

/-- Whether a path leads to a file and not to a directory. -/
def isFile (path : String) : IO Bool := do
  match ← guarded (IO.FS.readBinFile path) with
  | .ok _ => return true
  | .error _ => return false

def isPresent (path : String) : IO Bool := do
  match ← guarded (IO.FS.readBinFile path) with
  | .ok _ => return true
  | .error fault => return fault != .notFound && fault != .notDirectory

/-- Opens a file and reads it. A directory can be opened, but not read. -/
def openFile (path : String) : IO (Except SystemFault Source) := do
  match ← guarded (IO.FS.readBinFile path) with
  | .ok octets => return .ok (.ofOctets octets.data.toList)
  | .error .isDirectory => return .ok ⟨[], some .isDirectory⟩
  | .error fault => return .error fault

def createFile (path : String) : IO (Except SystemFault Unit) :=
  guarded (IO.FS.writeBinFile path ByteArray.empty)

def extendFile (path : String) (octets : List UInt8) : IO (Except SystemFault Unit) :=
  guarded do
    let handle ← IO.FS.Handle.mk path .append
    handle.write octets.toByteArray

def system : System IO where
  currentDirectory := guarded do return toString (← IO.currentDir)
  environment := fun name => IO.getEnv name
  accountHome := return none
  isPresent := isPresent
  isExecutable := isFile
  openFile := openFile
  createFile := createFile
  extendFile := extendFile
  print octets := do (← IO.getStdout).write octets.toByteArray
  tell text := do (← IO.getStderr).putStr text
  launch _ := return .error (.described "programs cannot be started from here")

end SymbolBindings.Main

def main (words : List String) : IO UInt32 := do
  let coloured ← (← IO.getStderr).isTty
  return UInt32.ofNat (← SymbolBindings.Main.system.run words coloured)
