import SymbolBindings.PathName
import SymbolBindings.Symbol.Table

/-!
File trees: directories and files by the names on the way to them. Operations on a tree take path
names and meet the faults that a file system would report.
-/

namespace SymbolBindings

/-- The names on the way from the root. -/
abbrev Place (σ : Type := String) := List σ

/-- What becomes of the octets written to a device. None can be read from it. -/
inductive FileTree.Device
  | discards
  /-- It has no space for a single octet. -/
  | full
  /-- It is another way to the stream of results. -/
  | prints
  /-- It is another way to the stream of messages. -/
  | tells
  deriving DecidableEq, Repr

inductive FileTree.Node
  | directory
  | file (octets : List UInt8) (executable : Bool)
  | device (device : FileTree.Device)
  deriving DecidableEq, Repr

/-- What there is at each place. The root is always a directory. -/
structure FileTree (σ : Type := String) where
  nodes : List (Place σ × FileTree.Node)
  deriving Repr

namespace FileTree

open PathText (hasZero isEmpty size)

variable {σ α : Type} [DecidableEq σ]

def empty : FileTree σ :=
  ⟨[]⟩

def find (tree : FileTree σ) (place : Place σ) : Option Node :=
  if place = [] then some .directory else tree.nodes.lookup place

/-- Puts a node at a place, whatever was there. -/
def put (tree : FileTree σ) (place : Place σ) (node : Node) : FileTree σ :=
  ⟨(place, node) :: tree.nodes.filter fun (other, _) => other != place⟩

theorem find_put (tree : FileTree σ) (place other : Place σ) (node : Node) (below : place ≠ []) :
    (tree.put place node).find other = if other = place then some node else tree.find other := by
  unfold find put
  by_cases same : other = place
  · subst same
    simp [below]
  · simp only [same, if_false]
    split
    · rfl
    · have differs : (other == place) = false := by simpa using same
      simp only [List.lookup_cons, differs]
      induction tree.nodes with
      | nil => rfl
      | cons first rest induction =>
        obtain ⟨next, found⟩ := first
        by_cases replaced : next = place
        · subst replaced
          simp [List.lookup_cons, differs, induction]
        · simp only [List.filter_cons, List.lookup_cons]
          simp [replaced, List.lookup_cons, induction]

/-! ## Paths -/

variable [PathText σ α] [DecidableEq α]

/-- The octets of the longest name that a directory can hold. -/
def longestName : Nat := 255

/-- The octets of the longest path. -/
def longestPath : Nat := 4095

/-- A name that a directory can hold. -/
def checkName (name : σ) : Except SystemFault Unit :=
  if size name > longestName then .error .nameTooLong else .ok ()

/-- Names are measured in octets, so that one of 128 letters can be too long. -/
example :
    (checkName (String.ofList (List.replicate 255 'e'))).isOk = true ∧
      (checkName (String.ofList (List.replicate 128 'é'))).isOk = false := by decide +kernel

/-- The place that the parts of a path lead to. Every part asks for a directory to start from, also
a part that leads nowhere. -/
def follow (tree : FileTree σ) : Place σ → List σ → Except SystemFault (Place σ)
  | place, [] => .ok place
  | place, part :: rest =>
    match tree.find place with
    | none => .error .notFound
    | some .directory =>
      if ¬ PathName.isStep part then tree.follow place rest
      else if PathName.isUpward part then tree.follow place.dropLast rest
      else do
        checkName part
        tree.follow (place ++ [part]) rest
    | some _ => .error .notDirectory

/-- Where a path starts. -/
def start (current : Place σ) (path : σ) : Place σ :=
  if PathName.isAbsolute path then [] else current

/-- A path that can be given to a file system at all. -/
def checkPath (path : σ) : Except SystemFault Unit :=
  if hasZero path then .error .zeroInName
  else if isEmpty path then .error .notFound
  else if size path > longestPath then .error .nameTooLong
  else .ok ()

/-- What a path leads to from the directory `current`. -/
def locate (tree : FileTree σ) (current : Place σ) (path : σ) :
    Except SystemFault (Place σ × Node) := do
  checkPath path
  let place ← tree.follow (start current path) (PathName.parts path)
  match tree.find place with
  | none => .error .notFound
  | some node => .ok (place, node)

/-! ## Reading and writing -/

/-- Directories can be opened, but not read. -/
def openFile (tree : FileTree σ) (current : Place σ) (path : σ) : Except SystemFault Source := do
  match ← tree.locate current path with
  | (_, .directory) => .ok ⟨[], some .isDirectory⟩
  | (_, .file octets _) => .ok (.ofOctets octets)
  | (_, .device _) => .ok (.ofOctets [])

/-- The place at which a file can be created. Its directory has to be there, and the path must not
end as one that leads to a directory does. -/
def placeToCreate (tree : FileTree σ) (current : Place σ) (path : σ) :
    Except SystemFault (Place σ) := do
  checkPath path
  let parts := PathName.parts (PathName.withoutEndSlashes path)
  let parent ← tree.follow (start current path) parts.dropLast
  let name := parts.getLastD (PathText.ofLetters [])
  match tree.find parent with
  | none => .error .notFound
  | some .directory =>
    if PathName.endsWithSlash path ∨ ¬ PathName.isStep name ∨ PathName.isUpward name then
      .error .isDirectory
    else do
      checkName name
      if tree.find (parent ++ [name]) = some .directory then .error .isDirectory
      else .ok (parent ++ [name])
  | some _ => .error .notDirectory

/-- Empties a file that is there, or creates it. -/
def createFile (tree : FileTree σ) (current : Place σ) (path : σ) :
    Except SystemFault (FileTree σ) := do
  let place ← tree.placeToCreate current path
  match tree.find place with
  | some (.file _ executable) => return tree.put place (.file [] executable)
  | some (.device _) => return tree
  | _ => return tree.put place (.file [] false)

/-- Adds octets at the end of a file. What is written to a device does not stay in the tree. -/
def extendFile (tree : FileTree σ) (current : Place σ) (path : σ) (octets : List UInt8) :
    Except SystemFault (FileTree σ) := do
  match ← tree.locate current path with
  | (_, .directory) => .error .isDirectory
  | (place, .file before executable) => return tree.put place (.file (before ++ octets) executable)
  | (_, .device .full) => if octets = [] then return tree else .error .noSpace
  | (_, .device _) => return tree

/-- The device that a path leads to. -/
def deviceAt (tree : FileTree σ) (current : Place σ) (path : σ) : Option Device :=
  match tree.locate current path with
  | .ok (_, .device device) => some device
  | _ => none

example :
    (do
      let tree ← (empty.put ["d"] .directory).createFile ["d"] "../d/./f"
      let tree ← tree.extendFile ["d"] "f" [0x61]
      tree.openFile [] "/d//f") =
      .ok (.ofOctets [0x61]) := by rfl

end FileTree

end SymbolBindings
