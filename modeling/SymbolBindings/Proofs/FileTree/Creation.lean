import Mathlib.Tactic
import SymbolBindings.FileTree

/-! # Creation

To create a file and to write to it changes no directory. Paths therefore lead where they led
before, and the files elsewhere are found as they were.
-/

namespace SymbolBindings

open PathText (letters ofLetters slash)

variable {σ α : Type} [PathText σ α] [DecidableEq α]

namespace PathName

theorem parts_ne_nil (path : σ) : parts path ≠ [] := by
  rw [parts, ne_eq, List.map_eq_nil_iff]
  exact List.splitOn_ne_nil _ _

theorem parts_eq (path : σ) :
    parts path = (parts path).dropLast ++ [(parts path).getLastD (ofLetters [])] := by
  rw [List.getLastD_eq_getLast?, List.getLast?_eq_some_getLast (parts_ne_nil path),
    Option.getD_some, List.dropLast_append_getLast]

theorem withoutEndSlashes_eq {path : σ} (plain : endsWithSlash path = false) :
    withoutEndSlashes path = path := by
  have kept : (letters path).reverse.dropWhile (· == slash σ) = (letters path).reverse := by
    rw [endsWithSlash, ← List.head?_reverse] at plain
    cases backwards : (letters path).reverse with
    | nil => rfl
    | cons last others =>
        rw [backwards, List.head?_cons] at plain
        rw [List.dropWhile_cons_of_neg]
        intro isSlash
        rw [eq_of_beq isSlash, beq_self_eq_true] at plain
        cases plain
  rw [withoutEndSlashes, kept, List.reverse_reverse, PathText.ofLetters_letters]

end PathName

namespace FileTree

variable [DecidableEq σ]

/-! ## Places -/

/-- The place a path leads to, whatever is there. -/
def placeOf (tree : FileTree σ) (current : Place σ) (path : σ) :
    Except SystemFault (Place σ) := do
  checkPath path
  tree.follow (start current path) (PathName.parts path)

def SameDirectories (tree other : FileTree σ) : Prop :=
  ∀ place, tree.find place = some .directory ↔ other.find place = some .directory

theorem SameDirectories.symm {tree other : FileTree σ} (same : SameDirectories tree other) :
    SameDirectories other tree :=
  fun place => (same place).symm

theorem follow_append (tree : FileTree σ) (place : Place σ) (front rest : List σ) :
    tree.follow place (front ++ rest) =
      (tree.follow place front).bind fun between => tree.follow between rest := by
  induction front generalizing place with
  | nil => rfl
  | cons part others induction =>
      rw [List.cons_append, follow, follow]
      cases tree.find place with
      | none => rfl
      | some node =>
          cases node with
          | directory =>
              simp only [induction]
              split
              · rfl
              · split
                · rfl
                · cases checkName part <;> rfl
          | file octets executable => rfl
          | device device => rfl

theorem SameDirectories.follow_eq_ok {tree other : FileTree σ} (same : SameDirectories tree other)
    {place target : Place σ} {parts : List σ} (found : tree.follow place parts = .ok target) :
    other.follow place parts = .ok target := by
  induction parts generalizing place with
  | nil => exact found
  | cons part rest induction =>
      rw [follow] at found ⊢
      split at found
      case h_1 => cases found
      case h_2 directory =>
        simp only [(same place).mp directory]
        split at found
        case isTrue stays =>
          rw [if_pos stays]
          exact induction found
        case isFalse moves =>
          rw [if_neg moves]
          split at found
          case isTrue up =>
            rw [if_pos up]
            exact induction found
          case isFalse down =>
            rw [if_neg down]
            cases checked : checkName part with
            | error fault =>
                rw [checked] at found
                cases found
            | ok =>
                rw [checked] at found
                exact induction found
      case h_3 => cases found

theorem SameDirectories.placeOf_eq_ok_iff {tree other : FileTree σ}
    (same : SameDirectories tree other) {current place : Place σ} {path : σ} :
    tree.placeOf current path = .ok place ↔ other.placeOf current path = .ok place := by
  unfold placeOf
  cases checkPath path with
  | error fault => rfl
  | ok => exact ⟨same.follow_eq_ok, same.symm.follow_eq_ok⟩

theorem locate_eq (tree : FileTree σ) (current : Place σ) (path : σ) :
    tree.locate current path =
      (tree.placeOf current path).bind fun place =>
        match tree.find place with
        | none => .error .notFound
        | some node => .ok (place, node) := by
  unfold locate placeOf
  cases checkPath path <;> rfl

theorem locate_of_placeOf {tree : FileTree σ} {current place : Place σ} {path : σ} {node : Node}
    (leads : tree.placeOf current path = .ok place) (found : tree.find place = some node) :
    tree.locate current path = .ok (place, node) := by
  rw [locate_eq, leads, Except.bind, found]

/-! ## Where a file is created -/

/-- What it takes for a file to be created: a directory that is there, a name it can hold, and no
directory of that name. -/
theorem placeToCreate_eq_ok {tree : FileTree σ} {current place : Place σ} {path : σ}
    (creatable : tree.placeToCreate current path = .ok place) :
    ∃ parent name, checkPath path = .ok () ∧
      tree.follow (start current path) (PathName.parts path).dropLast = .ok parent ∧
      (PathName.parts path).getLastD (ofLetters []) = name ∧
      tree.find parent = some .directory ∧ PathName.isStep name = true ∧
      ¬PathName.isUpward name = true ∧ checkName name = .ok () ∧
      tree.find place ≠ some .directory ∧ place = parent ++ [name] := by
  unfold placeToCreate at creatable
  cases checked : checkPath path with
  | error fault =>
      rw [checked] at creatable
      cases creatable
  | ok =>
      rw [checked] at creatable
      simp only [bind, Except.bind] at creatable
      split at creatable
      case h_1 => cases creatable
      case h_2 parent toParent =>
        split at creatable
        case h_1 => cases creatable
        case h_3 => cases creatable
        case h_2 directory =>
          split at creatable
          case isTrue => cases creatable
          case isFalse proper =>
            push Not at proper
            rcases proper with ⟨plain, step, down⟩
            rw [PathName.withoutEndSlashes_eq (by simpa using plain)] at *
            split at creatable
            case h_1 => cases creatable
            case h_2 fits =>
              split at creatable
              case isTrue => cases creatable
              case isFalse free =>
                cases creatable
                exact ⟨parent, _, rfl, toParent, rfl, directory, step, down, fits, free, rfl⟩

/-- A file is created where its path leads to, if no directory is there. -/
theorem placeOf_of_placeToCreate {tree : FileTree σ} {current place : Place σ} {path : σ}
    (creatable : tree.placeToCreate current path = .ok place) :
    tree.placeOf current path = .ok place ∧ tree.find place ≠ some .directory ∧ place ≠ [] := by
  rcases placeToCreate_eq_ok creatable with
    ⟨parent, name, checked, toParent, last, directory, step, down, fits, free, rfl⟩
  refine ⟨?_, free, by simp⟩
  rw [placeOf, checked]
  change tree.follow (start current path) (PathName.parts path) = _
  rw [PathName.parts_eq path, follow_append, toParent, last]
  change tree.follow parent [name] = _
  rw [follow, directory]
  simp only [step, not_true, if_false, down, fits]
  rfl

/-! ## Writing -/

/-- `after` is like `tree`, but for a file with these octets at a place. -/
def WithFile (tree : FileTree σ) (place : Place σ) (octets : List UInt8)
    (after : FileTree σ) : Prop :=
  ∃ executable, ∀ other,
    after.find other =
      if other = place then some (.file octets executable) else tree.find other

theorem withFile_put (tree : FileTree σ) {place : Place σ} (below : place ≠ []) (octets : List UInt8)
    (executable : Bool) :
    WithFile tree place octets (tree.put place (.file octets executable)) :=
  ⟨executable, fun other => find_put tree place other _ below⟩

section Creatable

variable {tree after : FileTree σ} {current place : Place σ} {path : σ} {octets : List UInt8}

theorem WithFile.find_place (filled : WithFile tree place octets after) :
    ∃ executable, after.find place = some (.file octets executable) := by
  rcases filled with ⟨executable, found⟩
  exact ⟨executable, (found place).trans (if_pos rfl)⟩

theorem WithFile.sameDirectories (filled : WithFile tree place octets after)
    (free : tree.find place ≠ some .directory) : SameDirectories tree after := by
  rcases filled with ⟨executable, found⟩
  intro other
  rw [found]
  split
  case isTrue same =>
    subst same
    simp [free]
  case isFalse => rfl

theorem WithFile.locate (filled : WithFile tree place octets after)
    (creatable : tree.placeToCreate current path = .ok place) :
    ∃ executable, after.locate current path = .ok (place, .file octets executable) := by
  rcases placeOf_of_placeToCreate creatable with ⟨leads, free, -⟩
  rcases filled.find_place with ⟨executable, found⟩
  have leadsAfter := (filled.sameDirectories free).placeOf_eq_ok_iff.mp leads
  exact ⟨executable, locate_of_placeOf leadsAfter found⟩

/-- What is written comes after what was there. -/
theorem WithFile.extendFile (filled : WithFile tree place octets after)
    (creatable : tree.placeToCreate current path = .ok place) (more : List UInt8) :
    ∃ extended, after.extendFile current path more = .ok extended ∧
      WithFile tree place (octets ++ more) extended := by
  rcases filled.locate creatable with ⟨executable, located⟩
  have below := (placeOf_of_placeToCreate creatable).2.2
  refine ⟨after.put place (.file (octets ++ more) executable), ?_, executable, fun other => ?_⟩
  · unfold FileTree.extendFile
    rw [located]
    rfl
  · rcases filled with ⟨_, found⟩
    rw [find_put _ _ _ _ below, found]
    split <;> rfl

/-- Creating a file empties it, and a device stays what it is. -/
theorem createFile_of_placeToCreate (creatable : tree.placeToCreate current path = .ok place) :
    (∃ device, tree.find place = some (.device device) ∧
        tree.createFile current path = .ok tree) ∨
      ((∀ device, tree.find place ≠ some (.device device)) ∧
        ∃ created, tree.createFile current path = .ok created ∧
          WithFile tree place [] created) := by
  rcases placeOf_of_placeToCreate creatable with ⟨-, free, below⟩
  unfold createFile
  rw [creatable]
  simp only [bind, Except.bind]
  cases found : tree.find place with
  | none => exact .inr ⟨by simp, _, rfl, withFile_put tree below [] false⟩
  | some node =>
      cases node with
      | directory => exact absurd found free
      | file before executable =>
          exact .inr ⟨by simp, _, rfl, withFile_put tree below [] executable⟩
      | device device => exact .inl ⟨device, rfl, rfl⟩

/-! ## Reading -/

theorem openFile_eq (tree : FileTree σ) (current : Place σ) (path : σ) :
    tree.openFile current path =
      (tree.placeOf current path).bind fun place =>
        match tree.find place with
        | none => .error .notFound
        | some .directory => .ok ⟨[], some .isDirectory⟩
        | some (.file octets _) => .ok (.ofOctets octets)
        | some (.device _) => .ok (.ofOctets []) := by
  rw [openFile, locate_eq]
  cases tree.placeOf current path with
  | error fault => rfl
  | ok place =>
      simp only [Except.bind, bind]
      rcases tree.find place with _ | _ | _ | _ <;> rfl

/-- What a path that does not lead to the file opens is what it opened without the file. If it opens
nothing, the fault may be another one. -/
theorem WithFile.openFile (filled : WithFile tree place octets after)
    (free : tree.find place ≠ some .directory) {other : σ}
    (elsewhere : tree.placeOf current other ≠ .ok place) :
    after.openFile current other = tree.openFile current other ∨
      (∃ fault, after.openFile current other = .error fault) ∧
        ∃ fault, tree.openFile current other = .error fault := by
  have same {target : Place σ} :
      tree.placeOf current other = .ok target ↔ after.placeOf current other = .ok target :=
    (filled.sameDirectories free).placeOf_eq_ok_iff
  rw [openFile_eq, openFile_eq]
  cases leads : tree.placeOf current other with
  | error fault =>
      cases leadsAfter : after.placeOf current other with
      | error faultAfter => exact .inr ⟨⟨faultAfter, rfl⟩, ⟨fault, rfl⟩⟩
      | ok target =>
          rw [same.mpr leadsAfter] at leads
          cases leads
  | ok target =>
      rcases filled with ⟨executable, found⟩
      have apart : target ≠ place := fun equal => elsewhere (equal ▸ leads)
      rw [same.mp leads, Except.bind, Except.bind, found, if_neg apart]
      exact .inl rfl

end Creatable

end FileTree

end SymbolBindings
