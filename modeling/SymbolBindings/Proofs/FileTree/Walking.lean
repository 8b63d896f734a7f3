import SymbolBindings.Proofs.FileTree.Creation
import SymbolBindings.Proofs.PathName.Steps
import SymbolBindings.Proofs.Results

/-! # Walking

An absolute path leads to the same place from every directory. A path that is continued leads where
its continuation leads from the place of its first part.
-/

namespace SymbolBindings.FileTree

open PathText (hasZero isEmpty letters ofLetters size slash)

variable {σ α : Type} [PathText σ α] [DecidableEq α]

theorem checkPath_eq_ok_iff {path : σ} :
    checkPath path = .ok () ↔
      hasZero path = false ∧ isEmpty path = false ∧ size path ≤ longestPath := by
  unfold checkPath
  split
  case isTrue zero => simp [zero]
  case isFalse zero =>
    split
    case isTrue empty => simp [empty]
    case isFalse nonempty =>
      split
      case isTrue long => simp [Nat.not_le.mpr long]
      case isFalse short =>
        simpa using ⟨by simpa using zero, by simpa using nonempty, Nat.not_lt.mp short⟩

/-- The end of a path can be given to a file system if the whole path can. -/
theorem checkPath_of_append {front rest : σ} (fits : checkPath (front ++ rest) = .ok ())
    (nonempty : isEmpty rest = false) : checkPath rest = .ok () := by
  rw [checkPath_eq_ok_iff, PathText.size_append] at fits
  rcases fits with ⟨zero, -, short⟩
  rw [hasZero, PathText.letters_append, List.contains_append, Bool.or_eq_false_iff] at zero
  exact checkPath_eq_ok_iff.mpr ⟨zero.2, nonempty, by omega⟩

variable [DecidableEq σ]

theorem locate_of_isAbsolute {path : σ} (absolute : PathName.isAbsolute path = true)
    (tree : FileTree σ) (here there : Place σ) :
    tree.locate here path = tree.locate there path := by
  simp only [locate, start, absolute, if_true]

/-- An empty part leads nowhere. -/
theorem eq_of_follow_empty {tree : FileTree σ} {between place : Place σ}
    (leads : tree.follow between [ofLetters []] = .ok place) : between = place := by
  rw [follow] at leads
  split at leads
  case h_1 => cases leads
  case h_2 =>
    rw [if_pos (by simp [PathName.isStep_empty]), follow] at leads
    exact Except.ok.inj leads
  case h_3 => cases leads

theorem follow_asDirectory_append {tree : FileTree σ} {begin place : Place σ} {path : σ}
    (nonempty : isEmpty path = false) (leads : tree.follow begin (PathName.parts path) = .ok place)
    (addition : σ) :
    tree.follow begin (PathName.parts (PathName.asDirectory path ++ addition)) =
      tree.follow place (PathName.parts addition) := by
  unfold PathName.asDirectory
  split
  case isFalse =>
    rw [PathName.parts_append_slash, follow_append, leads]
    rfl
  case isTrue closed =>
    rcases PathName.endsWithSlash_iff.mp (closed.resolve_left (by simp [nonempty])) with
      ⟨front, rfl⟩
    have ending := PathName.parts_append_slash front (ofLetters [])
    rw [PathText.append_empty, PathName.parts_empty] at ending
    rw [ending, follow_append] at leads
    rcases except_bind_eq_ok_iff.mp leads with ⟨between, led, stays⟩
    rw [PathName.parts_append_slash, follow_append, led, eq_of_follow_empty stays]
    rfl

theorem placeOf_eq_ok_iff {tree : FileTree σ} {here place : Place σ} {path : σ} :
    tree.placeOf here path = .ok place ↔
      checkPath path = .ok () ∧
        tree.follow (start here path) (PathName.parts path) = .ok place := by
  unfold placeOf
  cases checkPath path <;> simp [bind, Except.bind]

theorem placeOf_of_locate {tree : FileTree σ} {here place : Place σ} {path : σ} {node : Node}
    (found : tree.locate here path = .ok (place, node)) : tree.placeOf here path = .ok place := by
  rw [locate_eq] at found
  rcases except_bind_eq_ok_iff.mp found with ⟨between, leads, isThere⟩
  split at isThere
  case h_1 => cases isThere
  case h_2 =>
    cases isThere
    exact leads

/-- A continued path leads to what its continuation leads to from the place of its first part. -/
theorem locate_asDirectory_append {tree : FileTree σ} {here place : Place σ} {path addition : σ}
    (leads : tree.placeOf here path = .ok place)
    (fits : checkPath (PathName.asDirectory path ++ addition) = .ok ())
    (nonempty : isEmpty addition = false) (relative : PathName.isAbsolute addition = false) :
    tree.locate here (PathName.asDirectory path ++ addition) = tree.locate place addition := by
  rcases placeOf_eq_ok_iff.mp leads with ⟨checked, followed⟩
  have named : isEmpty path = false := (checkPath_eq_ok_iff.mp checked).2.1
  have begins : start here (PathName.asDirectory path ++ addition) = start here path := by
    rw [start, start, PathName.isAbsolute_asDirectory_append named]
  have stays : start place addition = place := by
    simp [start, relative]
  rw [locate_eq, locate_eq, placeOf, placeOf, fits, checkPath_of_append fits nonempty, begins,
    stays]
  exact congrArg (Except.bind · _) (follow_asDirectory_append named followed addition)

end SymbolBindings.FileTree
