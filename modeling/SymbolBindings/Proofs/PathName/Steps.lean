import Mathlib.Data.List.TakeWhile
import Mathlib.Tactic
import SymbolBindings.PathName

/-! # Steps of a path

A path is walked step by step. To join a relative path to another is to walk it after the other, and
a path becomes absolute by being walked from the current directory on. What was absolute stays so,
whatever is joined to it.
-/

namespace SymbolBindings

open PathText (letters ofLetters slash isEmpty)

variable {σ α : Type} [PathText σ α]

namespace PathText

theorem letters_injective : Function.Injective (letters : σ → List α) := by
  intro first second same
  rw [← ofLetters_letters first, same, ofLetters_letters]

theorem isEmpty_eq_false_iff {text : σ} : isEmpty text = false ↔ letters text ≠ [] := by
  rw [isEmpty, List.isEmpty_eq_false_iff]

theorem isEmpty_append (first second : σ) :
    isEmpty (first ++ second) = (isEmpty first && isEmpty second) := by
  rw [isEmpty, letters_append, isEmpty]
  cases letters first <;> rfl

theorem append_empty (text : σ) : text ++ ofLetters [] = text := by
  apply letters_injective
  rw [letters_append, letters_ofLetters, List.append_nil]

theorem append_assoc (first second third : σ) :
    first ++ second ++ third = first ++ (second ++ third) := by
  apply letters_injective
  simp only [letters_append, List.append_assoc]

end PathText

namespace PathName

variable [DecidableEq α]

/-- The parts that lead anywhere. -/
def steps (path : σ) : List σ :=
  (parts path).filter isStep

example : steps "./a//../b/" = ["a", "..", "b"] := rfl

theorem parts_empty : parts (ofLetters [] : σ) = [ofLetters []] := by
  rw [parts, PathText.letters_ofLetters, List.splitOn_nil]
  rfl

theorem isStep_empty : isStep (ofLetters [] : σ) = false := by
  rw [isStep, PathText.letters_ofLetters]
  rfl

@[simp] theorem steps_empty : steps (ofLetters [] : σ) = [] := by
  rw [steps, parts_empty, List.filter_cons_of_neg (by simp [isStep_empty]), List.filter_nil]

/-- A path as it is written before a relative one: with a slash at its end, unless it is empty. -/
def asDirectory (path : σ) : σ :=
  if isEmpty path ∨ endsWithSlash path then path else path ++ ofLetters [slash σ]

/-! ## Slashes -/

theorem parts_append_slash (front rest : σ) :
    parts (front ++ ofLetters [slash σ] ++ rest) = parts front ++ parts rest := by
  have whole : letters (front ++ ofLetters [slash σ] ++ rest) =
      letters front ++ slash σ :: letters rest := by simp
  rw [parts, whole, List.splitOn_append_cons_self, List.map_append]
  rfl

theorem steps_append_slash (front rest : σ) :
    steps (front ++ ofLetters [slash σ] ++ rest) = steps front ++ steps rest := by
  rw [steps, parts_append_slash, List.filter_append]
  rfl

theorem endsWithSlash_iff {path : σ} :
    endsWithSlash path = true ↔ ∃ front, path = front ++ ofLetters [slash σ] := by
  rw [endsWithSlash, beq_iff_eq, List.getLast?_eq_some_iff]
  constructor
  · intro ending
    rcases ending with ⟨front, split⟩
    refine ⟨ofLetters front, PathText.letters_injective ?_⟩
    rw [split, PathText.letters_append, PathText.letters_ofLetters, PathText.letters_ofLetters]
  · intro ending
    rcases ending with ⟨front, rfl⟩
    exact ⟨letters front, by simp⟩

theorem isAbsolute_iff {path : σ} :
    isAbsolute path = true ↔ ∃ rest, path = ofLetters [slash σ] ++ rest := by
  rw [isAbsolute, beq_iff_eq, List.head?_eq_some_iff]
  constructor
  · intro starting
    rcases starting with ⟨rest, split⟩
    refine ⟨ofLetters rest, PathText.letters_injective ?_⟩
    rw [split, PathText.letters_append, PathText.letters_ofLetters, PathText.letters_ofLetters,
      List.singleton_append]
  · intro starting
    rcases starting with ⟨rest, rfl⟩
    exact ⟨letters rest, by simp⟩

theorem endsWithSlash_append {rest : σ} (nonempty : isEmpty rest = false) (front : σ) :
    endsWithSlash (front ++ rest) = endsWithSlash rest := by
  rw [PathText.isEmpty_eq_false_iff] at nonempty
  rw [endsWithSlash, endsWithSlash, PathText.letters_append,
    List.getLast?_append_of_ne_nil _ nonempty]

theorem isEmpty_of_isAbsolute {path : σ} (absolute : isAbsolute path = true) :
    isEmpty path = false := by
  rw [PathText.isEmpty_eq_false_iff]
  intro empty
  rw [isAbsolute, empty] at absolute
  cases absolute

/-- How a path starts decides whether it is absolute. -/
theorem isAbsolute_append {front : σ} (nonempty : isEmpty front = false) (rest : σ) :
    isAbsolute (front ++ rest) = isAbsolute front := by
  rw [PathText.isEmpty_eq_false_iff] at nonempty
  rw [isAbsolute, isAbsolute, PathText.letters_append, List.head?_append_of_ne_nil _ nonempty]

theorem notMem_of_mem_splitOn {stop : α} {items piece : List α}
    (member : piece ∈ items.splitOn stop) : stop ∉ piece := by
  induction items generalizing piece with
  | nil =>
      rw [List.mem_singleton.mp member]
      exact List.not_mem_nil
  | cons item rest induction =>
      rw [List.splitOn_cons_eq_if_modifyHead] at member
      split at member
      case isTrue =>
        rcases List.mem_cons.mp member with rfl | later
        · exact List.not_mem_nil
        · exact induction later
      case isFalse apart =>
        -- The item belongs to the first piece of the rest.
        rcases List.exists_cons_of_ne_nil (List.splitOn_ne_nil stop rest) with
          ⟨first, others, pieces⟩
        rw [pieces] at member induction
        rw [List.modifyHead_cons, List.mem_cons] at member
        rcases member with rfl | later
        · rw [List.mem_cons, not_or]
          exact ⟨fun same => apart (beq_iff_eq.mpr same.symm), induction List.mem_cons_self⟩
        · exact induction (List.mem_cons_of_mem first later)

theorem parts_eq_singleton {part : σ} (plain : slash σ ∉ letters part) : parts part = [part] := by
  rw [parts, List.splitOn_eq_singleton plain, List.map_singleton, PathText.ofLetters_letters]

/-- A part of a path is relative and has no parts but itself. -/
theorem parts_of_mem_parts {path part : σ} (member : part ∈ parts path) :
    isAbsolute part = false ∧ parts part = [part] := by
  rcases List.mem_map.mp member with ⟨word, piece, rfl⟩
  have plain := notMem_of_mem_splitOn piece
  constructor
  · rw [isAbsolute, PathText.letters_ofLetters, beq_eq_false_iff_ne]
    intro first
    exact plain (List.mem_of_mem_head? first)
  · apply parts_eq_singleton
    rwa [PathText.letters_ofLetters]

/-- What holds of paths without a slash, and of two paths with a slash between them if it holds of
both, holds of any path. -/
theorem parts_induction {motive : σ → Prop}
    (plain : ∀ part, slash σ ∉ letters part → motive part)
    (append : ∀ front rest, motive front → motive rest →
      motive (front ++ ofLetters [slash σ] ++ rest)) (path : σ) : motive path := by
  induction size : (letters path).length using Nat.strong_induction_on generalizing path with
  | h count induction =>
    by_cases some : slash σ ∈ letters path
    case neg => exact plain path some
    case pos =>
      rcases List.append_of_mem some with ⟨front, rest, split⟩
      have joined : path = ofLetters front ++ ofLetters [slash σ] ++ ofLetters rest := by
        apply PathText.letters_injective
        simp [split]
      rw [split, List.length_append, List.length_cons] at size
      rw [joined]
      apply append
      · exact induction front.length (by omega) _ (by rw [PathText.letters_ofLetters])
      · exact induction rest.length (by omega) _ (by rw [PathText.letters_ofLetters])

theorem parts_injective : Function.Injective (parts : σ → List σ) := by
  have whole (path : σ) : letters path = [slash σ].intercalate ((parts path).map letters) := by
    have pieces : (parts path).map letters = (letters path).splitOn (slash σ) := by
      rw [parts, List.map_map]
      have kept : ∀ word ∈ (letters path).splitOn (slash σ),
          (letters ∘ (ofLetters : List α → σ)) word = word :=
        fun word _ => PathText.letters_ofLetters word
      rw [List.map_congr_left kept, List.map_id']
    rw [pieces, List.intercalate_splitOn]
  intro path other same
  apply PathText.letters_injective
  rw [whole path, same, ← whole other]

/-! ## Joining -/

theorem asDirectory_append {front : σ} (closed : endsWithSlash front = true) (rest : σ) :
    asDirectory (front ++ rest) = front ++ asDirectory rest := by
  cases empty : isEmpty rest with
  | true =>
      have nothing : rest = ofLetters [] := by
        rw [← PathText.ofLetters_letters rest, List.isEmpty_iff.mp empty]
      rw [nothing, PathText.append_empty, asDirectory, if_pos (.inr closed), asDirectory,
        if_pos (.inl (by rw [← nothing, empty])), PathText.append_empty]
  | false =>
      simp only [asDirectory, PathText.isEmpty_append, empty, endsWithSlash_append empty,
        Bool.and_false, Bool.false_eq_true, false_or]
      split
      case isTrue => rfl
      case isFalse => rw [PathText.append_assoc]

theorem join_of_relative {addition : σ} (relative : isAbsolute addition = false) (base : σ) :
    join base addition = asDirectory base ++ addition := by
  rw [join, if_neg (by simp [relative]), asDirectory]
  split <;> rfl

theorem asDirectory_join {name : σ} (nonempty : isEmpty name = false)
    (relative : isAbsolute name = false) (plain : endsWithSlash name = false) (base : σ) :
    asDirectory (join base name) = asDirectory base ++ (name ++ ofLetters [slash σ]) := by
  have closed : endsWithSlash (asDirectory base ++ name) = false := by
    rw [endsWithSlash_append nonempty, plain]
  rw [join_of_relative relative, asDirectory,
    if_neg (by simp [PathText.isEmpty_append, nonempty, closed]), PathText.append_assoc]

/-- A relative path is walked after the other. -/
theorem steps_asDirectory_append (base addition : σ) :
    steps (asDirectory base ++ addition) = steps base ++ steps addition := by
  unfold asDirectory
  split
  case isTrue closed =>
    rcases closed with empty | closed
    · have nothing : base = ofLetters [] := by
        rw [← PathText.ofLetters_letters base, List.isEmpty_iff.mp empty]
      have same : (ofLetters [] : σ) ++ addition = addition := by
        apply PathText.letters_injective
        rw [PathText.letters_append, PathText.letters_ofLetters, List.nil_append]
      rw [nothing, same, steps_empty, List.nil_append]
    · rcases endsWithSlash_iff.mp closed with ⟨front, rfl⟩
      have ending := steps_append_slash front (ofLetters [])
      rw [PathText.append_empty, steps_empty, List.append_nil] at ending
      rw [steps_append_slash, ending]
  case isFalse => exact steps_append_slash base addition

theorem isAbsolute_asDirectory_append {base : σ} (nonempty : isEmpty base = false) (addition : σ) :
    isAbsolute (asDirectory base ++ addition) = isAbsolute base := by
  unfold asDirectory
  split
  case isTrue => exact isAbsolute_append nonempty addition
  case isFalse => rw [PathText.append_assoc, isAbsolute_append nonempty]

theorem isAbsolute_join {base : σ} (absolute : isAbsolute base = true) (addition : σ) :
    isAbsolute (join base addition) = true := by
  cases relative : isAbsolute addition with
  | false =>
      rw [join_of_relative relative,
        isAbsolute_asDirectory_append (isEmpty_of_isAbsolute absolute), absolute]
  | true => rwa [join, if_pos relative]

theorem isAbsolute_joinAll {base : σ} (absolute : isAbsolute base = true) (additions : List σ) :
    isAbsolute (joinAll base additions) = true := by
  induction additions generalizing base with
  | nil => exact absolute
  | cons addition rest induction => exact induction (isAbsolute_join absolute addition)

/-- An absolute addition leaves nothing of what is before it. -/
theorem joinAll_eq_of_isAbsolute {additions : List σ}
    (absolute : ∃ addition ∈ additions, isAbsolute addition = true) (base other : σ) :
    joinAll base additions = joinAll other additions := by
  induction additions generalizing base other with
  | nil =>
      rcases absolute with ⟨addition, member, -⟩
      cases member
  | cons addition rest induction =>
      rcases absolute with ⟨later, member, absolute⟩
      rcases List.mem_cons.mp member with rfl | member
      · simp only [joinAll, List.foldl_cons, join, if_pos absolute]
      · exact induction ⟨later, member, absolute⟩ (join base addition) (join other addition)

theorem steps_joinAll {additions : List σ}
    (relative : ∀ addition ∈ additions, isAbsolute addition = false) (base : σ) :
    steps (joinAll base additions) = steps base ++ additions.flatMap steps := by
  induction additions generalizing base with
  | nil => simp [joinAll]
  | cons addition rest induction =>
      rw [List.forall_mem_cons] at relative
      rw [joinAll, List.foldl_cons, ← joinAll, induction relative.2, join_of_relative relative.1,
        steps_asDirectory_append, List.flatMap_cons, List.append_assoc]

/-- Walking the steps of a path one by one is walking the path. -/
theorem steps_joinAll_steps (base path : σ) :
    steps (joinAll base (steps path)) = steps base ++ steps path := by
  have single : ∀ step ∈ steps path, isAbsolute step = false ∧ steps step = [step] := by
    intro step member
    rcases List.mem_filter.mp member with ⟨isPart, leads⟩
    rcases parts_of_mem_parts isPart with ⟨relative, alone⟩
    exact ⟨relative, by rw [steps, alone, List.filter_cons_of_pos leads, List.filter_nil]⟩
  rw [steps_joinAll fun step member => (single step member).1,
    List.flatMap_congr fun step member => (single step member).2, List.flatMap_singleton']

/-! ## Absolute paths -/

/-- The absolute path that leads where another leads from the directory `current`. -/
structure LeadsAlike (current path absolutePath : σ) : Prop where
  absolute : isAbsolute absolutePath = true
  walked : steps absolutePath = (if isAbsolute path then [] else steps current) ++ steps path

/-- The root is one slash or two. -/
theorem root_eq (path : σ) :
    root path = ofLetters [slash σ] ∨ root path = ofLetters [slash σ, slash σ] := by
  have isSlash : ∀ letter ∈ (letters path).takeWhile (· == slash σ), letter = slash σ := by
    intro letter member
    have fits : (letter == slash σ) = true := List.mem_takeWhile_imp (p := (· == slash σ)) member
    exact beq_iff_eq.mp fits
  unfold root
  simp only
  split
  case isTrue two =>
    right
    rw [List.eq_replicate_of_mem isSlash, two]
    rfl
  case isFalse => exact .inl rfl

theorem isAbsolute_root (path : σ) : isAbsolute (root path) = true := by
  rcases root_eq path with single | double
  · rw [single, isAbsolute, PathText.letters_ofLetters, List.head?_cons, beq_self_eq_true]
  · rw [double, isAbsolute, PathText.letters_ofLetters, List.head?_cons, beq_self_eq_true]

theorem steps_slash : steps (ofLetters [slash σ] : σ) = [] := by
  have ends := steps_append_slash (ofLetters [] : σ) (ofLetters [])
  rw [PathText.append_empty, steps_empty, List.append_nil] at ends
  rw [← ends]
  congr 1
  apply PathText.letters_injective
  rw [PathText.letters_append, PathText.letters_ofLetters, PathText.letters_ofLetters,
    List.nil_append]

theorem steps_root (path : σ) : steps (root path) = [] := by
  rcases root_eq path with single | double
  · rw [single, steps_slash]
  · have both : (ofLetters [slash σ, slash σ] : σ) =
        ofLetters [slash σ] ++ ofLetters [slash σ] ++ ofLetters [] := by
      apply PathText.letters_injective
      simp
    rw [double, both, steps_append_slash, steps_slash, steps_empty, List.append_nil]

/-- The current directory makes no difference to an absolute path. -/
theorem absolute_of_isAbsolute {path : σ} (standsAlone : isAbsolute path = true)
    (here there : σ) : absolute here path = absolute there path := by
  simp only [absolute, standsAlone, if_true]

/-- Every path but the empty one can be made absolute. -/
theorem exists_absolute {current path : σ} (inside : isAbsolute current = true)
    (nonempty : isEmpty path = false) :
    ∃ absolutePath, absolute current path = .ok absolutePath ∧
      LeadsAlike current path absolutePath := by
  rw [absolute, if_neg (by simp [nonempty])]
  refine ⟨_, rfl, ?_⟩
  generalize begins : (if isAbsolute path then root path else current) = start
  have absolute : isAbsolute start = true := by
    rw [← begins]
    split
    case isTrue => exact isAbsolute_root path
    case isFalse => exact inside
  have first : steps start = if isAbsolute path then [] else steps current := by
    rw [← begins]
    split
    case isTrue => exact steps_root path
    case isFalse => rfl
  have walked := steps_joinAll_steps start path
  rw [first] at walked
  have walkedAbsolute := isAbsolute_joinAll absolute (steps path)
  split
  case isTrue =>
    refine ⟨isAbsolute_join walkedAbsolute (ofLetters []), ?_⟩
    have relative : isAbsolute (ofLetters [] : σ) = false := by
      rw [isAbsolute, PathText.letters_ofLetters]
      rfl
    rw [join_of_relative relative, steps_asDirectory_append, steps_empty, List.append_nil]
    exact walked
  case isFalse => exact ⟨walkedAbsolute, walked⟩

end PathName

end SymbolBindings
