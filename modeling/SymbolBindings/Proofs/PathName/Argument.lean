import SymbolBindings.Proofs.PathName.Steps
import SymbolBindings.Proofs.Text.Replacement

/-! # Paths as arguments

A program is given a path as text. The slashes of the path stay where they are, so that the text
has a step for each step of the path, but what is not text in a step is replaced. The program gets
the path itself exactly if all its steps are text.
-/

namespace SymbolBindings

open PathText (letters ofLetters ofText shown slash)

namespace SystemText

open PathName (isAbsolute isStep join joinAll parts steps)

/-! ## Text -/

/-- The octets are those of some text. -/
def IsText (text : SystemText) : Prop :=
  Text.IsText text.octets

theorem isText_ofText (text : String) : IsText (ofText text) :=
  ⟨text, rfl⟩

theorem isText_join {base addition : SystemText} (first : base.IsText) (second : addition.IsText) :
    (join base addition).IsText := by
  have mark : IsText (ofLetters [slash SystemText]) := ⟨"/", rfl⟩
  unfold join
  split
  case isTrue => exact second
  case isFalse =>
    split
    case isTrue => exact first.append second
    case isFalse => exact (first.append mark).append second

theorem isText_joinAll {base : SystemText} {additions : List SystemText} (first : base.IsText)
    (others : ∀ addition ∈ additions, addition.IsText) : (joinAll base additions).IsText := by
  induction additions generalizing base with
  | nil => exact first
  | cons addition rest induction =>
      rw [List.forall_mem_cons] at others
      exact induction (isText_join first others.1) others.2

/-- A path in text is absolute as octets if it is so as a string. -/
theorem isAbsolute_ofText (path : String) :
    isAbsolute (ofText path : SystemText) = isAbsolute path := by
  have first : letters (ofText path : SystemText) = path.toList.flatMap String.utf8EncodeChar :=
    Text.octets_eq_flatMap path
  have slashes (character : Char) :
      (String.utf8EncodeChar character).head? = some (slash SystemText) ↔ character = '/' := by
    constructor
    · intro begins
      have alone := Text.utf8EncodeChar_eq_singleton_of_low (List.mem_of_mem_head? begins)
        (by decide)
      exact ((Text.utf8EncodeChar_eq_singleton_iff (by decide)).mp alone).symm
    · rintro rfl
      rfl
  rw [isAbsolute, isAbsolute, first, Bool.eq_iff_iff, beq_iff_eq, beq_iff_eq]
  change _ ↔ path.toList.head? = some '/'
  cases path.toList with
  | nil => simp
  | cons character rest =>
      have spelled : String.utf8EncodeChar character ≠ [] := by simp
      rw [List.flatMap_cons, List.head?_append_of_ne_nil _ spelled, slashes, List.head?_cons,
        Option.some_inj]

/-! ## Arguments -/

/-- The text as a program gets it for an argument. -/
def asArgument (text : SystemText) : SystemText :=
  ofText (shown text)

example : asArgument ⟨[0x2F, 0xE9]⟩ = ⟨[0x2F, 0xEF, 0xBF, 0xBD]⟩ := by decide

theorem asArgument_eq_iff {text : SystemText} : text.asArgument = text ↔ text.IsText := by
  rw [IsText, ← Text.octets_shown_eq_iff, asArgument, SystemText.ext_iff]
  rfl

theorem map_asArgument_eq_iff {texts : List SystemText} :
    texts.map asArgument = texts ↔ ∀ text ∈ texts, text.IsText := by
  have each : texts.map asArgument = texts.map id ↔ ∀ text ∈ texts, text.asArgument = text :=
    List.map_inj_left
  rw [List.map_id] at each
  simp only [each, asArgument_eq_iff]

theorem octets_asArgument (text : SystemText) :
    text.asArgument.octets = (Text.showFrom 0 text.octets).flatMap String.utf8EncodeChar :=
  Text.octets_ofList _

theorem asArgument_append_slash (front rest : SystemText) :
    asArgument (front ++ ofLetters [slash SystemText] ++ rest) =
      asArgument front ++ ofLetters [slash SystemText] ++ asArgument rest := by
  have joined : (front ++ ofLetters [slash SystemText] ++ rest).octets =
      front.octets ++ slash SystemText :: rest.octets := List.append_cons _ _ _ |>.symm
  have marked (left right : SystemText) : (left ++ ofLetters [slash SystemText] ++ right).octets =
      left.octets ++ [slash SystemText] ++ right.octets := rfl
  have spelled : String.utf8EncodeChar (Char.ofNat (slash SystemText).toNat) =
      [slash SystemText] := rfl
  ext1
  rw [octets_asArgument, joined, Text.showFrom_append_stop (by decide), List.flatMap_append,
    List.flatMap_cons, spelled, ← octets_asArgument, ← octets_asArgument, marked,
    List.append_assoc]

/-- No further slash appears. -/
theorem slash_notMem_asArgument {part : SystemText}
    (plain : slash SystemText ∉ letters part) : slash SystemText ∉ letters part.asArgument := by
  intro appears
  have shows : letters part.asArgument =
      (Text.showFrom 0 part.octets).flatMap String.utf8EncodeChar := octets_asArgument part
  rw [shows, List.mem_flatMap] at appears
  rcases appears with ⟨character, member, isIn⟩
  have alone := Text.utf8EncodeChar_eq_singleton_of_low isIn (by decide)
  have kept : character ≠ Text.replacement := by
    rintro rfl
    cases alone
  exact plain (Text.mem_of_mem_showFrom member kept isIn)

theorem parts_asArgument (path : SystemText) :
    parts path.asArgument = (parts path).map asArgument := by
  induction path using PathName.parts_induction with
  | plain part plain =>
      rw [PathName.parts_eq_singleton plain,
        PathName.parts_eq_singleton (slash_notMem_asArgument plain), List.map_singleton]
  | append front rest frontCut restCut =>
      rw [asArgument_append_slash, PathName.parts_append_slash, PathName.parts_append_slash,
        frontCut, restCut, List.map_append]

/-- What shows as a text without replacements is that text. -/
theorem eq_ofText_of_asArgument {text : SystemText} {plain : String}
    (shows : text.asArgument = ofText plain) (kept : Text.replacement ∉ plain.toList) :
    text = ofText plain := by
  have same : shown text = plain := Text.octets_injective (congrArg octets shows)
  have characters : Text.showFrom 0 text.octets = plain.toList := by
    rw [← same]
    exact String.toList_ofList.symm
  rw [← characters] at kept
  rw [← shows, asArgument_eq_iff.mpr (Text.isText_of_notMem_showFrom kept)]

theorem isStep_eq_false_iff {part : SystemText} :
    isStep part = false ↔ part = ofText "" ∨ part = ofText "." := by
  simp only [isStep, Bool.and_eq_false_iff, bne_eq_false_iff_eq]
  exact Iff.or SystemText.ext_iff.symm SystemText.ext_iff.symm

theorem isStep_asArgument (part : SystemText) : isStep part.asArgument = isStep part := by
  have alike (plain : String) (kept : Text.replacement ∉ plain.toList) :
      part.asArgument = ofText plain ↔ part = ofText plain := by
    constructor
    · intro shows
      exact eq_ofText_of_asArgument shows kept
    · rintro rfl
      exact asArgument_eq_iff.mpr (isText_ofText plain)
  rw [← Bool.not_inj_iff, Bool.eq_iff_iff]
  simp only [Bool.not_eq_true', isStep_eq_false_iff]
  rw [alike "" (by decide), alike "." (by decide)]

theorem steps_asArgument (path : SystemText) :
    steps path.asArgument = (steps path).map asArgument := by
  rw [steps, parts_asArgument, List.filter_map, steps]
  congr 1
  apply List.filter_congr
  intro part member
  exact isStep_asArgument part

theorem isAbsolute_asArgument {path : SystemText} (absolute : isAbsolute path = true) :
    isAbsolute path.asArgument = true := by
  rcases PathName.isAbsolute_iff.mp absolute with ⟨rest, rfl⟩
  exact PathName.isAbsolute_iff.mpr ⟨asArgument rest, asArgument_append_slash (ofLetters []) rest⟩

/-- A path is text if its steps are. -/
theorem isText_iff_steps {path : SystemText} :
    path.IsText ↔ ∀ step ∈ steps path, step.IsText := by
  have shows := steps_asArgument path
  constructor
  · intro isText
    rw [asArgument_eq_iff.mpr isText] at shows
    exact map_asArgument_eq_iff.mp shows.symm
  · intro texts
    have partsAreText : ∀ part ∈ parts path, part.IsText := by
      intro part member
      by_cases leads : isStep part = true
      · exact texts part (List.mem_filter.mpr ⟨member, leads⟩)
      · rcases isStep_eq_false_iff.mp (Bool.not_eq_true _ ▸ leads) with rfl | rfl
        · exact isText_ofText ""
        · exact isText_ofText "."
    have same := parts_asArgument path
    rw [map_asArgument_eq_iff.mpr partsAreText] at same
    exact asArgument_eq_iff.mp (PathName.parts_injective same)

/-- A path that is not text becomes one with other steps. -/
theorem steps_asArgument_eq_iff {path : SystemText} :
    steps path.asArgument = steps path ↔ path.IsText := by
  rw [steps_asArgument, map_asArgument_eq_iff, isText_iff_steps]

end SystemText

end SymbolBindings
