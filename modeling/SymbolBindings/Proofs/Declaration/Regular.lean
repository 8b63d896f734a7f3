import SymbolBindings.Proofs.Declaration.Block
import SymbolBindings.Proofs.HostType.Rendering
import SymbolBindings.Proofs.Text.Stops

/-! # Regular declarations

Declarations of the firmware's own kind: words name them, and their types are spelled as C spells
types. No part of such a declaration holds the character that ends this part in its block, so every
part can be told from what follows it.
-/

namespace SymbolBindings

def isWordCharacter (character : Char) : Bool :=
  character.isAlphanum || character == '_'

/-- A nonempty word of ASCII letters, digits and underscores. -/
def IsWord (text : String) : Prop :=
  text ≠ "" ∧ ∀ character ∈ text.toList, isWordCharacter character = true

instance (text : String) : Decidable (IsWord text) :=
  decidable_of_iff (text ≠ "" ∧ text.toList.all isWordCharacter = true)
    (and_congr_right fun _ => List.all_eq_true)

theorem IsWord.notMem {text : String} (word : IsWord text) {stop : Char}
    (foreign : isWordCharacter stop = false) : stop ∉ text.toList := by
  intro member
  rw [word.2 stop member] at foreign
  cases foreign

namespace Declaration

/-- The declaration is made of a symbol, words name them both, and the bases that are passed
through are spelled as C spells types. -/
structure Regular (declaration : Declaration) : Prop where
  made : ∃ symbol name, ofSymbol symbol name = .ok declaration ∧
    IsWord symbol.name ∧ IsWord name
  spelled : ∀ base ∈ declaration.unresolved, IsSpelling base

namespace Regular

variable {declaration : Declaration}

theorem isWord_name (regular : Regular declaration) : IsWord declaration.name := by
  rcases regular.made with ⟨symbol, name, made, -, word⟩
  exact (of_made made).1 ▸ word

theorem isWord_linkName (regular : Regular declaration) {link : String}
    (linked : declaration.linkName = some link) : IsWord link := by
  rcases regular.made with ⟨symbol, name, made, word, -⟩
  rw [(of_made made).2.2] at linked
  split at linked
  · cases linked
  · cases linked
    exact word

theorem isSpelling_base (regular : Regular declaration) {type : HostType}
    (member : type ∈ declaration.types) : IsSpelling type.base.name := by
  rcases regular.made with ⟨symbol, name, made, -, -⟩
  rcases mem_types_of_made made member with ⟨spelling, resolved⟩
  have plain := fun unresolved => regular.spelled _ (mem_unresolved member unresolved)
  rw [← resolved] at plain ⊢
  exact HostType.isSpelling_base_resolve plain

theorem isSpelling_type (regular : Regular declaration) :
    ∀ type ∈ declaration.type, IsSpelling type.base.name := by
  intro type typed
  exact regular.isSpelling_base (List.mem_append_left _ (Option.mem_toList.mpr typed))

end Regular

/-! ## The line for the linker -/

theorem linkLine_of_none {declaration : Declaration} (unlinked : declaration.linkName = none) :
    declaration.linkLine.toList = [] := by
  rw [linkLine, unlinked]
  rfl

theorem linkLine_append {declaration : Declaration} {link : String}
    (linked : declaration.linkName = some link) (rest : List Char) :
    declaration.linkLine.toList ++ rest =
      "#[link_name = \"".toList ++ (link.toList ++ '"' :: ']' :: '\n' :: rest) := by
  simp [linkLine, linked]

theorem linkLine_append_inj {left right : Declaration} {rest other : List Char}
    (leftRegular : Regular left) (rightRegular : Regular right)
    (restItem : rest.head? = some 'p') (otherItem : other.head? = some 'p')
    (same : left.linkLine.toList ++ rest = right.linkLine.toList ++ other) :
    left.linkName = right.linkName ∧ rest = other := by
  cases leftLink : left.linkName with
  | none =>
      cases rightLink : right.linkName with
      | none =>
          rw [linkLine_of_none leftLink, linkLine_of_none rightLink] at same
          exact ⟨rfl, same⟩
      | some link =>
          rw [linkLine_of_none leftLink, linkLine_append rightLink, List.nil_append] at same
          rw [same] at restItem
          cases restItem
  | some link =>
      cases rightLink : right.linkName with
      | none =>
          rw [linkLine_append leftLink, linkLine_of_none rightLink, List.nil_append] at same
          rw [← same] at otherItem
          cases otherItem
      | some second =>
          rw [linkLine_append leftLink, linkLine_append rightLink] at same
          rcases Text.append_cons_inj ((leftRegular.isWord_linkName leftLink).notMem (by decide))
            ((rightRegular.isWord_linkName rightLink).notMem (by decide))
            (List.append_cancel_left same) with ⟨sameLink, sameRest⟩
          simp only [List.cons.injEq, true_and] at sameRest
          exact ⟨congrArg some (String.toList_inj.mp sameLink), sameRest⟩

/-! ## Parameters -/

theorem argumentsFrom_inj {number : Nat} {left right : List HostType} {leftEnd rightEnd : Bool}
    (same : argumentsFrom number left ++ (if leftEnd then ["..."] else []) =
      argumentsFrom number right ++ (if rightEnd then ["..."] else [])) :
    left.map HostType.render = right.map HostType.render ∧ leftEnd = rightEnd := by
  -- An ellipsis is no numbered argument, because these begin with an underscore.
  have numbered : ∀ {number : Nat} {type : String},
      "_arg" ++ toString number ++ ": " ++ type ≠ "..." := by
    intro number type same
    have characters := congrArg String.toList same
    simp at characters
  induction left generalizing number right with
  | nil =>
      cases right with
      | nil =>
          refine ⟨rfl, ?_⟩
          cases leftEnd <;> cases rightEnd <;> simp [argumentsFrom] at same ⊢
      | cons type types =>
          cases leftEnd with
          | false => cases same
          | true => exact absurd (List.cons_eq_cons.mp same).1.symm numbered
  | cons type types induction =>
      cases right with
      | nil =>
          cases rightEnd with
          | false => cases same
          | true => exact absurd (List.cons_eq_cons.mp same).1 numbered
      | cons second others =>
          rcases List.cons_eq_cons.mp same with ⟨sameFirst, sameRest⟩
          rcases induction sameRest with ⟨sameTypes, sameEnd⟩
          have sameType : type.render = second.render := by
            have characters := congrArg String.toList sameFirst
            simp only [String.toList_append, List.append_cancel_left_eq] at characters
            exact String.toList_inj.mp characters
          exact ⟨List.cons_eq_cons.mpr ⟨sameType, sameTypes⟩, sameEnd⟩

theorem notMem_argument (number : Nat) {type : HostType} (plain : IsSpelling type.base.name)
    {stop : Char} (foreign : isSpellingCharacter stop = false) (notMarker : stop ≠ '*')
    (notColon : stop ≠ ':') :
    stop ∉ ("_arg" ++ toString number ++ ": " ++ type.render).toList := by
  have notDigit : stop.isDigit = false := by
    simp only [isSpellingCharacter, Char.isAlphanum, Bool.or_eq_false_iff] at foreign
    exact foreign.1.1.1.2
  intro member
  simp only [String.toList_append, List.mem_append] at member
  rcases member with ((inWord | inNumber) | inColon) | inType
  · have spelled : IsSpelling "_arg" := by decide
    rw [spelled stop inWord] at foreign
    cases foreign
  · simp only [Nat.toString_eq_repr, Nat.toList_repr] at inNumber
    rw [Nat.isDigit_of_mem_toDigits (by decide) (by decide) inNumber] at notDigit
    cases notDigit
  · have known : stop = ':' ∨ stop = ' ' := by simpa using inColon
    rcases known with colon | rfl
    · exact notColon colon
    · cases foreign
  · exact HostType.notMem_render plain foreign notMarker inType

theorem isPiece_argumentsFrom {number : Nat} {types : List HostType}
    (plain : ∀ type ∈ types, IsSpelling type.base.name) :
    ∀ argument ∈ argumentsFrom number types, Text.IsPiece argument.toList := by
  induction types generalizing number with
  | nil => simp [argumentsFrom]
  | cons type others induction =>
      rcases List.forall_mem_cons.mp plain with ⟨typePlain, othersPlain⟩
      rw [argumentsFrom, List.forall_mem_cons]
      refine ⟨⟨?_, ?_, ?_⟩, induction othersPlain⟩
      · simp
      · exact notMem_argument number typePlain (by decide) (by decide) (by decide)
      · exact notMem_argument number typePlain (by decide) (by decide) (by decide)

theorem Regular.isPiece_arguments {declaration : Declaration} (regular : Regular declaration) :
    ∀ piece ∈ declaration.arguments.map String.toList, Text.IsPiece piece := by
  intro piece member
  rcases List.mem_map.mp member with ⟨argument, isArgument, rfl⟩
  rcases List.mem_append.mp isArgument with positional | ellipsis
  · refine isPiece_argumentsFrom (fun type isParameter => ?_) argument positional
    exact regular.isSpelling_base (List.mem_append_right _ isParameter)
  · split at ellipsis
    · rw [List.mem_singleton.mp ellipsis]
      exact ⟨by decide, by decide, by decide⟩
    · cases ellipsis

theorem arguments_append_inj {left right : Declaration} {rest other : List Char}
    (leftRegular : Regular left) (rightRegular : Regular right)
    (same : (String.intercalate ", " left.arguments).toList ++ ')' :: rest =
      (String.intercalate ", " right.arguments).toList ++ ')' :: other) :
    left.parameters.map HostType.render = right.parameters.map HostType.render ∧
      left.variadic = right.variadic ∧ rest = other := by
  simp only [String.toList_intercalate] at same
  rcases Text.intercalate_append_inj leftRegular.isPiece_arguments rightRegular.isPiece_arguments
    same with ⟨samePieces, sameRest⟩
  have sameArguments := List.map_injective_iff.mpr (fun _ _ => String.toList_inj.mp) samePieces
  rcases argumentsFrom_inj sameArguments with ⟨sameParameters, sameEnd⟩
  exact ⟨sameParameters, sameEnd, sameRest⟩

/-! ## The result -/

theorem resultClause_append_inj {left right : Option HostType} {rest other : List Char}
    (leftPlain : ∀ type ∈ left, IsSpelling type.base.name)
    (rightPlain : ∀ type ∈ right, IsSpelling type.base.name)
    (same : (resultClause left).toList ++ ';' :: rest =
      (resultClause right).toList ++ ';' :: other) :
    left.map HostType.render = right.map HostType.render ∧ rest = other := by
  have clause : ∀ (type : HostType) (rest : List Char),
      (resultClause (some type)).toList ++ rest =
        " -> ".toList ++ (type.render.toList ++ rest) := by
    intro type rest
    simp [resultClause]
  cases left with
  | none =>
      cases right with
      | none => exact ⟨rfl, (List.cons_eq_cons.mp same).2⟩
      | some type =>
          rw [clause] at same
          cases (List.cons_eq_cons.mp same).1
  | some type =>
      cases right with
      | none =>
          rw [clause] at same
          cases (List.cons_eq_cons.mp same).1
      | some second =>
          rw [clause, clause] at same
          rcases Text.append_cons_inj
            (HostType.notMem_render (leftPlain type rfl) (by decide) (by decide))
            (HostType.notMem_render (rightPlain second rfl) (by decide) (by decide))
            (List.append_cancel_left same) with ⟨sameType, sameRest⟩
          exact ⟨congrArg some (String.toList_inj.mp sameType), sameRest⟩

end Declaration

end SymbolBindings
