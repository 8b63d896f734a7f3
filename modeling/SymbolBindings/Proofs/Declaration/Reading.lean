import SymbolBindings.Proofs.Declaration.Regular
import SymbolBindings.Proofs.Text.Utf8

/-! # Reading declarations back

Blocks are written one after another with nothing between them, and some of their parts only where
there is something to say. Still no two lists of regular declarations are written alike unless they
say the same.
-/

namespace SymbolBindings.Declaration

/-- What the declarations have in common if they are written alike. -/
structure Alike (left right : Declaration) : Prop where
  kind : left.kind = right.kind
  name : left.name = right.name
  linkName : left.linkName = right.linkName
  type : left.type.map HostType.render = right.type.map HostType.render
  parameters : left.parameters.map HostType.render = right.parameters.map HostType.render
  variadic : left.variadic = right.variadic

/-! ## Blocks -/

/-- The characters of the written block, if there is one. -/
def characters (declaration : Declaration) : List Char :=
  match declaration.block with
  | .ok block => block.toList
  | .error _ => []

theorem octets_eq (declaration : Declaration) :
    declaration.octets = declaration.characters.flatMap String.utf8EncodeChar := by
  unfold octets characters
  cases declaration.block with
  | ok block => exact Text.octets_eq_flatMap block
  | error failure => rfl

/-- The line of the item in a block, which a line for the linker may precede. -/
inductive ItemLine (declaration : Declaration) : List Char → Prop
  | object {type : HostType} (kind : declaration.kind = .object)
      (typed : declaration.type = some type) (bare : declaration.parameters = [])
      (closed : declaration.variadic = false) :
      ItemLine declaration ("pub static ".toList ++ (declaration.name.toList ++ ':' :: ' ' ::
        (type.render.toList ++ [';', '\n'])))
  | function (kind : declaration.kind = .function) :
      ItemLine declaration ("pub fn ".toList ++ (declaration.name.toList ++ '(' ::
        ((String.intercalate ", " declaration.arguments).toList ++ ')' ::
          ((resultClause declaration.type).toList ++ [';', '\n']))))

theorem exists_itemLine {symbol : Symbol} {name : String} {declaration : Declaration}
    (made : ofSymbol symbol name = .ok declaration) :
    ∃ line, ItemLine declaration line ∧
      declaration.characters = declaration.linkLine.toList ++ line := by
  unfold ofSymbol at made
  cases kind : symbol.kind with
  | object =>
      rw [kind] at made
      cases made
      refine ⟨_, .object rfl rfl rfl rfl, ?_⟩
      simp [characters, block, objectBlock]
  | function =>
      rw [kind] at made
      cases made
      refine ⟨_, .function rfl, ?_⟩
      simp [characters, block, functionBlock]
  | other entry =>
      rw [kind] at made
      cases made

theorem ItemLine.head {declaration : Declaration} {line : List Char}
    (itemLine : ItemLine declaration line) (rest : List Char) :
    (line ++ rest).head? = some 'p' := by
  cases itemLine <;> rfl

/-- What an item says can be told from its line, whatever follows it. -/
theorem ItemLine.append_inj {left right : Declaration} {line second rest other : List Char}
    (itemLine : ItemLine left line) (secondLine : ItemLine right second)
    (leftRegular : Regular left) (rightRegular : Regular right)
    (sameLink : left.linkName = right.linkName) (same : line ++ rest = second ++ other) :
    Alike left right ∧ rest = other := by
  have leftName := leftRegular.isWord_name
  have rightName := rightRegular.isWord_name
  have leftPlain := leftRegular.isSpelling_type
  have rightPlain := rightRegular.isSpelling_type
  cases itemLine with
  | object kind typed bare closed =>
      cases secondLine with
      | object secondKind secondTyped secondBare secondClosed =>
          simp only [List.append_assoc, List.cons_append, List.append_cancel_left_eq] at same
          rcases Text.append_cons_inj (leftName.notMem (by decide)) (rightName.notMem (by decide))
            same with ⟨sameName, afterName⟩
          rcases Text.append_cons_inj
            (HostType.notMem_render (leftPlain _ typed) (by decide) (by decide))
            (HostType.notMem_render (rightPlain _ secondTyped) (by decide) (by decide))
            (List.cons_eq_cons.mp afterName).2 with ⟨sameType, afterType⟩
          refine ⟨⟨kind.trans secondKind.symm, String.toList_inj.mp sameName, sameLink, ?_, ?_, ?_⟩,
            (List.cons_eq_cons.mp afterType).2⟩
          · rw [typed, secondTyped]
            exact congrArg some (String.toList_inj.mp sameType)
          · rw [bare, secondBare]
          · rw [closed, secondClosed]
      | function => cases same
  | function kind =>
      cases secondLine with
      | object => cases same
      | function secondKind =>
          simp only [List.append_assoc, List.cons_append, List.append_cancel_left_eq] at same
          rcases Text.append_cons_inj (leftName.notMem (by decide)) (rightName.notMem (by decide))
            same with ⟨sameName, afterName⟩
          rcases arguments_append_inj leftRegular rightRegular afterName with
            ⟨sameParameters, sameEnd, afterArguments⟩
          rcases resultClause_append_inj leftPlain rightPlain afterArguments with
            ⟨sameResult, afterResult⟩
          exact ⟨⟨kind.trans secondKind.symm, String.toList_inj.mp sameName, sameLink, sameResult,
            sameParameters, sameEnd⟩, (List.cons_eq_cons.mp afterResult).2⟩

/-- A declaration can be told from its block, whatever was written after it. -/
theorem characters_append_inj {left right : Declaration} {rest other : List Char}
    (leftRegular : Regular left) (rightRegular : Regular right)
    (same : left.characters ++ rest = right.characters ++ other) :
    Alike left right ∧ rest = other := by
  rcases leftRegular.made with ⟨_, _, made, -, -⟩
  rcases exists_itemLine made with ⟨line, itemLine, split⟩
  rcases rightRegular.made with ⟨_, _, secondMade, -, -⟩
  rcases exists_itemLine secondMade with ⟨secondLine, secondItemLine, secondSplit⟩
  rw [split, secondSplit, List.append_assoc, List.append_assoc] at same
  rcases linkLine_append_inj leftRegular rightRegular (itemLine.head rest)
    (secondItemLine.head other) same with ⟨sameLink, sameItem⟩
  exact itemLine.append_inj secondItemLine leftRegular rightRegular sameLink sameItem

theorem characters_ne_nil {declaration : Declaration} (regular : Regular declaration) :
    declaration.characters ≠ [] := by
  rcases regular.made with ⟨_, _, made, -, -⟩
  rcases exists_itemLine made with ⟨line, itemLine, split⟩
  intro empty
  rw [split, List.append_eq_nil_iff] at empty
  have head := itemLine.head []
  rw [empty.2] at head
  cases head

theorem flatMap_characters_inj {left right : List Declaration}
    (leftRegular : ∀ declaration ∈ left, Regular declaration)
    (rightRegular : ∀ declaration ∈ right, Regular declaration)
    (same : left.flatMap characters = right.flatMap characters) :
    List.Forall₂ Alike left right := by
  induction left generalizing right with
  | nil =>
      cases right with
      | nil => exact .nil
      | cons second others =>
          rw [List.flatMap_nil, eq_comm, List.flatMap_eq_nil_iff] at same
          exact absurd (same second (by simp)) (characters_ne_nil (rightRegular second (by simp)))
  | cons first rest induction =>
      rcases List.forall_mem_cons.mp leftRegular with ⟨firstRegular, restRegular⟩
      cases right with
      | nil =>
          rw [List.flatMap_nil, List.flatMap_eq_nil_iff] at same
          exact absurd (same first (by simp)) (characters_ne_nil firstRegular)
      | cons second others =>
          rcases List.forall_mem_cons.mp rightRegular with ⟨secondRegular, othersRegular⟩
          rw [List.flatMap_cons, List.flatMap_cons] at same
          rcases characters_append_inj firstRegular secondRegular same with ⟨alike, sameRest⟩
          exact .cons alike (induction restRegular othersRegular sameRest)

/-! ## Emission -/

theorem written_performAll {sink : Sink} (roomy : sink.room = none)
    {declarations : List Declaration}
    (written : ∀ declaration ∈ declarations, ∃ block, declaration.block = .ok block) :
    (sink.performAll (declarations.map .declaration)).2.written =
      sink.written ++ declarations.flatMap octets := by
  induction declarations generalizing sink with
  | nil => simp [Sink.performAll]
  | cons declaration rest induction =>
      rcases List.forall_mem_cons.mp written with ⟨⟨block, found⟩, restWritten⟩
      have fits := Sink.fits_of_roomy roomy declaration.octets
      have stillRoomy : (sink.take declaration.octets).room = none := by
        rw [Sink.take, roomy]
        rfl
      rw [List.map_cons, Sink.performAll]
      simp only [Sink.perform_declaration found, Sink.writeAll_of_fits fits]
      rw [induction stillRoomy restWritten, Sink.written_take, List.flatMap_cons,
        List.append_assoc]

/-- What was emitted tells the declarations apart: those that are written alike are alike. -/
theorem written_performAll_inj (left right : List Declaration)
    (leftRegular : ∀ declaration ∈ left, Regular declaration)
    (rightRegular : ∀ declaration ∈ right, Regular declaration)
    (same : (Sink.unbounded.performAll (left.map .declaration)).2.written =
      (Sink.unbounded.performAll (right.map .declaration)).2.written) :
    left.length = right.length ∧ List.Forall₂ Alike left right := by
  have hasBlock : ∀ {declaration : Declaration}, Regular declaration →
      ∃ block, declaration.block = .ok block := by
    intro declaration regular
    rcases regular.made with ⟨_, _, made, -, -⟩
    exact exists_block made
  rw [written_performAll rfl fun declaration member => hasBlock (leftRegular declaration member),
    written_performAll rfl fun declaration member => hasBlock (rightRegular declaration member),
    List.append_cancel_left_eq] at same
  have octetsOf : ∀ declarations : List Declaration, declarations.flatMap octets =
      Text.octets (String.ofList (declarations.flatMap characters)) := by
    intro declarations
    rw [Text.octets_ofList, List.flatMap_assoc]
    exact List.flatMap_congr fun declaration _ => octets_eq declaration
  rw [octetsOf, octetsOf] at same
  have sameCharacters := String.ofList_injective (Text.octets_injective same)
  have alike := flatMap_characters_inj leftRegular rightRegular sameCharacters
  exact ⟨alike.length_eq, alike⟩

/-- A base that is passed through can be spelled like a known one. Then the declarations differ, but
nobody can tell them apart once they are written. -/
theorem written_performAll_inj_passed_through :
    let known : Declaration :=
      ⟨.function, "log", some "furi_log", some ⟨.known ⟨"i32", false⟩, 0⟩,
        [⟨.known ⟨"c_char", true⟩, 1⟩], true⟩
    let passed : Declaration :=
      ⟨.function, "log", some "furi_log", some ⟨.unresolved "i32", 0⟩,
        [⟨.known ⟨"c_char", true⟩, 1⟩], true⟩
    let object : Declaration :=
      ⟨.object, "tick", none, some ⟨.unresolved "Tick", 2⟩, [], false⟩
    (∀ declaration ∈ [known, object], Regular declaration) ∧
      (∀ declaration ∈ [passed, object], Regular declaration) ∧
      (Sink.unbounded.performAll ([known, object].map .declaration)).2.written =
        (Sink.unbounded.performAll ([passed, object].map .declaration)).2.written ∧
      known ≠ passed ∧ List.Forall₂ Alike [known, object] [passed, object] := by
  intro known passed object
  have knownRegular : Regular known :=
    ⟨⟨⟨"furi_log", .function, true, "int", "const char*, ...", none⟩, "log", rfl,
      by decide, by decide⟩, by decide⟩
  have passedRegular : Regular passed :=
    ⟨⟨⟨"furi_log", .function, true, "i32", "const char*, ...", none⟩, "log", rfl,
      by decide, by decide⟩, by decide⟩
  have objectRegular : Regular object :=
    ⟨⟨⟨"tick", .object, true, "Tick**", "", none⟩, "tick", rfl,
      by decide, by decide⟩, by decide⟩
  have first : ∀ declaration ∈ [known, object], Regular declaration := by
    simp [knownRegular, objectRegular]
  have second : ∀ declaration ∈ [passed, object], Regular declaration := by
    simp [passedRegular, objectRegular]
  exact ⟨first, second, rfl, by decide, (written_performAll_inj _ _ first second rfl).2⟩

end SymbolBindings.Declaration
