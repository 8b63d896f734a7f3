import SymbolBindings.Proofs.Declaration.Reading
import SymbolBindings.Proofs.Generate.Stripping
import SymbolBindings.Proofs.Text.Literal
import SymbolBindings.Symbol.Table

/-! # Lines of a block

A block is one line for its item, after one for the linker where the item has another name. Cells go
into these lines as they are. So a block has its lines only if no cell brings a line feed along, and
the linker finds the symbol only if its name needs no escapes.
-/

namespace SymbolBindings

/-- A character that ends an item or a line, and stands nowhere inside the fixed parts of an
item. -/
def isSeparator (character : Char) : Bool :=
  character == '\n' || character == ';'

theorem isSpellingCharacter_of_isSeparator {stop : Char} (separates : isSeparator stop = true) :
    isSpellingCharacter stop = false := by
  simp only [isSeparator, Bool.or_eq_true, beq_iff_eq] at separates
  rcases separates with rfl | rfl <;> decide

/-- A text without separators, such as a fixed part of an item, can be left out of the search for
one. -/
theorem notMem_of_isSeparator {stop : Char} (separates : isSeparator stop = true) {text : List Char}
    (solid : text.all (!isSeparator ·) = true) : stop ∉ text := by
  intro member
  have foreign := List.all_eq_true.mp solid stop member
  rw [separates] at foreign
  cases foreign

/-! ## Where separators come from -/

namespace HostType

theorem mem_render_iff {stop : Char} (separates : isSeparator stop = true) {type : HostType} :
    stop ∈ type.render.toList ↔ stop ∈ type.base.name.toList := by
  rw [render, String.toList_append, String.toList_join, List.mem_append]
  refine ⟨?_, Or.inr⟩
  rintro (inLayers | inBase)
  · rcases List.mem_flatMap.mp inLayers with ⟨layer, layerMember, within⟩
    rcases mem_layer layerMember with rfl | rfl
    · exact absurd within (notMem_of_isSeparator separates (by decide))
    · exact absurd within (notMem_of_isSeparator separates (by decide))
  · exact inBase

/-- Known bases have no separators in their names. -/
theorem isUnresolved_of_mem {stop : Char} (separates : isSeparator stop = true) {spelling : String}
    (member : stop ∈ (resolve spelling).base.name.toList) :
    (resolve spelling).base.isUnresolved = true := by
  rw [base_resolve] at member ⊢
  cases found : Primitive.lookup (baseSpelling spelling) with
  | some primitive =>
      simp only [Base.ofSpelling, found] at member
      have spelled := Primitive.isSpelling_name found stop member
      rw [isSpellingCharacter_of_isSeparator separates] at spelled
      cases spelled
  | none =>
      simp only [Base.ofSpelling, found]
      rfl

end HostType

/-- A declared name is the end of the symbol's own. -/
theorem Matcher.suffix_of_declaredName {matcher : Matcher} {name declared : String}
    (selected : matcher.declaredName name = some declared) : declared.toList <:+ name.toList := by
  rcases matcher with ⟨leading, _ | _⟩
  · rw [declaredName_keeping] at selected
    rcases Option.map_eq_some_iff.mp selected with ⟨_, -, rfl⟩
    exact List.suffix_rfl
  · cases leading with
    | none =>
        rcases Option.some.inj selected with rfl
        exact List.suffix_rfl
    | some start =>
        rcases declaredName_stripping selected with rfl
        rw [String.toList_append]
        exact List.suffix_append _ _

namespace Declaration

section Separators

variable {stop : Char} (separates : isSeparator stop = true)

include separates

theorem exists_mem_render_iff {symbol : Symbol} {name : String} {declaration : Declaration}
    (made : ofSymbol symbol name = .ok declaration) :
    (∃ type ∈ declaration.types, stop ∈ type.render.toList) ↔
      ∃ base ∈ declaration.unresolved, stop ∈ base.toList := by
  constructor
  · rintro ⟨type, member, within⟩
    rw [HostType.mem_render_iff separates] at within
    rcases mem_types_of_made made member with ⟨spelling, rfl⟩
    exact ⟨_, mem_unresolved member (HostType.isUnresolved_of_mem separates within), within⟩
  · rintro ⟨base, member, within⟩
    rcases List.mem_map.mp member with ⟨type, kept, rfl⟩
    exact ⟨type, List.mem_of_mem_filter kept, (HostType.mem_render_iff separates).mpr within⟩

theorem mem_argument_iff {number : Nat} {type : HostType} :
    stop ∈ ("_arg" ++ toString number ++ ": " ++ type.render).toList ↔
      stop ∈ type.render.toList := by
  have word : stop ∉ "_arg".toList := notMem_of_isSeparator separates (by decide)
  have colon : stop ∉ ": ".toList := notMem_of_isSeparator separates (by decide)
  have digits : stop ∉ (toString number).toList := by
    intro member
    rw [Nat.toString_eq_repr, Nat.toList_repr] at member
    have digit := Nat.isDigit_of_mem_toDigits (by decide) (by decide) member
    have spelled : isSpellingCharacter stop = true := by
      simp [isSpellingCharacter, Char.isAlphanum, digit]
    rw [isSpellingCharacter_of_isSeparator separates] at spelled
    cases spelled
  simp only [String.toList_append, List.mem_append, word, digits, colon, false_or]

theorem exists_mem_argumentsFrom_iff (number : Nat) (types : List HostType) :
    (∃ argument ∈ argumentsFrom number types, stop ∈ argument.toList) ↔
      ∃ type ∈ types, stop ∈ type.render.toList := by
  induction types generalizing number with
  | nil => simp [argumentsFrom]
  | cons type rest induction =>
      rw [argumentsFrom, List.exists_mem_cons_iff, List.exists_mem_cons_iff,
        mem_argument_iff separates, induction]

theorem mem_intercalate_iff (pieces : List (List Char)) :
    stop ∈ ", ".toList.intercalate pieces ↔ ∃ piece ∈ pieces, stop ∈ piece := by
  have comma : stop ∉ ", ".toList := notMem_of_isSeparator separates (by decide)
  induction pieces with
  | nil => simp
  | cons piece rest induction =>
      cases rest with
      | nil => simp
      | cons second others =>
          rw [List.intercalate_cons_cons, List.mem_append, List.mem_append,
            List.exists_mem_cons_iff, or_iff_left comma]
          exact or_congr_right induction

theorem mem_arguments_iff (declaration : Declaration) :
    stop ∈ (String.intercalate ", " declaration.arguments).toList ↔
      ∃ type ∈ declaration.parameters, stop ∈ type.render.toList := by
  rw [String.toList_intercalate, mem_intercalate_iff separates,
    ← exists_mem_argumentsFrom_iff separates 0]
  constructor
  · rintro ⟨piece, member, within⟩
    rcases List.mem_map.mp member with ⟨argument, isArgument, rfl⟩
    rcases List.mem_append.mp isArgument with positional | ellipsis
    · exact ⟨argument, positional, within⟩
    · split at ellipsis
      · rw [List.mem_singleton.mp ellipsis] at within
        exact absurd within (notMem_of_isSeparator separates (by decide))
      · cases ellipsis
  · rintro ⟨argument, positional, within⟩
    exact ⟨_, List.mem_map_of_mem (List.mem_append_left _ positional), within⟩

theorem mem_resultClause_iff (type : Option HostType) :
    stop ∈ (resultClause type).toList ↔ ∃ result ∈ type, stop ∈ result.render.toList := by
  cases type with
  | none => simp [resultClause]
  | some result =>
      have arrow : stop ∉ " -> ".toList := notMem_of_isSeparator separates (by decide)
      simp only [resultClause, String.toList_append, List.mem_append, arrow, false_or,
        Option.mem_def, Option.some.injEq, exists_eq_left']

end Separators

/-! ## Lines -/

/-- The line of an item without the semicolon that ends it. -/
inductive ItemText (kind : Kind) : List Char → Prop
  | object (isObject : kind = .object) (text : List Char) :
      ItemText kind ("pub static ".toList ++ text)
  | function (isFunction : kind = .function) (text : List Char) :
      ItemText kind ("pub fn ".toList ++ text)

/-- Separators come into an item with its name and with the bases nobody resolved. -/
theorem exists_itemText {symbol : Symbol} {name : String} {declaration : Declaration}
    (made : ofSymbol symbol name = .ok declaration) :
    ∃ text, ItemText symbol.kind text ∧
      declaration.characters = declaration.linkLine.toList ++ (text ++ [';', '\n']) ∧
      ∀ stop, isSeparator stop = true →
        (stop ∈ text ↔ ∃ part ∈ name :: declaration.unresolved, stop ∈ part.toList) := by
  rcases exists_itemLine made with ⟨line, itemLine, split⟩
  rcases of_made made with ⟨rfl, kind, -⟩
  rw [split]
  cases itemLine with
  | @object type isObject typed bare closed =>
      refine ⟨_, .object (kind.symm.trans isObject)
        (declaration.name.toList ++ (": ".toList ++ type.render.toList)), by simp, ?_⟩
      intro stop separates
      have fixed : stop ∉ "pub static ".toList := notMem_of_isSeparator separates (by decide)
      have colon : stop ∉ ": ".toList := notMem_of_isSeparator separates (by decide)
      rw [List.exists_mem_cons_iff, ← exists_mem_render_iff separates made]
      simp only [types, typed, bare, List.append_nil, Option.toList_some, List.mem_singleton,
        exists_eq_left, List.mem_append, fixed, colon, false_or]
  | function isFunction =>
      refine ⟨_, .function (kind.symm.trans isFunction) (declaration.name.toList ++ ("(".toList ++
        ((String.intercalate ", " declaration.arguments).toList ++ (")".toList ++
          (resultClause declaration.type).toList)))), by simp, ?_⟩
      intro stop separates
      have fixed : stop ∉ "pub fn ".toList := notMem_of_isSeparator separates (by decide)
      have opening : stop ∉ "(".toList := notMem_of_isSeparator separates (by decide)
      have closing : stop ∉ ")".toList := notMem_of_isSeparator separates (by decide)
      rw [List.exists_mem_cons_iff, ← exists_mem_render_iff separates made]
      simp only [types, List.mem_append, fixed, opening, closing, false_or, or_and_right, exists_or,
        mem_arguments_iff separates, mem_resultClause_iff separates, Option.mem_toList]
      exact or_congr_right or_comm

/-- What the block of a symbol declared under a name is to be: the line of an item and, where the
name was changed, before it one with a literal that denotes the symbol's own name. -/
inductive SelfContained (symbol : Symbol) (name : String) (block : List Char) : Prop
  | kept {text : List Char} (same : name = symbol.name) (item : ItemText symbol.kind text)
      (oneLine : '\n' ∉ text) (lines : block = text ++ [';', '\n']) :
      SelfContained symbol name block
  | changed {contents text : List Char} (differs : name ≠ symbol.name)
      (denotes : Text.Denotes contents symbol.name.toList) (linkOneLine : '\n' ∉ contents)
      (item : ItemText symbol.kind text) (oneLine : '\n' ∉ text)
      (lines : block = "#[link_name = \"".toList ++
        (contents ++ '"' :: ']' :: '\n' :: (text ++ [';', '\n']))) :
      SelfContained symbol name block

/-- A text that is two lines is so in one way. -/
theorem lines_inj {link text contents item : List Char} (linkOneLine : '\n' ∉ contents)
    (oneLine : '\n' ∉ item)
    (same : link ++ '"' :: ']' :: '\n' :: (text ++ [';', '\n']) =
      contents ++ '"' :: ']' :: '\n' :: (item ++ [';', '\n'])) :
    link = contents ∧ text = item := by
  -- The right side has two line feeds, so the left has no others either.
  have counts := congrArg (List.count '\n') same
  simp only [List.count_append, List.count_cons, List.count_nil,
    List.count_eq_zero.mpr linkOneLine, List.count_eq_zero.mpr oneLine] at counts
  have linkFree : '\n' ∉ link := by
    apply List.count_eq_zero.mp
    omega
  have cut : ∀ front rest : List Char,
      front ++ '"' :: ']' :: '\n' :: rest = (front ++ ['"', ']']) ++ '\n' :: rest := by simp
  rw [cut, cut] at same
  rcases Text.append_cons_inj (by simp [linkFree]) (by simp [linkOneLine]) same with
    ⟨sameLink, sameItem⟩
  exact ⟨List.append_cancel_right sameLink, List.append_cancel_right sameItem⟩

theorem selfContained_iff_of_kept {symbol : Symbol} {name : String} {text : List Char}
    (same : name = symbol.name) (item : ItemText symbol.kind text) :
    SelfContained symbol name (text ++ [';', '\n']) ↔ '\n' ∉ text := by
  constructor
  · intro selfContained
    cases selfContained with
    | kept _ _ oneLine lines => exact List.append_cancel_right lines ▸ oneLine
    | changed differs => exact absurd same differs
  · intro oneLine
    exact .kept same item oneLine rfl

theorem selfContained_iff_of_changed {symbol : Symbol} {name : String} {text : List Char}
    (differs : name ≠ symbol.name) (item : ItemText symbol.kind text) :
    SelfContained symbol name ("#[link_name = \"".toList ++
        (symbol.name.toList ++ '"' :: ']' :: '\n' :: (text ++ [';', '\n']))) ↔
      '\n' ∉ symbol.name.toList ∧ '\n' ∉ text ∧
        symbol.name.toList.all Text.isPlain = true := by
  rw [← Text.denotes_self_iff]
  constructor
  · intro selfContained
    cases selfContained with
    | kept same => exact absurd same differs
    | changed _ denotes linkOneLine _ oneLine lines =>
        rcases lines_inj linkOneLine oneLine (List.append_cancel_left lines) with ⟨sameLink, rfl⟩
        rw [sameLink] at denotes ⊢
        exact ⟨linkOneLine, oneLine, denotes⟩
  · rintro ⟨linkOneLine, oneLine, denotes⟩
    exact .changed differs denotes linkOneLine item oneLine rfl

/-- A declaration is written in lines of its own, with the symbol's name in a literal where it has
another, exactly if no cell brings a line feed into them and that name needs no escapes. Its line
has a semicolon before its end exactly if a cell brings one. -/
theorem selfContained_block_iff (matcher : Matcher) (symbol : Symbol) (name : String)
    (declaration : Declaration) (selected : matcher.declaredName symbol.name = some name)
    (made : ofSymbol symbol name = .ok declaration) :
    ∃ block text : String, declaration.block = .ok block ∧
      block = declaration.linkLine ++ text ++ ";\n" ∧
      (SelfContained symbol name block.toList ↔
        (∀ part ∈ symbol.name :: declaration.unresolved, '\n' ∉ part.toList) ∧
          (name ≠ symbol.name → symbol.name.toList.all Text.isPlain = true)) ∧
      (';' ∈ text.toList ↔ ∃ part ∈ name :: declaration.unresolved, ';' ∈ part.toList) := by
  rcases exists_block made with ⟨block, written⟩
  rcases exists_itemText made with ⟨text, item, split, separators⟩
  have whole : block.toList = declaration.linkLine.toList ++ (text ++ [';', '\n']) := by
    rw [← split, characters, written]
  refine ⟨block, String.ofList text, written, ?_, ?_, ?_⟩
  · apply String.toList_injective
    simp [whole]
  · have inSymbol : '\n' ∈ name.toList → '\n' ∈ symbol.name.toList := fun member =>
      (Matcher.suffix_of_declaredName selected).subset member
    have inText := separators '\n' rfl
    rw [List.exists_mem_cons_iff] at inText
    rw [whole, List.forall_mem_cons]
    have link := (of_made made).2.2
    by_cases same : name = symbol.name
    · rw [if_pos same] at link
      rw [linkLine_of_none link, List.nil_append, selfContained_iff_of_kept same item, inText, same]
      simp
    · rw [if_neg same] at link
      rw [linkLine_append link, selfContained_iff_of_changed same item, inText]
      simp only [not_or, not_exists, not_and, ne_eq, same, not_false_eq_true, true_implies]
      constructor
      · rintro ⟨symbolFree, ⟨-, basesFree⟩, plain⟩
        exact ⟨⟨symbolFree, basesFree⟩, plain⟩
      · rintro ⟨⟨symbolFree, basesFree⟩, plain⟩
        exact ⟨symbolFree, ⟨fun member => symbolFree (inSymbol member), basesFree⟩, plain⟩
  · rw [String.toList_ofList]
    exact separators ';' rfl

/-- Line feeds around the pieces of a type do no harm. -/
theorem selfContained_block_iff_folded :
    Table.read (.ofOctets (Text.octets ("entry,status,name,type,params\n" ++
        "Function,+,furi_log,void,\"const char\n*,\n...\"\n"))) =
      .ok ⟨["entry", "status", "name", "type", "params"],
        [.ok ⟨"furi_log", .function, true, "void", "const char\n*,\n...", some 2⟩]⟩ ∧
    Matcher.declaredName ⟨some "furi_", true⟩ "furi_log" = some "log" ∧
    ∃ declaration block,
      ofSymbol ⟨"furi_log", .function, true, "void", "const char\n*,\n...", some 2⟩ "log" =
        .ok declaration ∧
      declaration.block = .ok block ∧
      SelfContained ⟨"furi_log", .function, true, "void", "const char\n*,\n...", some 2⟩ "log"
        block.toList := by
  have selected : Matcher.declaredName ⟨some "furi_", true⟩ "furi_log" = some "log" := by decide
  have made :
      ofSymbol ⟨"furi_log", .function, true, "void", "const char\n*,\n...", some 2⟩ "log" =
        .ok ⟨.function, "log", some "furi_log", none, [⟨.known ⟨"c_char", true⟩, 1⟩], true⟩ := rfl
  rcases selfContained_block_iff _ _ "log" _ selected made with
    ⟨block, -, written, -, selfContained, -⟩
  exact ⟨rfl, selected, _, block, made, written, selfContained.mpr (by decide)⟩

/-- A quote in a name ends the literal early, and a line feed in the spelling of a type starts a
second declaration. -/
theorem block_follows_cells :
    Table.read (.ofOctets (Text.octets ("entry,status,name,type\nVariable,+,\"q\"\"a\",int\n" ++
        "Variable,+,\"q\"\"b\",\"int;\npub static c: u8\"\n"))) =
      .ok ⟨["entry", "status", "name", "type"],
        [.ok ⟨"q\"a", .object, true, "int", "", some 2⟩,
          .ok ⟨"q\"b", .object, true, "int;\npub static c: u8", "", some 3⟩]⟩ ∧
    Matcher.declaredName ⟨some "q\"", true⟩ "q\"a" = some "a" ∧
    Matcher.declaredName ⟨some "q\"", true⟩ "q\"b" = some "b" ∧
    (ofSymbol ⟨"q\"a", .object, true, "int", "", some 2⟩ "a").bind block =
      .ok "#[link_name = \"q\"a\"]\npub static a: i32;\n" ∧
    ¬SelfContained ⟨"q\"a", .object, true, "int", "", some 2⟩ "a"
      "#[link_name = \"q\"a\"]\npub static a: i32;\n".toList ∧
    (ofSymbol ⟨"q\"b", .object, true, "int;\npub static c: u8", "", some 3⟩ "b").bind block =
      .ok "#[link_name = \"q\"b\"]\npub static b: int;\npub static c: u8;\n" ∧
    ¬SelfContained ⟨"q\"b", .object, true, "int;\npub static c: u8", "", some 3⟩ "b"
      "#[link_name = \"q\"b\"]\npub static b: int;\npub static c: u8;\n".toList := by
  have quoted : "a" ≠ (⟨"q\"a", .object, true, "int", "", some 2⟩ : Symbol).name := by decide
  have broken : "b" ≠
      (⟨"q\"b", .object, true, "int;\npub static c: u8", "", some 3⟩ : Symbol).name := by decide
  refine ⟨rfl, by decide, by decide, rfl, ?_, rfl, ?_⟩
  · refine mt (selfContained_iff_of_changed quoted (.object rfl "a: i32".toList)).mp ?_
    decide
  · refine mt (selfContained_iff_of_changed broken
      (.object rfl "b: int;\npub static c: u8".toList)).mp ?_
    decide

end Declaration

end SymbolBindings
