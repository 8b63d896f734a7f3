import SymbolBindings.Proofs.Declaration.StrayCommas
import SymbolBindings.Proofs.HostType.Decomposition
import SymbolBindings.Proofs.Text.Parentheses

/-! # Commas inside parentheses

A parameter list is cut at every comma, those between the parentheses of one spelling included. So a
list of spellings comes out with its parameters whole and in the right number as long as none of the
spellings has a comma of its own. Any that has one is cut: its first piece keeps a parenthesis open,
its last one closes it, and there are more parameters than spellings.
-/

namespace SymbolBindings

/-! ## Bases -/

theorem Primitive.isBalanced_of_mem_table {spelling : String} {primitive : Primitive}
    (member : (spelling, primitive) ∈ table) :
    Text.IsBalanced spelling.toList ∧ Text.IsBalanced primitive.name.toList := by
  have each : ∀ entry ∈ table,
      Text.IsBalanced entry.1.toList ∧ Text.IsBalanced entry.2.name.toList := by decide
  exact each _ member

theorem Base.isBalanced_name_ofSpelling {spelling : String} :
    Text.IsBalanced (ofSpelling spelling).name.toList ↔ Text.IsBalanced spelling.toList := by
  cases found : Primitive.lookup spelling with
  | some primitive =>
      have listed := Primitive.isBalanced_of_mem_table (Primitive.exists_mem_table found)
      simp only [ofSpelling, found, name, listed]
  | none => simp only [ofSpelling, found, name]

namespace HostType

/-- Pointer markers and blanks are no parentheses, so the base of a spelling has all of them. -/
theorem isBalanced_base_resolve {spelling : String} :
    Text.IsBalanced (resolve spelling).base.name.toList ↔ Text.IsBalanced spelling.toList := by
  have plainTail : ∀ character ∈ (tailSpelling spelling).toList,
      ¬Text.IsParenthesis character := by
    intro character member
    rcases markers_tailSpelling spelling character member with rfl | blank
    · decide
    · exact Text.not_isParenthesis_of_isBlank blank
  have trimmed : Text.trimBy Text.isBlank spelling.toList =
      (baseSpelling spelling).toList ++ (tailSpelling spelling).toList := by
    rw [← Text.toList_trim, trim_eq_append, String.toList_append]
  have shortened := Text.isBalanced_append_plain (List.forall_mem_nil _) plainTail
    (baseSpelling spelling).toList
  rw [List.nil_append, ← trimmed, Text.isBalanced_trimBy_iff] at shortened
  rw [base_resolve, Base.isBalanced_name_ofSpelling, shortened]

end HostType

namespace Parameters

/-! ## One spelling -/

/-- The spelling of one parameter: trimmed, with balanced parentheses, and with every comma in it
inside of some. -/
structure IsGrouped (spelling : String) : Prop where
  nonempty : spelling ≠ ""
  trimmed : Text.trim spelling = spelling
  balanced : Text.IsBalanced spelling.toList
  inner : Text.outerCommas 0 spelling.toList = 0

instance (spelling : String) : Decidable (IsGrouped spelling) :=
  decidable_of_iff
    (spelling ≠ "" ∧ Text.trim spelling = spelling ∧ Text.IsBalanced spelling.toList ∧
      Text.outerCommas 0 spelling.toList = 0)
    ⟨fun parts => ⟨parts.1, parts.2.1, parts.2.2.1, parts.2.2.2⟩,
      fun grouped => ⟨grouped.nonempty, grouped.trimmed, grouped.balanced, grouped.inner⟩⟩

/-- The ellipsis and the word for no parameters are spelled like parameters. -/
example : IsGrouped "..." ∧ IsGrouped "void" ∧ IsGrouped "int (*)(void*, char*, int)" := by decide

theorem IsGrouped.isItem {spelling : String} (grouped : IsGrouped spelling)
    (whole : ',' ∉ spelling.toList) : IsItem spelling :=
  ⟨grouped.nonempty, grouped.trimmed, whole⟩

theorem spellings_of_mem {piece : List Char} (whole : ',' ∉ piece) {character : Char}
    (member : character ∈ piece) (solid : Text.isBlank character = false) :
    spellings piece = [Text.trimBy Text.isBlank piece] ∧
      character ∈ Text.trimBy Text.isBlank piece := by
  rcases Text.exists_trimBy Text.isBlank piece with
    ⟨before, after, split, blankBefore, blankAfter⟩
  have kept : character ∈ Text.trimBy Text.isBlank piece := by
    rw [split, List.mem_append, List.mem_append] at member
    rcases member with (inBefore | inside) | inAfter
    · exact absurd (blankBefore character inBefore) (by rw [solid]; decide)
    · exact inside
    · exact absurd (blankAfter character inAfter) (by rw [solid]; decide)
  refine ⟨?_, kept⟩
  rw [spellings_of_notMem whole]
  simp [List.ne_nil_of_mem kept]

/-- What follows an open parenthesis is cut into pieces of which the last has a closing one. -/
theorem exists_closing_spelling {opened : Nat} (text : List Char)
    (closed : Text.openAfter (opened + 1) text = some 0)
    (inner : Text.outerCommas (opened + 1) text = 0) :
    ∃ front last, spellings text = front ++ [last] ∧ ')' ∈ last := by
  -- Behind each comma the parenthesis is still open, and the part there is shorter.
  by_cases cut : ',' ∈ text
  · rcases List.append_of_mem cut with ⟨left, right, rfl⟩
    rcases Text.exists_opened_at_comma closed inner with ⟨outer, -, closedBehind, innerBehind⟩
    rcases exists_closing_spelling right closedBehind innerBehind with
      ⟨front, last, found, closing⟩
    refine ⟨spellings left ++ front, last, ?_, closing⟩
    rw [spellings_append_comma, found, List.append_assoc]
  · have closing := Text.closing_mem_of_openAfter closed
    rcases spellings_of_mem cut closing (by decide) with ⟨found, kept⟩
    exact ⟨[], _, found, kept⟩
termination_by text.length

/-- A comma of its own cuts the spelling, and it does so inside parentheses. -/
theorem IsGrouped.exists_cut {spelling : String} (grouped : IsGrouped spelling)
    (cut : ',' ∈ spelling.toList) :
    ∃ first middle last, spellings spelling.toList = first :: (middle ++ [last]) ∧
      ¬Text.IsBalanced first ∧ ')' ∈ last := by
  rcases List.eq_append_cons_of_mem cut with ⟨left, right, split, whole⟩
  have closed := grouped.balanced
  have inner := grouped.inner
  rw [Text.IsBalanced, split] at closed
  rw [split] at inner
  rcases Text.exists_opened_at_comma closed inner with
    ⟨outer, opened, closedBehind, innerBehind⟩
  rcases exists_closing_spelling right closedBehind innerBehind with
    ⟨middle, last, found, closing⟩
  have unbalanced : ¬Text.IsBalanced (Text.trimBy Text.isBlank left) := by
    rw [Text.isBalanced_trimBy_iff, Text.IsBalanced, opened]
    simp
  have something : Text.trimBy Text.isBlank left ≠ [] := by
    intro nothing
    rw [nothing] at unbalanced
    exact unbalanced rfl
  refine ⟨Text.trimBy Text.isBlank left, middle, last, ?_, unbalanced, closing⟩
  rw [split, spellings_append_comma, found, spellings_of_notMem whole]
  simp [something]

theorem IsGrouped.one_le_spellings {spelling : String} (grouped : IsGrouped spelling) :
    1 ≤ (spellings spelling.toList).length ∧
      ((spellings spelling.toList).length = 1 ↔ ',' ∉ spelling.toList) := by
  by_cases cut : ',' ∈ spelling.toList
  · rcases grouped.exists_cut cut with ⟨first, middle, last, found, -⟩
    simp [found, cut]
  · simp [(grouped.isItem cut).spellings_eq, cut]

theorem IsGrouped.getLast?_spellings {spelling : String} (grouped : IsGrouped spelling)
    (before : List (List Char)) :
    (before ++ spellings spelling.toList).getLast? = some ellipsis ↔ spelling = "..." := by
  by_cases cut : ',' ∈ spelling.toList
  · rcases grouped.exists_cut cut with ⟨first, middle, last, found, -, closing⟩
    have notEllipsis : last ≠ ellipsis := by
      rintro rfl
      exact absurd closing (by decide)
    have notDots : spelling ≠ "..." := by
      rintro rfl
      exact absurd cut (by decide)
    rw [found, ← List.cons_append, ← List.append_assoc, List.getLast?_concat]
    simp [notEllipsis, notDots]
  · rw [(grouped.isItem cut).spellings_eq, List.getLast?_concat, Option.some.injEq,
      ← String.toList_inj]
    rfl

/-! ## All spellings -/

theorem flatMap_items (spelled : List String) :
    spelled.flatMap items = (pieces spelled).map String.ofList := by
  rw [pieces, List.map_flatMap]
  exact List.flatMap_congr fun spelling _ => items_eq spelling

section Lists

variable {items : List String} (each : ∀ spelling ∈ items, IsGrouped spelling)

include each

theorem length_le_pieces :
    items.length ≤ (pieces items).length ∧
      ((pieces items).length = items.length ↔ ∀ spelling ∈ items, ',' ∉ spelling.toList) := by
  induction items with
  | nil => simp [pieces]
  | cons spelling rest induction =>
      rcases List.forall_mem_cons.mp each with ⟨grouped, others⟩
      rcases grouped.one_le_spellings with ⟨atLeastOne, oneIff⟩
      rcases induction others with ⟨atLeast, sameIff⟩
      rw [pieces_cons, List.length_append, List.length_cons, List.forall_mem_cons, ← oneIff,
        ← sameIff]
      omega

theorem getLast?_pieces :
    (pieces items).getLast? = some ellipsis ↔ items.getLast? = some "..." := by
  rcases List.eq_nil_or_concat items with rfl | ⟨front, last, rfl⟩
  · simp [pieces]
  · have grouped : IsGrouped last := each last (by simp)
    rw [List.concat_eq_append, pieces_append_singleton, grouped.getLast?_spellings,
      List.getLast?_concat, Option.some.injEq]

theorem Joins.trim_eq_void_iff_of_isGrouped {text : String} (joined : Joins items text) :
    Text.trim text = "void" ↔ items = ["void"] := by
  constructor
  · intro void
    have alone : pieces items = ["void".toList] := by
      rw [← joined.spellings_eq_pieces, ← spellings_trim, void]
      decide
    have nonempty : items ≠ [] := by
      rintro rfl
      cases alone
    have atLeastOne := List.length_pos_iff.mpr nonempty
    rcases length_le_pieces each with ⟨atMostOne, sameIff⟩
    rw [alone, List.length_singleton] at atMostOne sameIff
    have whole : ∀ spelling ∈ items, ',' ∉ spelling.toList := sameIff.mp (by omega)
    have listed : ∀ spelling ∈ items, IsItem spelling := fun spelling member =>
      (each spelling member).isItem (whole spelling member)
    exact (joined.trim_eq_void_iff listed).mp void
  · rintro rfl
    exact (joined.trim_eq_void_iff (by decide)).mpr rfl

end Lists

/-! ## Counting -/

theorem IsGrouped.outerCommas_eq_zero {spelling : String} (grouped : IsGrouped spelling)
    {before after : List Char}
    (blankBefore : ∀ character ∈ before, Text.isBlank character = true)
    (blankAfter : ∀ character ∈ after, Text.isBlank character = true) :
    Text.IsBalanced (before ++ spelling.toList ++ after) ∧
      Text.outerCommas 0 (before ++ spelling.toList ++ after) = 0 := by
  have plainBefore := Text.plain_of_blank blankBefore
  have plainAfter := Text.plain_of_blank blankAfter
  refine ⟨(Text.isBalanced_append_plain plainBefore plainAfter _).mpr grouped.balanced, ?_⟩
  rw [List.append_assoc, Text.outerCommas_append (Text.openAfter_of_plain plainBefore 0),
    Text.outerCommas_append grouped.balanced, grouped.inner,
    Text.outerCommas_of_notMem (comma_notMem_of_blank blankBefore),
    Text.outerCommas_of_notMem (comma_notMem_of_blank blankAfter)]

/-- The commas outside all parentheses are those that join the spellings. -/
theorem Joins.length_eq_outerCommas {items : List String} {text : String}
    (joined : Joins items text) (each : ∀ spelling ∈ items, IsGrouped spelling)
    (nonempty : items ≠ []) : items.length = Text.outerCommas 0 text.toList + 1 := by
  induction joined with
  | nothing => exact absurd rfl nonempty
  | last spelling blankBefore blankAfter =>
      have grouped := each spelling (List.mem_singleton_self _)
      rw [String.toList_append, String.toList_append,
        (grouped.outerCommas_eq_zero blankBefore blankAfter).2]
      rfl
  | @more before after text second rest spelling blankBefore blankAfter joined induction =>
      rcases List.forall_mem_cons.mp each with ⟨grouped, others⟩
      rcases grouped.outerCommas_eq_zero blankBefore blankAfter with ⟨balanced, none⟩
      have cut : (before ++ spelling ++ after ++ "," ++ text).toList =
          before.toList ++ spelling.toList ++ after.toList ++ ',' :: text.toList := by
        simp
      have comma : Text.outerCommas 0 (',' :: text.toList) =
          1 + Text.outerCommas 0 text.toList := rfl
      rw [cut, Text.outerCommas_append balanced, none, comma, List.length_cons,
        induction others (List.cons_ne_nil _ _)]
      omega

/-- The number of parameters among the spellings. The ellipsis at the end is none, and neither is
the word `void` where it stands alone. -/
def arity (items : List String) : Nat :=
  if items = ["void"] then 0
  else if items.getLast? = some "..." then items.length - 1
  else items.length

example : arity ["void", "int (*)(void*, char*)", "..."] = 2 := by decide

theorem length_types_ofSpellings (spellings : List (List Char)) :
    (ofSpellings spellings).types.length =
      if spellings.getLast? = some ellipsis then spellings.length - 1 else spellings.length := by
  by_cases ends : spellings.getLast? = some ellipsis <;> simp [ofSpellings, ends]

section Resolved

variable {items : List String} {text : String} (joined : Joins items text)
  (each : ∀ spelling ∈ items, IsGrouped spelling)

include joined each

theorem Joins.resolve_eq :
    resolve text = if items = ["void"] then empty else ofSpellings (pieces items) := by
  rw [Parameters.resolve_eq, joined.spellings_eq_pieces]
  simp only [joined.trim_eq_void_iff_of_isGrouped each]

/-- Commas inside parentheses make more parameters, and nothing makes fewer. -/
theorem Joins.arity_le_length :
    arity items ≤ (resolve text).types.length ∧
      ((resolve text).types.length = arity items ↔ ∀ spelling ∈ items, ',' ∉ spelling.toList) := by
  rw [joined.resolve_eq each]
  by_cases void : items = ["void"]
  · subst void
    decide
  · rcases length_le_pieces each with ⟨atLeast, sameIff⟩
    rw [if_neg void, length_types_ofSpellings, arity, if_neg void, ← sameIff]
    simp only [getLast?_pieces each]
    by_cases ends : items.getLast? = some "..."
    · have nonempty := List.length_pos_iff.mpr (List.ne_nil_of_mem (List.mem_of_getLast? ends))
      rw [if_pos ends, if_pos ends]
      omega
    · rw [if_neg ends, if_neg ends]
      exact ⟨atLeast, Iff.rfl⟩

/-- The first piece of a cut spelling is a parameter, and its base keeps a parenthesis open. -/
theorem Joins.isBalanced_iff :
    (∀ type ∈ (resolve text).types, Text.IsBalanced type.base.name.toList) ↔
      ∀ spelling ∈ items, ',' ∉ spelling.toList := by
  rw [joined.resolve_eq each]
  by_cases void : items = ["void"]
  · subst void
    decide
  rw [if_neg void]
  rcases exists_positional (pieces items) with ⟨positional, whole, -, types⟩
  rw [types]
  simp only [List.forall_mem_map, HostType.isBalanced_base_resolve, String.toList_ofList]
  constructor
  · intro balanced spelling member cut
    rcases (each spelling member).exists_cut cut with
      ⟨first, middle, last, found, unbalanced, -⟩
    have listed : first ∈ pieces items :=
      mem_pieces.mpr ⟨spelling, member, by simp [found]⟩
    have notEllipsis : first ≠ ellipsis := by
      rintro rfl
      exact unbalanced (by decide)
    rw [whole, List.mem_append] at listed
    rcases listed with inside | atEnd
    · exact unbalanced (balanced first inside)
    · split at atEnd
      case isTrue => exact notEllipsis (List.mem_singleton.mp atEnd)
      case isFalse => cases atEnd
  · intro uncut piece inside
    have listed : piece ∈ pieces items := by
      rw [whole]
      exact List.mem_append_left _ inside
    rcases mem_pieces.mp listed with ⟨spelling, member, found⟩
    have grouped := each spelling member
    rw [(grouped.isItem (uncut spelling member)).spellings_eq] at found
    rw [List.mem_singleton.mp found]
    exact grouped.balanced

end Resolved

end Parameters

namespace Declaration

/-- A list of spellings, with balanced parentheses and joined by commas outside of them, declares
what stands between the commas of the spellings. The parameters are as many as the spellings, and
their bases are balanced, exactly if no spelling has a comma. -/
theorem ofSymbol_joins_groups (symbol : Symbol) (name : String) (items : List String)
    (function : symbol.kind = .function)
    (each : ∀ spelling ∈ items, Parameters.IsGrouped spelling)
    (joined : Parameters.Joins items symbol.parameters) :
    (items ≠ [] → items.length = Text.outerCommas 0 symbol.parameters.toList + 1) ∧
    ∃ declaration, ofSymbol symbol name = .ok declaration ∧
      (items ≠ ["void"] → ∃ positional,
        items.flatMap Parameters.items =
          positional ++ (if declaration.variadic then ["..."] else []) ∧
        (declaration.variadic = true ↔ items.getLast? = some "...") ∧
        declaration.parameters = positional.map HostType.resolve) ∧
      Parameters.arity items ≤ declaration.parameters.length ∧
      (declaration.parameters.length = Parameters.arity items ↔
        ∀ spelling ∈ items, ',' ∉ spelling.toList) ∧
      ((∀ type ∈ declaration.parameters, Text.IsBalanced type.base.name.toList) ↔
        ∀ spelling ∈ items, ',' ∉ spelling.toList) := by
  rcases exists_ofSymbol_of_function function name with ⟨declaration, made, parameters, variadic⟩
  refine ⟨joined.length_eq_outerCommas each, declaration, made, ?_, ?_, ?_, ?_⟩
  · intro listed
    rw [parameters, variadic, joined.resolve_eq each, if_neg listed]
    rcases Parameters.exists_positional (Parameters.pieces items) with
      ⟨positional, whole, ends, types⟩
    refine ⟨positional.map String.ofList, ?_, ?_, ?_⟩
    · have spelled := congrArg (List.map String.ofList) whole
      rw [← Parameters.flatMap_items, List.map_append, apply_ite (List.map String.ofList)]
        at spelled
      exact spelled
    · rw [ends, Parameters.getLast?_pieces each]
    · rw [types, List.map_map]
      rfl
  · rw [parameters]
    exact (joined.arity_le_length each).1
  · rw [parameters]
    exact (joined.arity_le_length each).2
  · rw [parameters]
    exact joined.isBalanced_iff each

/-- Groups without commas are kept together, groups within groups too. -/
theorem ofSymbol_joins_groups_nested :
    (⟨"f", .function, true, "int", "const char*, int (*(*)(void))(char*), ...", none⟩ :
        Symbol).kind = .function ∧
      (∀ spelling ∈ ["const char*", "int (*(*)(void))(char*)", "..."],
        Parameters.IsGrouped spelling) ∧
      Parameters.Joins ["const char*", "int (*(*)(void))(char*)", "..."]
        "const char*, int (*(*)(void))(char*), ..." ∧
      ∃ declaration,
        ofSymbol ⟨"f", .function, true, "int", "const char*, int (*(*)(void))(char*), ...", none⟩
          "f" = .ok declaration ∧
        declaration.parameters.length = 2 ∧
        ∀ type ∈ declaration.parameters, Text.IsBalanced type.base.name.toList := by
  have each : ∀ spelling ∈ ["const char*", "int (*(*)(void))(char*)", "..."],
      Parameters.IsGrouped spelling := by
    decide
  have nothing : ∀ character ∈ "".toList, Text.isBlank character = true :=
    List.all_eq_true.mp (by decide)
  have space : ∀ character ∈ " ".toList, Text.isBlank character = true :=
    List.all_eq_true.mp (by decide)
  have joined : Parameters.Joins ["const char*", "int (*(*)(void))(char*)", "..."]
      "const char*, int (*(*)(void))(char*), ..." :=
    .more "const char*" nothing nothing
      (.more "int (*(*)(void))(char*)" space nothing (.last "..." space nothing))
  rcases ofSymbol_joins_groups
      ⟨"f", .function, true, "int", "const char*, int (*(*)(void))(char*), ...", none⟩ "f" _ rfl
      each joined with
    ⟨-, declaration, made, -, -, countIff, balancedIff⟩
  have uncut : ∀ spelling ∈ ["const char*", "int (*(*)(void))(char*)", "..."],
      ',' ∉ spelling.toList := by
    decide
  exact ⟨rfl, each, joined, declaration, made, countIff.mpr uncut, balancedIff.mpr uncut⟩

/-- The one parameter of the list is cut at both of its commas and declared as three, of which the
middle one passes for a type by itself. -/
theorem ofSymbol_cuts_function_pointer :
    Parameters.IsGrouped "int (*)(void*, char*, int)" ∧
      Parameters.Joins ["int (*)(void*, char*, int)"] "int (*)(void*, char*, int)" ∧
      Text.outerCommas 0 "int (*)(void*, char*, int)".toList = 0 ∧
      Parameters.arity ["int (*)(void*, char*, int)"] = 1 ∧
      ∃ declaration,
        ofSymbol ⟨"f", .function, true, "void", "int (*)(void*, char*, int)", none⟩ "f" =
          .ok declaration ∧
        declaration.parameters =
          [⟨.unresolved "int (*)(void", 1⟩, ⟨.unresolved "char", 1⟩, ⟨.unresolved "int)", 0⟩] ∧
        declaration.parameters.length ≠ 1 ∧
        (¬∀ type ∈ declaration.parameters, Text.IsBalanced type.base.name.toList) ∧
        declaration.block =
          .ok "pub fn f(_arg0: *mut int (*)(void, _arg1: *mut char, _arg2: int));\n" := by
  have nothing : ∀ character ∈ "".toList, Text.isBlank character = true :=
    List.all_eq_true.mp (by decide)
  have joined :
      Parameters.Joins ["int (*)(void*, char*, int)"] "int (*)(void*, char*, int)" :=
    .last "int (*)(void*, char*, int)" nothing nothing
  exact ⟨by decide, joined, by decide, by decide, _, rfl, by decide, by decide, by decide,
    by decide⟩

end Declaration

end SymbolBindings
