import SymbolBindings.Proofs.Declaration.Block
import SymbolBindings.Proofs.Text.Blank

/-! # Parameter lists

A list is cut at its commas, and blanks around it or around its pieces are of no account. So what
was joined by commas is found again piece by piece, and it is written in the order it was found.
-/

namespace SymbolBindings

theorem HostType.resolve_trim (spelling : String) :
    resolve (Text.trim spelling) = resolve spelling := by
  simp only [resolve, Text.toList_trim, Text.trimBy_trimBy fun _ blank => blank]

namespace Parameters

/-! ## Cutting a list -/

theorem spellings_append_comma (left right : List Char) :
    spellings (left ++ ',' :: right) = spellings left ++ spellings right := by
  simp [spellings, List.splitOn_append_cons_self]

theorem spellings_of_notMem {piece : List Char} (whole : ',' ∉ piece) :
    spellings piece = [Text.trimBy Text.isBlank piece].filter (! ·.isEmpty) := by
  rw [spellings, List.splitOn_eq_singleton whole, List.map_singleton]

theorem comma_notMem_of_blank {blanks : List Char}
    (blank : ∀ character ∈ blanks, Text.isBlank character = true) : ',' ∉ blanks := by
  intro member
  exact absurd (blank ',' member) (by decide)

theorem spellings_append_blank {before after : List Char}
    (blankBefore : ∀ character ∈ before, Text.isBlank character = true)
    (blankAfter : ∀ character ∈ after, Text.isBlank character = true) (text : List Char) :
    spellings (before ++ text ++ after) = spellings text := by
  -- Of a text with a comma, the blanks before it go to its left part and those after it to its
  -- right part, and both parts are shorter.
  by_cases cut : ',' ∈ text
  · rcases List.append_of_mem cut with ⟨left, right, rfl⟩
    have leftSame := spellings_append_blank blankBefore (List.forall_mem_nil _) left
    have rightSame := spellings_append_blank (List.forall_mem_nil _) blankAfter right
    rw [List.append_nil] at leftSame
    rw [List.nil_append] at rightSame
    rw [← List.append_assoc, List.append_assoc, List.cons_append, spellings_append_comma,
      spellings_append_comma, leftSame, rightSame]
  · have whole : ',' ∉ before ++ text ++ after := by
      simp [cut, comma_notMem_of_blank blankBefore, comma_notMem_of_blank blankAfter]
    rw [spellings_of_notMem whole, spellings_of_notMem cut,
      Text.trimBy_append_blank blankBefore blankAfter]
termination_by text.length

theorem spellings_trim (text : String) :
    spellings (Text.trim text).toList = spellings text.toList := by
  rcases Text.exists_trimBy Text.isBlank text.toList with
    ⟨before, after, split, blankBefore, blankAfter⟩
  conv => rhs; rw [split]
  rw [spellings_append_blank blankBefore blankAfter, Text.toList_trim]

/-- Blank lists need no case of their own, because they have no pieces. -/
theorem resolve_eq (text : String) :
    resolve text =
      if Text.trim text = "void" then empty else ofSpellings (spellings text.toList) := by
  rw [resolve, spellings_trim]
  by_cases nothing : Text.trim text = ""
  · rw [← spellings_trim, nothing]
    rfl
  · simp [nothing]

/-! ## Joining a list -/

/-- A spelling that stands in a list by itself: it is neither cut nor trimmed, nor left out. -/
structure IsItem (spelling : String) : Prop where
  nonempty : spelling ≠ ""
  trimmed : Text.trim spelling = spelling
  whole : ',' ∉ spelling.toList

instance (spelling : String) : Decidable (IsItem spelling) :=
  decidable_of_iff (spelling ≠ "" ∧ Text.trim spelling = spelling ∧ ',' ∉ spelling.toList)
    ⟨fun parts => ⟨parts.1, parts.2.1, parts.2.2⟩,
      fun item => ⟨item.nonempty, item.trimmed, item.whole⟩⟩

/-- The text joins the spellings by one comma each, with any blanks around them. -/
inductive Joins : List String → String → Prop
  | nothing {blanks : String}
      (blank : ∀ character ∈ blanks.toList, Text.isBlank character = true) : Joins [] blanks
  | last {before after : String} (spelling : String)
      (blankBefore : ∀ character ∈ before.toList, Text.isBlank character = true)
      (blankAfter : ∀ character ∈ after.toList, Text.isBlank character = true) :
      Joins [spelling] (before ++ spelling ++ after)
  | more {before after text : String} {second : String} {rest : List String} (spelling : String)
      (blankBefore : ∀ character ∈ before.toList, Text.isBlank character = true)
      (blankAfter : ∀ character ∈ after.toList, Text.isBlank character = true)
      (joined : Joins (second :: rest) text) :
      Joins (spelling :: second :: rest) (before ++ spelling ++ after ++ "," ++ text)

theorem spellings_of_blank {blanks : List Char}
    (blank : ∀ character ∈ blanks, Text.isBlank character = true) : spellings blanks = [] := by
  have same := spellings_append_blank blank (List.forall_mem_nil _) []
  rwa [List.append_nil, List.append_nil] at same

theorem IsItem.spellings_eq {spelling : String} (item : IsItem spelling) :
    spellings spelling.toList = [spelling.toList] := by
  have trimmed := congrArg String.toList item.trimmed
  rw [Text.toList_trim] at trimmed
  rw [spellings_of_notMem item.whole, trimmed]
  simp [item.nonempty]

/-- What the spellings are cut into, one after the other. -/
def pieces (items : List String) : List (List Char) :=
  items.flatMap fun spelling => spellings spelling.toList

theorem pieces_cons (spelling : String) (rest : List String) :
    pieces (spelling :: rest) = spellings spelling.toList ++ pieces rest :=
  List.flatMap_cons

theorem pieces_append_singleton (front : List String) (last : String) :
    pieces (front ++ [last]) = pieces front ++ spellings last.toList := by
  rw [pieces, List.flatMap_append, List.flatMap_singleton]
  rfl

theorem mem_pieces {items : List String} {piece : List Char} :
    piece ∈ pieces items ↔ ∃ spelling ∈ items, piece ∈ spellings spelling.toList :=
  List.mem_flatMap

/-- A joined list is cut as its spellings are. -/
theorem Joins.spellings_eq_pieces {items : List String} {text : String}
    (joined : Joins items text) : spellings text.toList = pieces items := by
  induction joined with
  | nothing blank => exact spellings_of_blank blank
  | last spelling blankBefore blankAfter =>
      rw [String.toList_append, String.toList_append,
        spellings_append_blank blankBefore blankAfter, pieces, List.flatMap_singleton]
  | @more before after text second rest spelling blankBefore blankAfter joined induction =>
      have cut : (before ++ spelling ++ after ++ "," ++ text).toList =
          before.toList ++ spelling.toList ++ after.toList ++ ',' :: text.toList := by
        simp
      rw [cut, spellings_append_comma, spellings_append_blank blankBefore blankAfter, induction,
        pieces_cons spelling]

/-- What was joined is found again, piece by piece. -/
theorem Joins.spellings_eq {items : List String} {text : String} (joined : Joins items text)
    (each : ∀ spelling ∈ items, IsItem spelling) :
    spellings text.toList = items.map String.toList := by
  rw [joined.spellings_eq_pieces, pieces, List.map_eq_flatMap]
  exact List.flatMap_congr fun spelling member => (each spelling member).spellings_eq

/-- Only the single word `void` reads as the word for no parameters. -/
theorem Joins.trim_eq_void_iff {items : List String} {text : String} (joined : Joins items text)
    (each : ∀ spelling ∈ items, IsItem spelling) :
    Text.trim text = "void" ↔ items = ["void"] := by
  constructor
  · intro void
    have found := joined.spellings_eq each
    rw [← spellings_trim, void] at found
    have alone : spellings "void".toList = ["void".toList] := by decide
    rw [alone] at found
    exact List.map_injective_iff.mpr (fun _ _ => String.toList_inj.mp) found.symm
  · rintro rfl
    cases joined with
    | last _ blankBefore blankAfter =>
        rw [Text.trim, String.toList_append, String.toList_append,
          Text.trimBy_append_blank blankBefore blankAfter]
        decide

/-! ## The end of a list -/

/-- An ellipsis counts only where it ends the list, and then it is no parameter. -/
theorem exists_positional (spellings : List (List Char)) :
    ∃ positional,
      spellings = positional ++ (if (ofSpellings spellings).variadic then [ellipsis] else []) ∧
      ((ofSpellings spellings).variadic = true ↔ spellings.getLast? = some ellipsis) ∧
      (ofSpellings spellings).types =
        positional.map fun spelling => .resolve (String.ofList spelling) := by
  by_cases ends : spellings.getLast? = some ellipsis
  · have variadic : (spellings.getLast? == some ellipsis) = true := beq_iff_eq.mpr ends
    refine ⟨spellings.dropLast, ?_, ?_, ?_⟩
    · simp only [ofSpellings, variadic, if_true]
      exact (List.dropLast_append_getLast? ellipsis ends).symm
    · simp [ofSpellings, ends]
    · simp [ofSpellings, ends]
  · refine ⟨spellings, ?_, ?_, ?_⟩ <;> simp [ofSpellings, ends]

theorem mem_positional_iff {spellings positional : List (List Char)} {variadic : Bool}
    (whole : spellings = positional ++ if variadic then [ellipsis] else [])
    (ends : variadic = true ↔ spellings.getLast? = some ellipsis) {spelling : List Char} :
    spelling ∈ positional ↔
      ∃ front rest, spellings = front ++ spelling :: rest ∧
        (spelling = ellipsis → rest ≠ []) := by
  constructor
  · intro member
    rcases List.append_of_mem member with ⟨front, rest, rfl⟩
    rw [List.append_assoc, List.cons_append] at whole
    refine ⟨front, _, whole, ?_⟩
    -- With nothing behind it an ellipsis would be the last one, which is no parameter.
    intro isEllipsis nothing
    have ended := ends.mpr (by rw [whole, nothing, List.getLast?_concat, isEllipsis])
    simp [ended] at nothing
  · rintro ⟨front, rest, split, inner⟩
    cases variadic with
    | false =>
        rw [if_neg Bool.false_ne_true, List.append_nil] at whole
        simp [← whole, split]
    | true =>
        rw [if_pos rfl] at whole
        have dropped := congrArg List.dropLast (whole.symm.trans split)
        rw [List.dropLast_concat] at dropped
        cases rest with
        | nil =>
            have last := ends.mp rfl
            rw [split, List.getLast?_concat, Option.some.injEq] at last
            exact absurd rfl (inner last)
        | cons next others => simp [dropped]

/-! ## Parameters in a list -/

/-- The pieces of a list that are left after it was cut. -/
def kept (pieces : List (List Char)) : List (List Char) :=
  (pieces.map (Text.trimBy Text.isBlank)).filter (! ·.isEmpty)

theorem spellings_eq_kept (text : List Char) : spellings text = kept (text.splitOn ',') := rfl

theorem kept_append_cons {before after : List (List Char)} {piece : List Char}
    (something : Text.trimBy Text.isBlank piece ≠ []) :
    kept (before ++ piece :: after) =
      kept before ++ Text.trimBy Text.isBlank piece :: kept after := by
  simp [kept, something]

theorem kept_ne_nil_iff {pieces : List (List Char)} :
    kept pieces ≠ [] ↔ ∃ piece ∈ pieces, Text.trimBy Text.isBlank piece ≠ [] := by
  simp [kept]

theorem exists_of_kept_eq_append_cons {pieces front rest : List (List Char)} {spelling : List Char}
    (found : kept pieces = front ++ spelling :: rest) :
    ∃ before piece after, pieces = before ++ piece :: after ∧
      Text.trimBy Text.isBlank piece = spelling ∧ spelling ≠ [] ∧ kept after = rest := by
  rcases List.filter_eq_append_iff.mp found with ⟨left, right, split, -, keptRight⟩
  rcases List.filter_eq_cons_iff.mp keptRight with
    ⟨skipped, others, rightSplit, -, something, keptOthers⟩
  rw [rightSplit, ← List.append_assoc] at split
  rcases List.map_eq_append_iff.mp split with ⟨before, behind, rfl, -, trimmed⟩
  rcases List.map_eq_cons_iff.mp trimmed with ⟨piece, after, rfl, same, trimmedAfter⟩
  refine ⟨before, piece, after, rfl, same, by simpa using something, ?_⟩
  rw [kept, trimmedAfter, keptOthers]

theorem trim_ne_empty_iff {spelling : String} :
    Text.trim spelling ≠ "" ↔ Text.trimBy Text.isBlank spelling.toList ≠ [] := by
  rw [Text.trim, ne_eq, String.ofList_eq_empty_iff]

theorem trim_eq_ellipsis_iff {spelling : String} :
    Text.trim spelling = "..." ↔ Text.trimBy Text.isBlank spelling.toList = ellipsis := by
  rw [← String.toList_inj, Text.toList_trim]
  rfl

/-- The spelling stands in the list as a parameter: between two commas or at an end, with more than
blanks in it, and not as the ellipsis that ends the list. -/
def IsPositional (text spelling : String) : Prop :=
  ∃ before after, text.toList.splitOn ',' = before ++ spelling.toList :: after ∧
    Text.trim spelling ≠ "" ∧
    (Text.trim spelling = "..." → ∃ later ∈ after, Text.trimBy Text.isBlank later ≠ [])

theorem mem_types_resolve_iff {text : String} {type : HostType} :
    type ∈ (resolve text).types ↔
      Text.trim text ≠ "void" ∧
        ∃ spelling, IsPositional text spelling ∧ HostType.resolve spelling = type := by
  rw [resolve_eq]
  by_cases void : Text.trim text = "void"
  · simp [void, empty]
  rcases exists_positional (spellings text.toList) with ⟨positional, whole, ends, types⟩
  rw [if_neg void, types, List.mem_map, and_iff_right void]
  simp only [mem_positional_iff whole ends, spellings_eq_kept]
  constructor
  · rintro ⟨_, ⟨front, rest, found, inner⟩, resolved⟩
    rcases exists_of_kept_eq_append_cons found with
      ⟨before, piece, after, cut, rfl, something, rfl⟩
    refine ⟨String.ofList piece, ⟨before, after, ?_, ?_, ?_⟩, ?_⟩
    · rwa [String.toList_ofList]
    · rwa [trim_ne_empty_iff, String.toList_ofList]
    · rw [trim_eq_ellipsis_iff, String.toList_ofList, ← kept_ne_nil_iff]
      exact inner
    · rw [← HostType.resolve_trim, Text.trim, String.toList_ofList]
      exact resolved
  · rintro ⟨spelling, ⟨before, after, cut, something, inner⟩, resolved⟩
    rw [trim_ne_empty_iff] at something
    rw [trim_eq_ellipsis_iff, ← kept_ne_nil_iff] at inner
    refine ⟨_, ⟨kept before, kept after, ?_, inner⟩, ?_⟩
    · rw [cut, kept_append_cons something]
    · rwa [← Text.trim, HostType.resolve_trim]

end Parameters

/-! ## Written parameters -/

namespace Declaration

def argumentName (number : Nat) : String :=
  "_arg" ++ toString number

theorem argumentName_injective : Function.Injective argumentName := by
  intro left right same
  have digits := congrArg String.toList same
  simp only [argumentName, String.toList_append, List.append_cancel_left_eq,
    Nat.toString_eq_repr, Nat.toList_repr] at digits
  have numbers := congrArg (Nat.ofDigitChars 10 · 0) digits
  simpa only [Nat.ofDigitChars_ten_toDigits] using numbers

theorem argumentsFrom_eq (number : Nat) (types : List HostType) :
    argumentsFrom number types =
      (types.zipIdx number).map fun entry => argumentName entry.2 ++ ": " ++ entry.1.render := by
  induction types generalizing number with
  | nil => rfl
  | cons type rest induction => simp [argumentsFrom, argumentName, induction]

/-- Parameters are numbered as they come. -/
theorem arguments_eq (declaration : Declaration) :
    declaration.arguments =
      declaration.parameters.mapIdx (fun number type =>
        argumentName number ++ ": " ++ type.render) ++
      (if declaration.variadic then ["..."] else []) := by
  rw [arguments, argumentsFrom_eq, List.mapIdx_eq_zipIdx_map]

theorem block_of_function {declaration : Declaration} (function : declaration.kind = .function) :
    declaration.block =
      .ok (declaration.linkLine ++ "pub fn " ++ declaration.name ++ "(" ++
        String.intercalate ", " declaration.arguments ++ ")" ++ resultClause declaration.type ++
        ";\n") := by
  simp [block, functionBlock, function]

theorem exists_ofSymbol_of_function {symbol : Symbol} (function : symbol.kind = .function)
    (name : String) :
    ∃ declaration, ofSymbol symbol name = .ok declaration ∧
      declaration.parameters = (Parameters.resolve symbol.parameters).types ∧
      declaration.variadic = (Parameters.resolve symbol.parameters).variadic := by
  rw [ofSymbol, function]
  exact ⟨_, rfl, rfl, rfl⟩

/-- A list of spellings that were joined by commas is declared spelling by spelling, as numbered
parameters of different names. Nothing at all and the single word `void` declare none. -/
theorem ofSymbol_joins (symbol : Symbol) (name : String) (items : List String)
    (function : symbol.kind = .function)
    (each : ∀ spelling ∈ items, Parameters.IsItem spelling)
    (joined : Parameters.Joins items symbol.parameters) :
    ∃ declaration, ofSymbol symbol name = .ok declaration ∧
      (items ≠ ["void"] → ∃ positional,
        items = positional ++ (if declaration.variadic then ["..."] else []) ∧
        (declaration.variadic = true ↔ items.getLast? = some "...") ∧
        declaration.parameters = positional.map HostType.resolve) ∧
      (items = [] ∨ items = ["void"] →
        declaration.parameters = [] ∧ declaration.variadic = false) ∧
      declaration.block =
        .ok (declaration.linkLine ++ "pub fn " ++ name ++ "(" ++
          String.intercalate ", "
            (declaration.parameters.mapIdx (fun number type =>
              argumentName number ++ ": " ++ type.render) ++
              (if declaration.variadic then ["..."] else [])) ++
          ")" ++ resultClause declaration.type ++ ";\n") ∧
      ((List.range declaration.parameters.length).map argumentName).Nodup := by
  rcases exists_ofSymbol_of_function function name with ⟨declaration, made, parameters, variadic⟩
  rcases of_made made with ⟨sameName, sameKind, -⟩
  refine ⟨declaration, made, ?_, ?_, ?_, ?_⟩
  · intro notVoid
    have listed : ¬Text.trim symbol.parameters = "void" :=
      fun void => notVoid ((joined.trim_eq_void_iff each).mp void)
    rw [parameters, variadic, Parameters.resolve_eq, if_neg listed, joined.spellings_eq each]
    rcases Parameters.exists_positional (items.map String.toList) with
      ⟨positional, whole, ends, types⟩
    refine ⟨positional.map String.ofList, ?_, ?_, ?_⟩
    · have spelled := congrArg (List.map String.ofList) whole
      rw [List.map_append, List.map_map, apply_ite (List.map String.ofList)] at spelled
      simpa [Function.comp_def, Parameters.ellipsis] using spelled
    · rw [ends, List.getLast?_map]
      cases items.getLast? with
      | none => simp
      | some last => simp [Parameters.ellipsis, ← String.toList_inj]
    · simpa [Function.comp_def] using types
  · rintro (rfl | rfl)
    · rw [parameters, variadic, Parameters.resolve_eq, joined.spellings_eq each]
      split <;> exact ⟨rfl, rfl⟩
    · have void := (joined.trim_eq_void_iff each).mpr rfl
      rw [parameters, variadic, Parameters.resolve_eq, if_pos void]
      exact ⟨rfl, rfl⟩
  · rw [block_of_function (sameKind.trans function), arguments_eq, sameName]
  · exact List.Nodup.map argumentName_injective List.nodup_range

/-- In a longer list `void` is a spelling like any other. -/
theorem ofSymbol_joins_inner_void :
    (∀ spelling ∈ ["void", "const char*", "..."], Parameters.IsItem spelling) ∧
      Parameters.Joins ["void", "const char*", "..."] " void\t,const char*,\u3000..." ∧
      ∃ declaration,
        ofSymbol ⟨"f", .function, true, "void", " void\t,const char*,\u3000...", none⟩ "f" =
          .ok declaration ∧
        declaration.variadic = true ∧
        declaration.parameters = [.resolve "void", .resolve "const char*"] ∧
        declaration.block = .ok "pub fn f(_arg0: void, _arg1: *const c_char, ...);\n" := by
  have each : ∀ spelling ∈ ["void", "const char*", "..."], Parameters.IsItem spelling := by
    decide
  have blank : ∀ blanks ∈ ["", " ", "\t", "\u3000"], ∀ character ∈ blanks.toList,
      Text.isBlank character = true := by
    have all : ["", " ", "\t", "\u3000"].all (·.toList.all Text.isBlank) = true := by decide
    simpa only [List.all_eq_true] using all
  have joined :
      Parameters.Joins ["void", "const char*", "..."] " void\t,const char*,\u3000..." :=
    .more "void" (blank " " (by simp)) (blank "\t" (by simp))
      (.more "const char*" (blank "" (by simp)) (blank "" (by simp))
        (.last "..." (blank "\u3000" (by simp)) (blank "" (by simp))))
  have written :
      (ofSymbol ⟨"f", .function, true, "void", " void\t,const char*,\u3000...", none⟩ "f").bind
          block =
        .ok "pub fn f(_arg0: void, _arg1: *const c_char, ...);\n" := by rfl
  rcases ofSymbol_joins ⟨"f", .function, true, "void", " void\t,const char*,\u3000...", none⟩
    "f" _ rfl each joined with ⟨declaration, made, listed, -⟩
  rcases listed (by decide) with ⟨positional, whole, ends, parameters⟩
  have variadic := ends.mpr rfl
  rw [variadic] at whole
  have same : ["void", "const char*"] = positional := List.append_cancel_right whole
  rw [← same] at parameters
  rw [made] at written
  exact ⟨each, joined, declaration, made, variadic, parameters, written⟩

end Declaration

end SymbolBindings
