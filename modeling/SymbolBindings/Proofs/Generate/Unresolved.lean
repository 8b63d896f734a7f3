import SymbolBindings.Proofs.Declaration.Parameters
import SymbolBindings.Proofs.Generate.Streaming
import SymbolBindings.Proofs.HostType.Decomposition

/-! # Unresolved names

A completed run reports the names it passed through unresolved. They are the bases of the spellings
that stand for a type of a declared symbol, apart from those the table of primitives knows.
-/

namespace SymbolBindings

/-! ## One declaration -/

namespace HostType

theorem base_eq_unresolved_iff {spelling base : String} :
    (resolve spelling).base = .unresolved base ↔
      (∃ tail, Decomposes (Text.trim spelling) base tail) ∧
        base ∉ Primitive.table.map Prod.fst := by
  constructor
  · intro same
    rw [base_resolve, Base.ofSpelling] at same
    split at same
    case h_1 => cases same
    case h_2 missing =>
      rcases Base.unresolved.inj same with rfl
      exact ⟨⟨_, decomposes_trim spelling⟩, Primitive.lookup_eq_none_iff.mp missing⟩
  · rintro ⟨⟨tail, parts⟩, missing⟩
    exact (wraps_resolve_of_decomposes parts).unresolved missing

theorem resolveResult_eq_some_iff {spelling : String} {type : HostType} :
    resolveResult spelling = some type ↔
      Text.trim spelling ∉ ["", "void"] ∧ resolve spelling = type := by
  rw [resolveResult, resolve_trim]
  by_cases nothing : Text.trim spelling = "" ∨ Text.trim spelling = "void" <;> simp [nothing]

end HostType

/-- The spelling stands for a type of what is declared for the symbol. The word `void` does not
where it is the whole result or the whole list of parameters. -/
inductive Symbol.Spells (symbol : Symbol) : String → Prop
  | object (object : symbol.kind = .object) : Spells symbol symbol.type
  | result (function : symbol.kind = .function)
      (returns : Text.trim symbol.type ∉ ["", "void"]) : Spells symbol symbol.type
  | parameter {spelling : String} (function : symbol.kind = .function)
      (listed : Text.trim symbol.parameters ≠ "void")
      (positional : Parameters.IsPositional symbol.parameters spelling) : Spells symbol spelling

namespace Declaration

theorem mem_types_iff {symbol : Symbol} {name : String} {declaration : Declaration}
    {type : HostType} (made : ofSymbol symbol name = .ok declaration) :
    type ∈ declaration.types ↔
      ∃ spelling, symbol.Spells spelling ∧ HostType.resolve spelling = type := by
  cases kind : symbol.kind with
  | object =>
      rw [ofSymbol, kind] at made
      cases made
      rw [types, List.append_nil, Option.mem_toList]
      constructor
      · intro same
        exact ⟨_, .object kind, Option.some.inj same⟩
      · rintro ⟨_, spelled, rfl⟩
        cases spelled with
        | object => rfl
        | result function => simp [kind] at function
        | parameter function => simp [kind] at function
  | function =>
      rw [ofSymbol, kind] at made
      cases made
      rw [types, List.mem_append, Option.mem_toList, HostType.resolveResult_eq_some_iff,
        Parameters.mem_types_resolve_iff]
      constructor
      · rintro (⟨returns, rfl⟩ | ⟨listed, spelling, positional, rfl⟩)
        · exact ⟨_, .result kind returns, rfl⟩
        · exact ⟨spelling, .parameter kind listed positional, rfl⟩
      · rintro ⟨spelling, spelled, rfl⟩
        cases spelled with
        | object object => simp [kind] at object
        | result _ returns => exact .inl ⟨returns, rfl⟩
        | parameter _ listed positional => exact .inr ⟨listed, spelling, positional, rfl⟩
  | other entry =>
      rw [ofSymbol, kind] at made
      cases made

theorem mem_unresolved_iff {declaration : Declaration} {base : String} :
    base ∈ declaration.unresolved ↔
      ∃ type ∈ declaration.types, type.base = .unresolved base := by
  simp only [unresolved, List.mem_map, List.mem_filter]
  constructor
  · rintro ⟨⟨_ | spelling, depth⟩, ⟨member, isUnresolved⟩, rfl⟩
    · cases isUnresolved
    · exact ⟨_, member, rfl⟩
  · rintro ⟨type, member, same⟩
    exact ⟨type, ⟨member, by rw [same]; rfl⟩, by rw [same]; rfl⟩

theorem mem_unresolved_iff_spells {symbol : Symbol} {name base : String}
    {declaration : Declaration} (made : ofSymbol symbol name = .ok declaration) :
    base ∈ declaration.unresolved ↔
      ∃ spelling tail, symbol.Spells spelling ∧
        HostType.Decomposes (Text.trim spelling) base tail ∧
        base ∉ Primitive.table.map Prod.fst := by
  rw [mem_unresolved_iff]
  constructor
  · rintro ⟨type, member, same⟩
    rcases (mem_types_iff made).mp member with ⟨spelling, spelled, rfl⟩
    rcases HostType.base_eq_unresolved_iff.mp same with ⟨⟨tail, parts⟩, missing⟩
    exact ⟨spelling, tail, spelled, parts, missing⟩
  · rintro ⟨spelling, tail, spelled, parts, missing⟩
    refine ⟨.resolve spelling, (mem_types_iff made).mpr ⟨spelling, spelled, rfl⟩, ?_⟩
    exact HostType.base_eq_unresolved_iff.mpr ⟨⟨tail, parts⟩, missing⟩

end Declaration

namespace Generate

/-! ## Sets of names -/

theorem mem_insertName {name other : String} {set : List String} :
    other ∈ insertName name set ↔ other = name ∨ other ∈ set := by
  induction set with
  | nil => simp [insertName]
  | cons first rest induction =>
      rw [insertName]
      split
      case isTrue => exact List.mem_cons
      case isFalse =>
        split
        case isTrue same => simp [same]
        case isFalse =>
          rw [List.mem_cons, induction, List.mem_cons]
          exact or_left_comm

theorem pairwise_insertName (name : String) {set : List String} (ascending : set.Pairwise (· < ·)) :
    (insertName name set).Pairwise (· < ·) := by
  induction set with
  | nil => exact List.pairwise_singleton _ _
  | cons first rest induction =>
      rcases List.pairwise_cons.mp ascending with ⟨least, restAscending⟩
      rw [insertName]
      split
      case isTrue before =>
        refine List.pairwise_cons.mpr ⟨?_, ascending⟩
        rintro other (_ | ⟨_, member⟩)
        · exact before
        · exact String.lt_trans before (least other member)
      case isFalse notBefore =>
        split
        case isTrue => exact ascending
        case isFalse different =>
          refine List.pairwise_cons.mpr ⟨?_, induction restAscending⟩
          intro other member
          rcases mem_insertName.mp member with rfl | member
          · exact Std.lt_of_le_of_ne (String.not_lt.mp notBefore) (Ne.symm different)
          · exact least other member

theorem insertNames_append (front rest set : List String) :
    insertNames (front ++ rest) set = insertNames rest (insertNames front set) :=
  List.foldl_append

theorem mem_insertNames {names set : List String} {other : String} :
    other ∈ insertNames names set ↔ other ∈ names ∨ other ∈ set := by
  induction names generalizing set with
  | nil => simp [insertNames]
  | cons name rest induction =>
      rw [insertNames, List.foldl_cons, ← insertNames, induction, mem_insertName, List.mem_cons,
        ← or_assoc, or_comm (a := other ∈ rest)]

theorem pairwise_insertNames (names : List String) {set : List String}
    (ascending : set.Pairwise (· < ·)) : (insertNames names set).Pairwise (· < ·) := by
  induction names generalizing set with
  | nil => exact ascending
  | cons name rest induction => exact induction (pairwise_insertName name ascending)

/-! ## A whole run -/

theorem Progress.unresolved_add (progress : Progress) (verdict : Verdict) :
    (progress.add verdict).unresolved =
      insertNames (verdict.declaration?.toList.flatMap Declaration.unresolved)
        progress.unresolved := by
  cases verdict with
  | declared declaration =>
      rw [Verdict.declaration?, Option.toList_some, List.flatMap_singleton]
      rfl
  | _ => rfl

/-- Names come in with the declarations and with nothing else. -/
theorem Progress.unresolved_addAll (progress : Progress) (matcher : Matcher) (items : List Item) :
    (progress.addAll matcher items).unresolved =
      insertNames ((declarations matcher items).flatMap Declaration.unresolved)
        progress.unresolved := by
  induction items generalizing progress with
  | nil => rfl
  | cons item rest induction =>
      rw [addAll_cons, induction, unresolved_add, ← insertNames_append, ← List.flatMap_append,
        declarations, declarations, List.filterMap_cons]
      cases (Verdict.ofItem matcher item).declaration? <;> rfl

theorem mem_declaredSymbols_iff {matcher : Matcher} {items : List Item} {symbol : Symbol} :
    symbol ∈ declaredSymbols matcher items ↔
      .ok symbol ∈ items ∧ matcher.declares symbol = true := by
  rw [declaredSymbols, List.mem_filter, List.mem_filterMap]
  apply and_congr_left
  intro _
  constructor
  · rintro ⟨_ | other, member, kept⟩
    · cases kept
    · rcases Option.some.inj kept with rfl
      exact member
  · intro member
    exact ⟨_, member, rfl⟩

/-- A symbol is to be declared exactly if a declaration of it can be made. -/
theorem declares_iff {matcher : Matcher} {symbol : Symbol} :
    matcher.declares symbol = true ↔
      symbol.exported = true ∧ ∃ name, matcher.declaredName symbol.name = some name ∧
        ∃ declaration, Declaration.ofSymbol symbol name = .ok declaration := by
  rw [Matcher.declares, Bool.and_eq_true, Bool.and_eq_true, and_assoc,
    ← Matcher.isSome_declaredName, Option.isSome_iff_exists]
  simp only [Declaration.exists_ofSymbol_iff, exists_and_right]

theorem mem_declarations_iff {matcher : Matcher} {items : List Item} {declaration : Declaration} :
    declaration ∈ declarations matcher items ↔
      ∃ symbol ∈ declaredSymbols matcher items, ∃ name,
        matcher.declaredName symbol.name = some name ∧
        Declaration.ofSymbol symbol name = .ok declaration := by
  rw [declarations, List.mem_filterMap]
  constructor
  · rintro ⟨item, member, found⟩
    have judged := Verdict.judged_ofItem matcher item
    generalize Verdict.ofItem matcher item = verdict at judged found
    cases judged with
    | @declared symbol name _ exported selected made =>
        rcases Option.some.inj found with rfl
        have declares := declares_iff.mpr ⟨exported, name, selected, _, made⟩
        exact ⟨symbol, mem_declaredSymbols_iff.mpr ⟨member, declares⟩, name, selected, made⟩
    | _ => cases found
  · rintro ⟨symbol, declared, name, selected, made⟩
    rcases mem_declaredSymbols_iff.mp declared with ⟨member, declares⟩
    have judged := Verdict.Judged.declared (declares_iff.mp declares).1 selected made
    exact ⟨.ok symbol, member, congrArg Verdict.declaration? judged.unique⟩

theorem mem_flatMap_unresolved_iff {matcher : Matcher} {items : List Item} {base : String} :
    base ∈ (declarations matcher items).flatMap Declaration.unresolved ↔
      ∃ symbol ∈ declaredSymbols matcher items, ∃ spelling tail,
        symbol.Spells spelling ∧ HostType.Decomposes (Text.trim spelling) base tail ∧
        base ∉ Primitive.table.map Prod.fst := by
  rw [List.mem_flatMap]
  constructor
  · rintro ⟨declaration, member, mentioned⟩
    rcases mem_declarations_iff.mp member with ⟨symbol, declared, name, -, made⟩
    exact ⟨symbol, declared, (Declaration.mem_unresolved_iff_spells made).mp mentioned⟩
  · rintro ⟨symbol, declared, mentioned⟩
    have declares := (mem_declaredSymbols_iff.mp declared).2
    rcases declares_iff.mp declares with ⟨-, name, selected, declaration, made⟩
    exact ⟨declaration, mem_declarations_iff.mpr ⟨symbol, declared, name, selected, made⟩,
      (Declaration.mem_unresolved_iff_spells made).mpr mentioned⟩

/-- A completed run reports exactly the names it passed through unresolved, in ascending order: the
bases of the spellings that stand for types of the symbols it declared. -/
theorem run_reports_unresolved (options : Options) (source : Source) (sink : Sink)
    (summary : Summary) (completed : (run options source sink).result = .ok summary) :
    summary.unresolved.Pairwise (· < ·) ∧
      ∃ table, Table.read source = .ok table ∧
        (∃ blocks,
          List.Forall₂ (BlockOf options.matcher)
            (declaredSymbols options.matcher table.items) blocks ∧
          (run options source sink).sink.written =
            sink.written ++ blocks.flatMap Text.octets) ∧
        ∀ base, base ∈ summary.unresolved ↔
          ∃ symbol ∈ declaredSymbols options.matcher table.items, ∃ spelling tail,
            symbol.Spells spelling ∧ HostType.Decomposes (Text.trim spelling) base tail ∧
            base ∉ Primitive.table.map Prod.fst := by
  cases read : Table.read source with
  | error failure =>
      rw [(run_of_read_error read options sink).1] at completed
      cases completed
  | ok table =>
      rcases run_of_read_ok read options sink with ⟨result, sinkAfter⟩
      rw [result] at completed
      rcases runItems_eq_ok completed with ⟨-, rfl, written⟩
      have reported :
          ((Progress.start sink).addAll options.matcher table.items).summary.unresolved =
            insertNames
              ((declarations options.matcher table.items).flatMap Declaration.unresolved) [] :=
        Progress.unresolved_addAll _ _ _
      rw [reported]
      refine ⟨pairwise_insertNames _ .nil, table, rfl, ?_, ?_⟩
      · rw [sinkAfter, written]
        exact exists_blocks_written options.matcher table.items sink
      · intro base
        rw [mem_insertNames, or_iff_left List.not_mem_nil]
        exact mem_flatMap_unresolved_iff

/-- Names of hidden, unselected and unsupported rows are not reported, nor are `void` and the
ellipsis where they stand for no type. Behind a marker `void` is a name like any other. -/
theorem run_reports_unresolved_of_declared_rows :
    let options : Options := ⟨⟨some "f_", true⟩, .skip⟩
    let source : Source :=
      .ofOctets (Text.octets ("status,name,entry,type,params\n" ++
        "-,f_x,Variable,Hidden*,\n+,g_x,Variable,Other,\n+,f_h,Header,Entry,\n" ++
        "+,f_a,Variable,FuriThread* *,\n+,f_b,Function,void,void\n" ++
        "+,f_c,Function,void*,\"Canvas*,uint8_t,...\"\n"))
    (run options source .unbounded).result =
        .ok ⟨3, 1, 1, 1, ["Canvas", "FuriThread", "void"]⟩ ∧
      ["Canvas", "FuriThread", "void"].Pairwise (· < ·) ∧
      ∃ table, Table.read source = .ok table ∧
        ∀ base, base ∈ ["Canvas", "FuriThread", "void"] ↔
          ∃ symbol ∈ declaredSymbols options.matcher table.items, ∃ spelling tail,
            symbol.Spells spelling ∧ HostType.Decomposes (Text.trim spelling) base tail ∧
            base ∉ Primitive.table.map Prod.fst := by
  intro options source
  have completed : (run options source .unbounded).result =
      .ok ⟨3, 1, 1, 1, ["Canvas", "FuriThread", "void"]⟩ := rfl
  rcases run_reports_unresolved options source .unbounded _ completed with
    ⟨ascending, table, read, -, mentions⟩
  exact ⟨completed, ascending, table, read, mentions⟩

end Generate

end SymbolBindings
