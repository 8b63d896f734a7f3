import SymbolBindings.Proofs.Declaration.Parameters

/-! # Stray commas

Commas with nothing but blanks between them add nothing to a parameter list, with one exception. The
word for no parameters is looked for before a list is cut at its commas, so next to a stray comma it
is not found and passes for the type of a parameter.
-/

namespace SymbolBindings

namespace Parameters

/-- What stands between the commas, trimmed, where it is more than blanks. -/
def items (text : String) : List String :=
  ((text.toList.splitOn ',').map fun piece => Text.trim (String.ofList piece)).filter (· ≠ "")

example : items ", void\t,, const char* ," = ["void", "const char*"] := by decide

/-- A list is resolved by the spellings of its items. -/
theorem items_eq (text : String) :
    items text = (spellings text.toList).map String.ofList := by
  have keeps : ∀ characters : List Char,
      decide (String.ofList characters ≠ "") = !characters.isEmpty := by
    intro characters
    cases characters <;> simp
  simp only [items, spellings, Text.trim, String.toList_ofList, List.filter_map,
    Function.comp_def, keeps, List.map_map]

theorem items_eq_iff {one other : String} :
    items one = items other ↔ spellings one.toList = spellings other.toList := by
  rw [items_eq, items_eq]
  exact (List.map_injective_iff.mpr fun _ _ => String.ofList_injective).eq_iff

/-! ## The word for no parameters -/

theorem items_eq_void_iff {text : String} :
    items text = ["void"] ↔ spellings text.toList = ["void".toList] :=
  @items_eq_iff text "void"

/-- The word is found where it is the only item and no stray comma stands next to it. -/
theorem trim_eq_void_iff {text : String} :
    Text.trim text = "void" ↔ items text = ["void"] ∧ ',' ∉ text.toList := by
  rw [items_eq_void_iff]
  constructor
  · intro found
    constructor
    · rw [← spellings_trim, found]
      decide
    · rcases Text.exists_trimBy Text.isBlank text.toList with
        ⟨before, after, split, blankBefore, blankAfter⟩
      rw [← Text.toList_trim, found] at split
      rw [split]
      simp [comma_notMem_of_blank blankBefore, comma_notMem_of_blank blankAfter]
  · rintro ⟨alone, whole⟩
    rw [spellings_of_notMem whole] at alone
    have kept : "void".toList ∈ [Text.trimBy Text.isBlank text.toList].filter (! ·.isEmpty) := by
      rw [alone]
      exact List.mem_singleton_self _
    have same := List.mem_singleton.mp (List.mem_of_mem_filter kept)
    rw [Text.trim, ← same, String.ofList_toList]

/-- Next to a stray comma the word is the spelling of a type like any other. -/
theorem resolve_of_items_eq_void {text : String} (alone : items text = ["void"]) :
    resolve text = ⟨if ',' ∈ text.toList then [.resolve "void"] else [], false⟩ := by
  rw [resolve_eq, items_eq_void_iff.mp alone]
  by_cases stray : ',' ∈ text.toList
  · have missed : Text.trim text ≠ "void" := fun found => (trim_eq_void_iff.mp found).2 stray
    rw [if_neg missed, if_pos stray]
    decide
  · rw [if_pos (trim_eq_void_iff.mpr ⟨alone, stray⟩), if_neg stray]
    rfl

/-- Where the word is not the only item, the items decide. -/
theorem resolve_of_items_ne_void {text : String} (listed : items text ≠ ["void"]) :
    resolve text = ofSpellings (spellings text.toList) := by
  have missed : Text.trim text ≠ "void" := fun found => listed (trim_eq_void_iff.mp found).1
  rw [resolve_eq, if_neg missed]

theorem resolve_eq_iff_of_items_eq {one other : String} (same : items one = items other) :
    resolve one = resolve other ↔
      (items one = ["void"] → (',' ∈ one.toList ↔ ',' ∈ other.toList)) := by
  by_cases alone : items one = ["void"]
  · rw [resolve_of_items_eq_void alone, resolve_of_items_eq_void (same ▸ alone)]
    by_cases stray : ',' ∈ one.toList <;> by_cases otherStray : ',' ∈ other.toList <;>
      simp [alone, stray, otherStray]
  · rw [resolve_of_items_ne_void alone, resolve_of_items_ne_void (same ▸ alone),
      items_eq_iff.mp same]
    simp [alone]

end Parameters

namespace Declaration

theorem ofSymbol_of_function {symbol : Symbol} (function : symbol.kind = .function)
    (name text : String) :
    ofSymbol { symbol with parameters := text } name =
      .ok
        { kind := .function, name
          linkName := if name = symbol.name then none else some symbol.name
          type := HostType.resolveResult symbol.type
          parameters := (Parameters.resolve text).types
          variadic := (Parameters.resolve text).variadic } := by
  simp only [ofSymbol, function]

/-- Functions whose lists have the same items are declared alike, unless the only item is the word
for no parameters and a stray comma stands in one of the lists alone. The list without one declares
no parameters, and the other declares one. -/
theorem ofSymbol_of_items_eq (symbol : Symbol) (name one other : String)
    (function : symbol.kind = .function) (same : Parameters.items one = Parameters.items other) :
    (ofSymbol { symbol with parameters := one } name =
        ofSymbol { symbol with parameters := other } name ↔
      (Parameters.items one = ["void"] → (',' ∈ one.toList ↔ ',' ∈ other.toList))) ∧
    (Parameters.items one = ["void"] →
      ∃ declaration, ofSymbol { symbol with parameters := one } name = .ok declaration ∧
        declaration.variadic = false ∧
        declaration.parameters = if ',' ∈ one.toList then [⟨.unresolved "void", 0⟩] else []) := by
  rw [ofSymbol_of_function function, ofSymbol_of_function function]
  constructor
  · rw [← Parameters.resolve_eq_iff_of_items_eq same]
    generalize Parameters.resolve one = left
    generalize Parameters.resolve other = right
    rcases left with ⟨leftTypes, leftVariadic⟩
    rcases right with ⟨rightTypes, rightVariadic⟩
    simp only [Except.ok.injEq, mk.injEq, Parameters.mk.injEq, true_and]
  · intro alone
    refine ⟨_, rfl, ?_, ?_⟩
    · rw [Parameters.resolve_of_items_eq_void alone]
    · rw [Parameters.resolve_of_items_eq_void alone]
      rfl

/-- Blanks around the word and between other commas change nothing. -/
theorem ofSymbol_of_items_eq_blanks :
    (⟨"f", .function, true, "int", "", none⟩ : Symbol).kind = .function ∧
      Parameters.items ", const char*,\t, void,... ," = Parameters.items "const char*,void,..." ∧
      ofSymbol ⟨"f", .function, true, "int", ", const char*,\t, void,... ,", none⟩ "f" =
        ofSymbol ⟨"f", .function, true, "int", "const char*,void,...", none⟩ "f" ∧
      Parameters.items "\tvoid\u3000" = ["void"] ∧
      ∃ declaration,
        ofSymbol ⟨"f", .function, true, "int", "\tvoid\u3000", none⟩ "f" = .ok declaration ∧
          declaration.variadic = false ∧ declaration.parameters = [] := by
  have alone : Parameters.items "\tvoid\u3000" = ["void"] := by decide
  have same : Parameters.items ", const char*,\t, void,... ," =
      Parameters.items "const char*,void,..." := by decide
  have listed := ofSymbol_of_items_eq ⟨"f", .function, true, "int", "", none⟩ "f" _ _ rfl same
  have silent := ofSymbol_of_items_eq ⟨"f", .function, true, "int", "", none⟩ "f" "\tvoid\u3000" _
    rfl rfl
  rcases silent.2 alone with ⟨declaration, made, variadic, parameters⟩
  rw [if_neg (by decide)] at parameters
  exact ⟨rfl, same, listed.1.mpr (by decide), alone, declaration, made, variadic, parameters⟩

/-- The list `void,` has the items of `void`, and it declares a parameter of a type that is
called so. -/
theorem ofSymbol_counts_void_beside_comma :
    Parameters.items "void," = Parameters.items "void" ∧
      (ofSymbol ⟨"f", .function, true, "void", "void,", none⟩ "f").bind block =
        .ok "pub fn f(_arg0: void);\n" ∧
      (ofSymbol ⟨"f", .function, true, "void", "void", none⟩ "f").bind block =
        .ok "pub fn f();\n" ∧
      ofSymbol ⟨"f", .function, true, "void", "void,", none⟩ "f" ≠
        ofSymbol ⟨"f", .function, true, "void", "void", none⟩ "f" := by
  refine ⟨by decide, rfl, rfl, ?_⟩
  intro alike
  have written := congrArg (·.bind block) alike
  exact absurd written (by decide)

end Declaration

end SymbolBindings
