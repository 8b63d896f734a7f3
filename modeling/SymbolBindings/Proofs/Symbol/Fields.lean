import SymbolBindings.Proofs.Delimited.Row
import SymbolBindings.Symbol.Table

/-! # Fields by name

What a row says is told by the names of its columns alone. The positions that are looked up once in
the header are a means to that end: the item of a row is the one its fields describe.
-/

namespace SymbolBindings

theorem Kind.ofEntry_eq_function_iff {entry : String} :
    Kind.ofEntry entry = .function ↔ entry = "Function" := by
  unfold Kind.ofEntry
  split_ifs with isVariable isFunction
  · simp [isVariable]
  · simp [isFunction]
  · simp [isFunction]

namespace Table

/-- The columns no header may lack. -/
def requiredColumns : List String :=
  ["name", "entry", "status", "type"]

/-- The trimmed text of a row under a column name. Of columns with one name the first counts, and a
missing column is empty. -/
def field (header row : List String) (column : String) : String :=
  (((header.map Text.trim).zip (row.map Text.trim)).lookup column).getD ""

example : field ["name", " type ", "name"] ["f ", "int", "g"] "name" = "f" := by decide

def symbolOf (header : List String) (line : Nat) (row : List String) : Symbol :=
  { name := field header row "name"
    kind := .ofEntry (field header row "entry")
    exported := decide (field header row "status" = "+")
    type := field header row "type"
    parameters := field header row "params"
    line := some line }

/-- The item that the fields of a row describe. -/
def itemOf (header : List String) (line : Nat) (row : List String) : Item :=
  if field header row "name" = "" then .error (.malformed (some line) .emptyName)
  else if field header row "entry" = "Function" ∧ "params" ∉ header.map Text.trim then
    .error (.malformed (some line) (.missingParameters (field header row "name")))
  else .ok (symbolOf header line row)

end Table

/-! ## Positions -/

namespace Columns

theorem position_eq_none_iff {header : List String} {column : String} :
    position header column = none ↔ column ∉ header := by
  rw [position, List.findIdx?_eq_none_iff]
  constructor
  · intro different member
    simpa using different column member
  · intro missing name member
    rw [beq_eq_false_iff_ne]
    intro same
    subst same
    exact missing member

theorem exists_position_iff {header : List String} {column : String} :
    (∃ index, position header column = some index) ↔ column ∈ header := by
  rw [← Option.isSome_iff_exists, Option.isSome_iff_ne_none, ne_eq, position_eq_none_iff, not_not]

theorem require_eq_ok_iff {header : List String} {column : String} {index : Nat} :
    require header column = .ok index ↔ position header column = some index := by
  unfold require
  cases position header column <;> simp

theorem locate_eq_ok_iff {header : List String} {columns : Columns} :
    locate header = .ok columns ↔
      position header "name" = some columns.name ∧
      position header "entry" = some columns.entry ∧
      position header "status" = some columns.status ∧
      position header "type" = some columns.type ∧
      columns.parameters = position header "params" := by
  simp only [← require_eq_ok_iff, locate, bind, except_bind_eq_ok_iff, pure, Except.pure,
    Except.ok.injEq]
  constructor
  · intro found
    rcases found with ⟨name, nameFound, entry, entryFound, status, statusFound, type, typeFound, rfl⟩
    exact ⟨nameFound, entryFound, statusFound, typeFound, rfl⟩
  · intro found
    rcases found with ⟨nameFound, entryFound, statusFound, typeFound, same⟩
    refine ⟨_, nameFound, _, entryFound, _, statusFound, _, typeFound, ?_⟩
    rw [← same]

theorem exists_locate_iff {header : List String} :
    (∃ columns, locate header = .ok columns) ↔
      ∀ column ∈ Table.requiredColumns, column ∈ header := by
  simp only [Table.requiredColumns, List.forall_mem_cons, List.not_mem_nil, false_implies,
    implies_true, and_true]
  simp only [← exists_position_iff, locate_eq_ok_iff]
  constructor
  · intro found
    rcases found with ⟨columns, nameFound, entryFound, statusFound, typeFound, -⟩
    exact ⟨⟨_, nameFound⟩, ⟨_, entryFound⟩, ⟨_, statusFound⟩, ⟨_, typeFound⟩⟩
  · intro found
    rcases found with ⟨⟨name, nameFound⟩, ⟨entry, entryFound⟩, ⟨status, statusFound⟩, type, typeFound⟩
    exact ⟨⟨name, entry, status, type, _⟩, nameFound, entryFound, statusFound, typeFound, rfl⟩

/-- The cell at the position of a column is the one under its name. -/
theorem cell_position {header row : List String} (column : String)
    (even : row.length = header.length) :
    ((position header column).map (cell row)).getD "" =
      ((header.zip row).lookup column).getD "" := by
  induction header generalizing row with
  | nil => rfl
  | cons name names induction =>
      rcases List.exists_cons_of_length_eq_add_one even with ⟨text, texts, rfl⟩
      rw [position, List.findIdx?_cons, List.zip_cons_cons, List.lookup_cons]
      by_cases found : name = column
      · subst found
        simp [cell]
      · have evenRest : texts.length = names.length := by simpa using even
        rw [if_neg (by simpa using found), ← position]
        simp only [beq_eq_false_iff_ne.mpr (Ne.symm found)]
        rw [← induction evenRest, Option.map_map]
        rfl

theorem cell_eq_field {header row : List String} {column : String} {index : Nat}
    (found : position (header.map Text.trim) column = some index)
    (even : row.length = header.length) :
    cell (row.map Text.trim) index = Table.field header row column := by
  have evenTrimmed : (row.map Text.trim).length = (header.map Text.trim).length := by
    simpa using even
  have byName := cell_position column evenTrimmed
  rwa [found] at byName

/-- The symbol read from located columns is the one the fields describe. -/
theorem symbol_eq_itemOf {columns : Columns} {header row : List String} {line : Nat}
    (located : locate (header.map Text.trim) = .ok columns) (even : row.length = header.length) :
    columns.symbol line (row.map Text.trim) = Table.itemOf header line row := by
  rcases locate_eq_ok_iff.mp located with
    ⟨nameFound, entryFound, statusFound, typeFound, parameters⟩
  have parametersMissing : columns.parameters = none ↔ "params" ∉ header.map Text.trim := by
    rw [parameters, position_eq_none_iff]
  have parametersField : (columns.parameters.map (cell (row.map Text.trim))).getD "" =
      Table.field header row "params" := by
    rw [parameters]
    exact cell_position "params" (by simpa using even)
  unfold symbol Table.itemOf
  simp only [cell_eq_field nameFound even, cell_eq_field entryFound even,
    cell_eq_field statusFound even, cell_eq_field typeFound even, parametersField,
    parametersMissing, Kind.ofEntry_eq_function_iff, isExportMark]
  rfl

end Columns

/-! ## Items -/

namespace Table

/-- A row that can be read has the item its fields describe, if it has as many cells as the
header. -/
theorem item_eq_itemOf {columns : Columns} {header raw : List String} {row : Delimited.Row}
    (located : Columns.locate (header.map Text.trim) = .ok columns) (spelled : row.Spells raw)
    (even : raw.length = header.length) :
    item columns header.length row = itemOf header row.line raw := by
  have texts : row.texts = .ok (raw.map Text.trim) :=
    Delimited.Row.texts_eq_ok_iff.mpr ⟨raw, spelled, rfl⟩
  unfold item
  rw [if_neg (by rw [spelled.length_eq, even, ne_eq, not_not]), texts]
  exact Columns.symbol_eq_itemOf located even

/-- A row has a symbol only if it can be read and has as many cells as the header. -/
theorem item_eq_ok_iff {columns : Columns} {header : List String} {row : Delimited.Row}
    {symbol : Symbol} (located : Columns.locate (header.map Text.trim) = .ok columns) :
    item columns header.length row = .ok symbol ↔
      ∃ raw, row.Spells raw ∧ raw.length = header.length ∧
        itemOf header row.line raw = .ok symbol := by
  constructor
  · intro read
    unfold item at read
    split at read
    case isTrue => cases read
    case isFalse even =>
      rw [ne_eq, not_not] at even
      split at read
      case h_1 => cases read
      case h_2 texts decoded =>
        rcases Delimited.Row.texts_eq_ok_iff.mp decoded with ⟨raw, spelled, rfl⟩
        have evenRaw : raw.length = header.length := by rw [← spelled.length_eq, even]
        exact ⟨raw, spelled, evenRaw, by rwa [← Columns.symbol_eq_itemOf located evenRaw]⟩
  · intro described
    rcases described with ⟨raw, spelled, even, described⟩
    rwa [item_eq_itemOf located spelled even]

theorem itemOf_eq_ok_iff {header row : List String} {line : Nat} {symbol : Symbol} :
    itemOf header line row = .ok symbol ↔
      field header row "name" ≠ "" ∧
        (field header row "entry" = "Function" → "params" ∈ header.map Text.trim) ∧
        symbol = symbolOf header line row := by
  unfold itemOf
  split
  case isTrue unnamed => exact iff_of_false (by simp) fun described => described.1 unnamed
  case isFalse named =>
    split
    case isTrue incomplete =>
      exact iff_of_false (by simp) fun described => incomplete.2 (described.2.1 incomplete.1)
    case isFalse complete =>
      rw [not_and, not_not] at complete
      rw [Except.ok.injEq, eq_comm]
      exact ⟨fun same => ⟨named, complete, same⟩, fun described => described.2.2⟩

/-- A text without any row is a table with an empty header. -/
theorem read_ofOctets (octets : List UInt8) :
    read (.ofOctets octets) =
      ofRows ((Delimited.rows true octets).headD ⟨1, []⟩) (Delimited.rows true octets).tail := by
  have whole : (Source.ofOctets octets).breakOff = none := by
    unfold Source.breakOff
    split <;> rfl
  unfold read
  rw [Source.rows, whole]
  simp only [Option.isNone_none, Source.ofOctets]
  cases Delimited.rows true octets <;> rfl

/-- A table has the rows below an accepted header, one item each. -/
theorem ofRows_eq_ok_iff {header : Delimited.Row} {rows : List Delimited.Row} {table : Table} :
    ofRows header rows = .ok table ↔
      ∃ names columns, header.Spells names ∧
        Columns.locate (names.map Text.trim) = .ok columns ∧
        table = ⟨names.map Text.trim, rows.map (item columns names.length)⟩ := by
  unfold ofRows
  cases decoded : header.headerTexts with
  | error cell =>
      simp only [reduceCtorEq, false_iff]
      intro accepted
      rcases accepted with ⟨names, columns, spelled, -⟩
      have read := Delimited.Row.headerTexts_eq_ok_iff.mpr ⟨names, spelled, rfl⟩
      rw [decoded] at read
      cases read
  | ok trimmed =>
      rcases Delimited.Row.headerTexts_eq_ok_iff.mp decoded with ⟨names, spelled, rfl⟩
      simp only [bind, except_bind_eq_ok_iff, pure, Except.pure, Except.ok.injEq]
      constructor
      · intro accepted
        rcases accepted with ⟨columns, located, rfl⟩
        exact ⟨names, columns, spelled, located, by rw [spelled.length_eq]⟩
      · intro accepted
        rcases accepted with ⟨others, columns, spelledOthers, located, rfl⟩
        rcases spelled.unique spelledOthers with rfl
        exact ⟨columns, located, by rw [spelled.length_eq]⟩

/-- A source whose every item is a symbol has a header and did not break off. -/
theorem exists_rows_of_read {source : Source} {table : Table} (accepted : read source = .ok table)
    (whole : ∀ item ∈ table.items, ∃ symbol, item = .ok symbol) :
    ∃ header rows, source.rows = header :: rows ∧ ofRows header rows = .ok table := by
  unfold read at accepted
  split at accepted
  case h_1 header rows found _ => exact ⟨header, rows, found, accepted⟩
  case h_2 header rows fault _ _ =>
    rcases except_map_eq_ok_iff.mp accepted with ⟨before, _, rfl⟩
    have broken := whole (.error (.system fault)) (by simp)
    simp at broken
  case h_3 =>
    rcases ofRows_eq_ok_iff.mp accepted with ⟨names, columns, spelled, located, _⟩
    have empty : names = [] := List.map_eq_nil_iff.mp spelled.symm
    subst empty
    have present := Columns.exists_locate_iff.mp ⟨columns, located⟩
    cases present "name" (by simp [requiredColumns])
  case h_4 => cases accepted

/-- Where every item is a symbol, the items are those that the texts of the rows describe. -/
theorem exists_itemOf_of_read {source : Source} {table : Table} (accepted : read source = .ok table)
    (whole : ∀ item ∈ table.items, ∃ symbol, item = .ok symbol) :
    ∃ header rows lines,
      source.rows.map Delimited.Row.cells =
          (header :: rows).map (fun texts : List String => texts.map Text.octets) ∧
        lines.length = rows.length ∧ table.items = List.zipWith (itemOf header) lines rows := by
  rcases exists_rows_of_read accepted whole with ⟨headerRow, dataRows, found, read⟩
  rcases ofRows_eq_ok_iff.mp read with ⟨header, columns, spelledHeader, located, rfl⟩
  have described : ∀ row ∈ dataRows, ∃ texts, row.Spells texts ∧ texts.length = header.length := by
    intro row member
    rcases whole _ (List.mem_map_of_mem member) with ⟨symbol, taken⟩
    rcases (item_eq_ok_iff located).mp taken with ⟨texts, spelled, even, _⟩
    exact ⟨texts, spelled, even⟩
  choose! spell spells even using described
  refine ⟨header, dataRows.map spell, dataRows.map Delimited.Row.line, ?_, by simp, ?_⟩
  · rw [found, List.map_cons, List.map_cons, spelledHeader, List.map_map]
    exact congrArg _ (List.map_congr_left spells)
  · rw [List.zipWith_map, List.zipWith_self]
    exact List.map_congr_left fun row member =>
      item_eq_itemOf located (spells row member) (even row member)

end Table

end SymbolBindings
