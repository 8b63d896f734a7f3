import SymbolBindings.Proofs.Delimited.Resuming
import SymbolBindings.Proofs.Symbol.Layout
import SymbolBindings.Proofs.Symbol.Lines

/-! # Safety of loading

Whatever the octets of a table are, no cell is looked up beyond the end of its row. Every row comes
to a symbol or to a malformation on the row's line, and to the same one below any other rows.
-/

namespace SymbolBindings

/-! ## Bounds -/

namespace Columns

/-- Where the cells of a row are looked up. -/
def positions (columns : Columns) : List Nat :=
  [columns.name, columns.entry, columns.status, columns.type] ++ columns.parameters.toList

theorem position_lt {header : List String} {column : String} {index : Nat}
    (found : position header column = some index) : index < header.length := by
  rcases List.findIdx?_eq_some_iff_getElem.mp found with ⟨inside, -⟩
  exact inside

/-- Columns are found within the header. -/
theorem positions_lt {header : List String} {columns : Columns}
    (located : locate header = .ok columns) :
    ∀ position ∈ columns.positions, position < header.length := by
  rcases locate_eq_ok_iff.mp located with ⟨name, entry, status, type, parameters⟩
  intro position member
  simp only [positions, List.mem_append, List.mem_cons, List.not_mem_nil, or_false,
    Option.mem_toList] at member
  rcases member with (rfl | rfl | rfl | rfl) | found
  · exact position_lt name
  · exact position_lt entry
  · exact position_lt status
  · exact position_lt type
  · exact position_lt (parameters ▸ found)

/-- The symbol of a row by `row[·]?` alone: to look beyond the end of the row leads to nothing at
all. -/
def symbolWithin (columns : Columns) (line : Nat) (row : List String) : Option Item := do
  let name ← row[columns.name]?
  if name = "" then return .error (.malformed (some line) .emptyName)
  let kind := Kind.ofEntry (← row[columns.entry]?)
  let parameters ← columns.parameters.mapM (row[·]?)
  if kind = .function ∧ columns.parameters = none then
    return .error (.malformed (some line) (.missingParameters name))
  let exported := isExportMark (← row[columns.status]?)
  let type ← row[columns.type]?
  return .ok ⟨name, kind, exported, type, parameters.getD "", some line⟩

theorem symbolWithin_eq {columns : Columns} {row : List String}
    (inside : ∀ position ∈ columns.positions, position < row.length) (line : Nat) :
    columns.symbolWithin line row = some (columns.symbol line row) := by
  have taken : ∀ position ∈ columns.positions, row[position]? = some (cell row position) := by
    intro position member
    rw [cell, List.getD_eq_getElem?_getD, List.getElem?_eq_getElem (inside position member)]
    rfl
  have takenParameters :
      columns.parameters.mapM (row[·]?) = some (columns.parameters.map (cell row)) := by
    cases found : columns.parameters with
    | none => rfl
    | some index => simp [taken index (by simp [positions, found])]
  unfold symbolWithin symbol
  simp only [taken columns.name (by simp [positions]), taken columns.entry (by simp [positions]),
    taken columns.status (by simp [positions]), taken columns.type (by simp [positions]),
    takenParameters, bind, Option.bind_some]
  split
  case isTrue => rfl
  case isFalse => split <;> rfl

end Columns

namespace Table

/-- A row whose cells are looked up: it has as many as the header, and they are the octets of these
texts. -/
structure Reaches (width : Nat) (row : Delimited.Row) (texts : List String) : Prop where
  even : row.cells.length = width
  read : row.texts = .ok texts

theorem Reaches.length_eq {width : Nat} {row : Delimited.Row} {texts : List String}
    (reaches : Reaches width row texts) : texts.length = width := by
  rcases Delimited.Row.texts_eq_ok_iff.mp reaches.read with ⟨raw, spelled, rfl⟩
  rw [List.length_map, ← spelled.length_eq, reaches.even]

def itemWithin (columns : Columns) (width : Nat) (row : Delimited.Row) : Option Item :=
  if row.cells.length ≠ width then
    some (.error (.malformed (some row.line) (.unevenRow row.cells.length width)))
  else
    match row.texts with
    | .error cell => some (.error (malformedCell row.line cell))
    | .ok texts => columns.symbolWithin row.line texts

/-- The table of a text, where to look beyond the end of any row leads to nothing at all. -/
def readWithin (octets : List UInt8) : Option (Except Failure Table) :=
  match (headerRow octets).headerTexts with
  | .error cell => some (.error (malformedCell (headerRow octets).line cell))
  | .ok names =>
    match Columns.locate names with
    | .error failure => some (.error failure)
    | .ok columns => do
      let items ← (dataRows octets).mapM (itemWithin columns (headerRow octets).cells.length)
      return .ok ⟨names, items⟩

theorem itemWithin_eq {header : List String} {columns : Columns}
    (located : Columns.locate header = .ok columns) (row : Delimited.Row) :
    itemWithin columns header.length row = some (item columns header.length row) := by
  unfold itemWithin item
  split
  case isTrue => rfl
  case isFalse even =>
    cases read : row.texts with
    | error cell => rfl
    | ok texts =>
        have reaches : Reaches header.length row texts := ⟨not_not.mp even, read⟩
        apply Columns.symbolWithin_eq
        rw [reaches.length_eq]
        exact Columns.positions_lt located

theorem readWithin_eq (octets : List UInt8) :
    readWithin octets = some (read (.ofOctets octets)) := by
  rw [read_ofOctets_eq_ofRows, readWithin, ofRows]
  cases decoded : (headerRow octets).headerTexts with
  | error cell => rfl
  | ok names =>
      have width : (headerRow octets).cells.length = names.length := by
        rcases Delimited.Row.headerTexts_eq_ok_iff.mp decoded with ⟨raw, spelled, rfl⟩
        rw [spelled.length_eq, List.length_map]
      simp only
      cases located : Columns.locate names with
      | error failure => rfl
      | ok columns =>
          have items : (dataRows octets).mapM (itemWithin columns names.length) =
              some ((dataRows octets).map (item columns names.length)) := by
            rw [funext (itemWithin_eq located)]
            exact List.mapM_pure
          simp only [width, items]
          rfl

end Table

/-! ## Reports -/

/-- What holds of every symbol that is read from a row: it has a name, its texts are trimmed, and
no kind of its own hides behind the words for variables and functions. -/
structure Symbol.IsClean (symbol : Symbol) : Prop where
  named : symbol.name ≠ ""
  name_trimmed : Text.trim symbol.name = symbol.name
  type_trimmed : Text.trim symbol.type = symbol.type
  parameters_trimmed : Text.trim symbol.parameters = symbol.parameters
  kind_ne (word : String) : word = "Variable" ∨ word = "Function" → symbol.kind ≠ .other word

/-- A row on this line comes to a clean symbol or to a malformation, and either carries the line. -/
inductive Item.Reports (line : Nat) : Item → Prop
  | symbol {symbol : Symbol} (clean : symbol.IsClean) (placed : symbol.line = some line) :
      Reports line (.ok symbol)
  | malformed (what : Malformation) : Reports line (.error (.malformed (some line) what))

theorem Text.trim_trim (text : String) : Text.trim (Text.trim text) = Text.trim text := by
  apply String.toList_injective
  rw [Text.toList_trim, Text.toList_trim, Text.trimBy_trimBy fun _ => id]

theorem Kind.ofEntry_ne_other {entry word : String} (known : word = "Variable" ∨ word = "Function") :
    Kind.ofEntry entry ≠ .other word := by
  unfold Kind.ofEntry
  split
  case isTrue => exact Kind.noConfusion
  case isFalse notVariable =>
    split
    case isTrue => exact Kind.noConfusion
    case isFalse notFunction =>
      intro same
      cases same
      exact known.elim notVariable notFunction

namespace Columns

theorem trim_cell {row : List String} (trimmed : ∀ text ∈ row, Text.trim text = text)
    (index : Nat) : Text.trim (cell row index) = cell row index := by
  rw [cell, List.getD_eq_getElem?_getD]
  cases found : row[index]? with
  | none => rfl
  | some text => exact trimmed text (List.mem_of_getElem? found)

theorem reports_symbol {row : List String} (trimmed : ∀ text ∈ row, Text.trim text = text)
    (columns : Columns) (line : Nat) : Item.Reports line (columns.symbol line row) := by
  unfold symbol
  simp only
  split
  case isTrue => exact .malformed _
  case isFalse named =>
    split
    case isTrue => exact .malformed _
    case isFalse =>
      refine .symbol ⟨named, trim_cell trimmed _, trim_cell trimmed _, ?_, ?_⟩ rfl
      · cases columns.parameters with
        | none => rfl
        | some index => exact trim_cell trimmed index
      · intro word known
        exact Kind.ofEntry_ne_other known

end Columns

namespace Table

theorem reports_item (columns : Columns) (width : Nat) (row : Delimited.Row) :
    Item.Reports row.line (item columns width row) := by
  unfold item
  split
  case isTrue => exact .malformed _
  case isFalse =>
    cases read : row.texts with
    | error cell => exact .malformed _
    | ok texts =>
        rcases Delimited.Row.texts_eq_ok_iff.mp read with ⟨raw, -, rfl⟩
        apply Columns.reports_symbol
        intro text member
        rcases List.mem_map.mp member with ⟨spelled, -, rfl⟩
        exact Text.trim_trim spelled

end Table

/-! ## Independence -/

/-- The failure without the line it tells. -/
def Failure.withoutLine : Failure → Failure
  | malformed _ what => malformed none what
  | unsupportedKind name entry _ => unsupportedKind name entry none
  | kindMismatch name expected found => kindMismatch name expected found
  | missingType name => missingType name
  | system fault => system fault

def Item.withoutLine : Item → Item
  | .ok symbol => .ok { symbol with line := none }
  | .error failure => .error failure.withoutLine

theorem Columns.withoutLine_symbol (columns : Columns) (row : List String) (line other : Nat) :
    Item.withoutLine (columns.symbol line row) = Item.withoutLine (columns.symbol other row) := by
  unfold Columns.symbol
  simp only
  split
  case isTrue => rfl
  case isFalse => split <;> rfl

namespace Table

/-- Only the line is not told by the cells of a row. -/
theorem withoutLine_item {row other : Delimited.Row} (same : row.cells = other.cells)
    (columns : Columns) (width : Nat) :
    (item columns width row).withoutLine = (item columns width other).withoutLine := by
  have sameTexts : row.texts = other.texts := by
    rw [Delimited.Row.texts, Delimited.Row.texts, same]
  unfold item
  rw [same, sameTexts]
  split
  case isTrue => rfl
  case isFalse =>
    cases other.texts with
    | error cell => rfl
    | ok texts => exact columns.withoutLine_symbol texts row.line other.line

theorem map_withoutLine_items (columns : Columns) (width : Nat) (rows : List Delimited.Row) :
    (rows.map (item columns width)).map Item.withoutLine =
      (rows.map Delimited.Row.cells).map fun cells =>
        (item columns width ⟨1, cells⟩).withoutLine := by
  rw [List.map_map, List.map_map]
  apply List.map_congr_left
  intro row _
  have sameCells : row.cells = (Delimited.Row.mk 1 row.cells).cells := rfl
  exact withoutLine_item sameCells columns width

/-- The data rows below the end of a row are those of the octets that follow it. -/
theorem cells_dataRows_below {index : Nat} {above : List UInt8}
    (ends : Delimited.RowEnds index above) (below : List UInt8) :
    ((dataRows (above ++ below)).drop index).map Delimited.Row.cells =
      (Delimited.Scanner.start.scan true below).map Delimited.Row.cells := by
  rw [dataRows, List.drop_tail]
  exact ends.cells_below true below

section Accepted

variable {octets others : List UInt8} {table other : Table}
  (accepted : read (.ofOctets octets) = .ok table)
include accepted

theorem exists_columns_of_read :
    ∃ columns, Columns.locate table.header = .ok columns ∧
      table.header.length = (headerRow octets).cells.length ∧
      table.items = (dataRows octets).map (item columns table.header.length) := by
  rw [read_ofOctets_eq_ofRows] at accepted
  rcases ofRows_eq_ok_iff.mp accepted with ⟨names, columns, spelled, located, rfl⟩
  refine ⟨columns, located, ?_, ?_⟩
  · rw [List.length_map, spelled.length_eq]
  · rw [List.length_map]

theorem header_eq_of_read (acceptedOther : read (.ofOctets others) = .ok other)
    (sameHeader : (headerRow others).cells = (headerRow octets).cells) :
    other.header = table.header := by
  rw [read_ofOctets_eq_ofRows] at accepted acceptedOther
  rcases ofRows_eq_ok_iff.mp accepted with ⟨names, columns, spelled, -, rfl⟩
  rcases ofRows_eq_ok_iff.mp acceptedOther with ⟨otherNames, otherColumns, spelledOther, -, rfl⟩
  have sameNames := spelled.unique (sameHeader.symm.trans spelledOther)
  rw [sameNames]

/-- In tables with one header, what a row comes to is told by its cells. -/
theorem exists_outcome (acceptedOther : read (.ofOctets others) = .ok other)
    (sameHeader : (headerRow others).cells = (headerRow octets).cells) :
    ∃ outcome : List (List UInt8) → Item,
      table.items.map Item.withoutLine =
          ((dataRows octets).map Delimited.Row.cells).map outcome ∧
        other.items.map Item.withoutLine =
          ((dataRows others).map Delimited.Row.cells).map outcome := by
  rcases exists_columns_of_read accepted with ⟨columns, located, -, items⟩
  rcases exists_columns_of_read acceptedOther with ⟨otherColumns, locatedOther, -, itemsOther⟩
  rw [header_eq_of_read accepted acceptedOther sameHeader] at locatedOther itemsOther
  have sameColumns := Except.ok.inj (locatedOther.symm.trans located)
  rw [sameColumns] at itemsOther
  rw [items, itemsOther, map_withoutLine_items, map_withoutLine_items]
  exact ⟨_, rfl, rfl⟩

end Accepted

/-- No cell is looked up beyond the end of its row. Every row comes to a clean symbol or to a
malformation, both with the row's line. Up to that line, equal rows come to the same under equal
headers, and so does all that stands below the end of a row, whatever is above. -/
theorem read_reports_every_row (octets : List UInt8) :
    readWithin octets = some (read (.ofOctets octets)) ∧
      ∀ table, read (.ofOctets octets) = .ok table →
        (∃ columns, Columns.locate table.header = .ok columns ∧
          ∀ row ∈ dataRows octets, ∀ texts, Reaches (headerRow octets).cells.length row texts →
            ∀ position ∈ columns.positions, position < texts.length) ∧
        List.Forall₂ (fun row item => Item.Reports row.line item) (dataRows octets) table.items ∧
        ∀ others other, read (.ofOctets others) = .ok other →
          (headerRow others).cells = (headerRow octets).cells →
            (∀ index position : Nat,
              (dataRows octets)[index]?.map Delimited.Row.cells =
                  (dataRows others)[position]?.map Delimited.Row.cells →
                table.items[index]?.map Item.withoutLine =
                  other.items[position]?.map Item.withoutLine) ∧
            ∀ index position above aboveOther below, octets = above ++ below →
              others = aboveOther ++ below → Delimited.RowEnds index above →
              Delimited.RowEnds position aboveOther →
                (table.items.drop index).map Item.withoutLine =
                  (other.items.drop position).map Item.withoutLine := by
  refine ⟨readWithin_eq octets, fun table accepted => ⟨?_, ?_, ?_⟩⟩
  · rcases exists_columns_of_read accepted with ⟨columns, located, width, -⟩
    refine ⟨columns, located, fun row _ texts reaches position member => ?_⟩
    rw [reaches.length_eq, ← width]
    exact Columns.positions_lt located position member
  · rcases exists_columns_of_read accepted with ⟨columns, -, -, items⟩
    rw [items, List.forall₂_map_right_iff, List.forall₂_same]
    intro row _
    exact reports_item columns table.header.length row
  · intro others other acceptedOther sameHeader
    rcases exists_outcome accepted acceptedOther sameHeader with ⟨outcome, items, itemsOther⟩
    constructor
    · intro index position sameCells
      rw [← List.getElem?_map, ← List.getElem?_map, items, itemsOther]
      simp only [List.getElem?_map, sameCells]
    · intro index position above aboveOther below split splitOther ends endsOther
      have rowsBelow := cells_dataRows_below ends below
      have rowsBelowOther := cells_dataRows_below endsOther below
      rw [← split] at rowsBelow
      rw [← splitOther] at rowsBelowOther
      have sameCells := congrArg (List.map outcome) (rowsBelow.trans rowsBelowOther.symm)
      simpa only [List.map_drop, items, itemsOther] using sameCells

/-- Below a row that is no text and below one of two lines, the same row comes to the same symbol on
another line. -/
theorem read_reports_every_row_below_unreadable :
    let header := Text.octets "entry,name,status,type\n"
    let unreadable := header ++ 0xFF :: Text.octets ",a,+,int\n"
    let readable := header ++ Text.octets "Variable,a,+,\"in\nt\"\n"
    let below := Text.octets "Variable, b ,-,int \n"
    ∃ table other, read (.ofOctets (unreadable ++ below)) = .ok table ∧
      read (.ofOctets (readable ++ below)) = .ok other ∧
      Delimited.RowEnds 1 unreadable ∧ Delimited.RowEnds 1 readable ∧
      readWithin (unreadable ++ below) = some (.ok table) ∧
      (table.items.drop 1).map Item.withoutLine = (other.items.drop 1).map Item.withoutLine ∧
      table.items = [.error (.malformed (some 2) (.illFormedText 0 0)),
        .ok ⟨"b", .object, false, "int", "", some 3⟩] ∧
      other.items = [.ok ⟨"a", .object, true, "in\nt", "", some 2⟩,
        .ok ⟨"b", .object, false, "int", "", some 4⟩] := by
  intro header unreadable readable below
  have accepted : read (.ofOctets (unreadable ++ below)) = .ok ⟨["entry", "name", "status", "type"],
      [.error (.malformed (some 2) (.illFormedText 0 0)),
        .ok ⟨"b", .object, false, "int", "", some 3⟩]⟩ := rfl
  have acceptedOther : read (.ofOctets (readable ++ below)) =
      .ok ⟨["entry", "name", "status", "type"],
        [.ok ⟨"a", .object, true, "in\nt", "", some 2⟩,
          .ok ⟨"b", .object, false, "int", "", some 4⟩]⟩ := rfl
  have ends : Delimited.RowEnds 1 unreadable :=
    ⟨header ++ 0xFF :: Text.octets ",a,+,int", Delimited.lineFeed, rfl, rfl, rfl⟩
  have endsOther : Delimited.RowEnds 1 readable :=
    ⟨header ++ Text.octets "Variable,a,+,\"in\nt\"", Delimited.lineFeed, rfl, rfl, rfl⟩
  rcases read_reports_every_row (unreadable ++ below) with ⟨within, reports⟩
  rcases (reports _ accepted).2.2 _ _ acceptedOther rfl with ⟨-, resumes⟩
  rw [accepted] at within
  exact ⟨_, _, accepted, acceptedOther, ends, endsOther, within,
    resumes 1 1 unreadable readable below rfl rfl ends endsOther, rfl, rfl⟩

end Table

end SymbolBindings
