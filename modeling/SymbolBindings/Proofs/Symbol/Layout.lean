import SymbolBindings.Proofs.Symbol.Fields

/-! # Layouts of columns

A table may be laid out anew: further columns are put into it, and all of them are put into another
order. Rows of text keep their items, because fields are found by the names of their columns. Only a
row with a cell that is no text can tell where its cells stand.
-/

namespace SymbolBindings

/-! ## Items in another order -/

section Lists

variable {α β : Type}

/-- The items that stand at the positions of `order`, in that order. -/
def arrange (order : List Nat) (items : List α) : List α :=
  order.filterMap (items[·]?)

example : arrange [2, 0, 1] ["a", "b", "c"] = ["c", "a", "b"] := by decide

theorem arrange_range (items : List α) : arrange (List.range items.length) items = items := by
  rw [arrange]
  induction items with
  | nil => rfl
  | cons item rest induction =>
      simp only [List.length_cons, List.range_succ_eq_map, List.filterMap_cons,
        List.getElem?_cons_zero, List.filterMap_map]
      exact congrArg (item :: ·) induction

theorem arrange_perm {order : List Nat} {items : List α}
    (positions : order.Perm (List.range items.length)) : (arrange order items).Perm items := by
  have arranged := positions.filterMap (items[·]?)
  rwa [← arrange, ← arrange, arrange_range] at arranged

theorem map_arrange (transform : α → β) (order : List Nat) (items : List α) :
    (arrange order items).map transform = arrange order (items.map transform) := by
  simp only [arrange, List.map_filterMap, List.getElem?_map]

theorem zip_arrange (order : List Nat) {left : List α} {right : List β}
    (even : left.length = right.length) :
    (arrange order left).zip (arrange order right) = arrange order (left.zip right) := by
  simp only [arrange]
  induction order with
  | nil => rfl
  | cons position rest induction =>
      by_cases inside : position < left.length
      · have insideRight : position < right.length := even ▸ inside
        have insideZip : position < (left.zip right).length := by
          rw [List.length_zip]
          omega
        rw [List.filterMap_cons_some (List.getElem?_eq_getElem inside),
          List.filterMap_cons_some (List.getElem?_eq_getElem insideRight),
          List.filterMap_cons_some (List.getElem?_eq_getElem insideZip), List.zip_cons_cons,
          induction, List.getElem_zip]
      · have outside : left.length ≤ position := by omega
        have outsideRight : right.length ≤ position := by omega
        have outsideZip : (left.zip right).length ≤ position := by
          rw [List.length_zip]
          omega
        rw [List.filterMap_cons_none (List.getElem?_eq_none outside),
          List.filterMap_cons_none (List.getElem?_eq_none outsideRight),
          List.filterMap_cons_none (List.getElem?_eq_none outsideZip), induction]

/-- A key that stands once is found whatever the order. -/
theorem lookup_eq_of_perm [BEq α] [LawfulBEq α] {left right : List (α × β)}
    (perm : left.Perm right) {key : α} (single : (left.map Prod.fst).count key ≤ 1) :
    left.lookup key = right.lookup key := by
  induction perm with
  | nil => rfl
  | cons entry perm induction =>
      rcases entry with ⟨name, value⟩
      rw [List.map_cons, List.count_cons] at single
      have singleRest := induction (by omega)
      rw [List.lookup_cons, List.lookup_cons, singleRest]
  | swap second first rest =>
      rcases first with ⟨firstName, firstValue⟩
      rcases second with ⟨secondName, secondValue⟩
      simp only [List.map_cons, List.count_cons] at single
      simp only [List.lookup_cons]
      by_cases isFirst : key = firstName
      · subst isFirst
        by_cases isSecond : key = secondName
        · subst isSecond
          simp at single
        · simp [beq_eq_false_iff_ne.mpr isSecond]
      · simp [beq_eq_false_iff_ne.mpr isFirst]
  | trans front back inductionFront inductionBack =>
      rw [inductionFront single]
      apply inductionBack
      rwa [← (front.map Prod.fst).count_eq]

theorem lookup_zip_arrange [DecidableEq α] {order : List Nat} {keys further : List α}
    {values others : List β} {key : α}
    (positions : order.Perm (List.range (keys.length + further.length)))
    (even : values.length = keys.length) (evenOthers : others.length = further.length)
    (distinct : keys.Nodup) (foreign : key ∉ further) :
    ((arrange order (keys ++ further)).zip (arrange order (values ++ others))).lookup key =
      (keys.zip values).lookup key := by
  have evenWhole : (keys ++ further).length = (values ++ others).length := by
    simp only [List.length_append, even, evenOthers]
  have positionsZip : order.Perm (List.range ((keys ++ further).zip (values ++ others)).length) := by
    rwa [List.length_zip, ← evenWhole, Nat.min_self, List.length_append]
  have single : (((keys ++ further).zip (values ++ others)).map Prod.fst).count key ≤ 1 := by
    rw [List.map_fst_zip evenWhole.le, List.count_append, List.count_eq_zero.mpr foreign]
    exact List.nodup_iff_count_le_one.mp distinct key
  have absent : (further.zip others).lookup key = none := by
    rw [List.lookup_eq_none_iff]
    intro entry member
    rw [bne_iff_ne]
    rintro rfl
    exact foreign (List.of_mem_zip member).1
  rw [zip_arrange order evenWhole, ← lookup_eq_of_perm (arrange_perm positionsZip).symm single,
    List.zip_append even.symm, List.lookup_append, absent, Option.or_none]

end Lists

/-! ## Rows -/

theorem Text.exists_eq_map_octets_iff {cells : List (List UInt8)} :
    (∃ texts : List String, cells = texts.map octets) ↔ ∀ cell ∈ cells, IsText cell := by
  constructor
  · rintro ⟨texts, rfl⟩ cell member
    rcases List.mem_map.mp member with ⟨text, -, rfl⟩
    exact ⟨text, rfl⟩
  · intro readable
    choose! text spelled using readable
    refine ⟨cells.map text, ?_⟩
    rw [List.map_map]
    exact ((List.map_congr_left spelled).trans (List.map_id _)).symm

namespace Delimited.Row

/-- The row with further cells, and all of its cells in another order. -/
def arranged (order : List Nat) (further : List (List UInt8)) (row : Row) : Row :=
  ⟨row.line, arrange order (row.cells ++ further)⟩

theorem exists_spells_iff {row : Row} :
    (∃ texts, row.Spells texts) ↔ ∀ cell ∈ row.cells, Text.IsText cell :=
  Text.exists_eq_map_octets_iff

theorem isOk_texts_iff {row : Row} : row.texts.isOk = true ↔ ∃ texts, row.Spells texts := by
  rw [except_isOk_iff]
  constructor
  · rintro ⟨texts, read⟩
    rcases texts_eq_ok_iff.mp read with ⟨raw, spelled, -⟩
    exact ⟨raw, spelled⟩
  · rintro ⟨raw, spelled⟩
    exact ⟨raw.map Text.trim, texts_eq_ok_iff.mpr ⟨raw, spelled, rfl⟩⟩

variable {order : List Nat} {further : List (List UInt8)} {row : Row}

theorem length_arranged (positions : order.Perm (List.range (row.cells.length + further.length))) :
    (row.arranged order further).cells.length = row.cells.length + further.length := by
  rw [← List.length_append] at positions ⊢
  exact (arrange_perm positions).length_eq

theorem Spells.arranged {texts names : List String} (spelled : row.Spells texts) :
    (row.arranged order (names.map Text.octets)).Spells (arrange order (texts ++ names)) := by
  rw [Spells, map_arrange, List.map_append, Row.arranged, spelled]

theorem exists_spells_of_arranged
    (positions : order.Perm (List.range (row.cells.length + further.length)))
    (readable : ∃ texts, (row.arranged order further).Spells texts) :
    ∃ texts, row.Spells texts := by
  rw [← List.length_append] at positions
  rw [exists_spells_iff] at readable ⊢
  intro cell member
  exact readable cell ((arrange_perm positions).mem_iff.mpr (List.mem_append_left _ member))

end Delimited.Row

/-! ## Fields -/

namespace Table

/-- The columns that are read. All others are passed over. -/
def knownColumns : List String :=
  requiredColumns ++ ["params"]

section Fields

variable {order : List Nat} {header names row cells : List String} {column : String}
  (positions : order.Perm (List.range (header.length + names.length)))
  (foreign : column ∉ names.map Text.trim)
include positions foreign

theorem mem_arranged_header_iff :
    column ∈ (arrange order (header ++ names)).map Text.trim ↔ column ∈ header.map Text.trim := by
  rw [← List.length_append] at positions
  rw [((arrange_perm positions).map Text.trim).mem_iff, List.map_append, List.mem_append]
  exact or_iff_left foreign

theorem field_arranged (distinct : (header.map Text.trim).Nodup) (even : row.length = header.length)
    (evenCells : cells.length = names.length) :
    field (arrange order (header ++ names)) (arrange order (row ++ cells)) column =
      field header row column := by
  simp only [field, map_arrange, List.map_append]
  rw [lookup_zip_arrange (by simpa using positions) (by simpa using even)
    (by simpa using evenCells) distinct foreign]

end Fields

/-- Fields that are read stay the same, so the row still describes the same item. -/
theorem itemOf_arranged {order : List Nat} {header names row cells : List String}
    (positions : order.Perm (List.range (header.length + names.length)))
    (foreign : ∀ column ∈ knownColumns, column ∉ names.map Text.trim)
    (distinct : (header.map Text.trim).Nodup) (even : row.length = header.length)
    (evenCells : cells.length = names.length) (line : Nat) :
    itemOf (arrange order (header ++ names)) line (arrange order (row ++ cells)) =
      itemOf header line row := by
  have sameField : ∀ column ∈ knownColumns,
      field (arrange order (header ++ names)) (arrange order (row ++ cells)) column =
        field header row column := by
    intro column known
    exact field_arranged positions (foreign column known) distinct even evenCells
  have sameParams := mem_arranged_header_iff positions (foreign "params" (by decide))
  simp only [itemOf, symbolOf, sameField "name" (by decide), sameField "entry" (by decide),
    sameField "status" (by decide), sameField "type" (by decide),
    sameField "params" (by decide), sameParams]

end Table

/-! ## Headers -/

namespace Columns

section SameColumns

variable {header other : List String}
  (same : ∀ column ∈ Table.requiredColumns, column ∈ other ↔ column ∈ header)
include same

theorem require_error_congr {column : String} {failure : Failure}
    (required : column ∈ Table.requiredColumns) (refused : require header column = .error failure) :
    require other column = .error failure := by
  have missing : column ∉ header := by
    rw [← exists_position_iff]
    rintro ⟨index, found⟩
    rw [require_eq_ok_iff.mpr found] at refused
    cases refused
  rw [require, position_eq_none_iff.mpr missing] at refused
  rw [require, position_eq_none_iff.mpr (mt (same column required).mp missing), refused]

theorem exists_require_congr {column : String} {index : Nat}
    (required : column ∈ Table.requiredColumns) (found : require header column = .ok index) :
    ∃ position, require other column = .ok position := by
  have present := exists_position_iff.mp ⟨index, require_eq_ok_iff.mp found⟩
  rcases exists_position_iff.mpr ((same column required).mpr present) with ⟨position, foundOther⟩
  exact ⟨position, require_eq_ok_iff.mpr foundOther⟩

/-- Headers that lack the same columns are refused for the same one. -/
theorem locate_error_congr {failure : Failure} (refused : locate header = .error failure) :
    locate other = .error failure := by
  simp only [locate, bind, except_bind_eq_error_iff, pure, Except.pure, reduceCtorEq, and_false,
    exists_false, or_false] at refused ⊢
  rcases refused with nameRefused | ⟨_, nameFound, entryRefused | ⟨_, entryFound,
    statusRefused | ⟨_, statusFound, typeRefused⟩⟩⟩
  · exact .inl (require_error_congr same (by decide) nameRefused)
  · rcases exists_require_congr same (by decide) nameFound with ⟨name, nameOther⟩
    exact .inr ⟨name, nameOther, .inl (require_error_congr same (by decide) entryRefused)⟩
  · rcases exists_require_congr same (by decide) nameFound with ⟨name, nameOther⟩
    rcases exists_require_congr same (by decide) entryFound with ⟨entry, entryOther⟩
    exact .inr ⟨name, nameOther, .inr ⟨entry, entryOther,
      .inl (require_error_congr same (by decide) statusRefused)⟩⟩
  · rcases exists_require_congr same (by decide) nameFound with ⟨name, nameOther⟩
    rcases exists_require_congr same (by decide) entryFound with ⟨entry, entryOther⟩
    rcases exists_require_congr same (by decide) statusFound with ⟨status, statusOther⟩
    exact .inr ⟨name, nameOther, .inr ⟨entry, entryOther, .inr ⟨status, statusOther,
      require_error_congr same (by decide) typeRefused⟩⟩⟩

theorem exists_locate_congr {columns : Columns} (located : locate header = .ok columns) :
    ∃ others, locate other = .ok others := by
  have complete := exists_locate_iff.mp ⟨columns, located⟩
  apply exists_locate_iff.mpr
  intro column required
  exact (same column required).mpr (complete column required)

end SameColumns

end Columns

/-! ## Items -/

namespace Table

/-- The same failure, but for the place that is told of a cell that is no text. Only some of the rows
can be such that there is a place to tell. -/
inductive SameFailure (rows : List Delimited.Row) : Failure → Failure → Prop
  | same (failure : Failure) : SameFailure rows failure failure
  | displaced {row : Delimited.Row} (member : row ∈ rows) (unreadable : ¬∃ texts, row.Spells texts)
      (cell other : Delimited.IllFormed) :
      SameFailure rows (malformedCell row.line cell) (malformedCell row.line other)

/-- Both come to values of this kind, or both to the same failure but for its place. -/
inductive SameButPlace {α : Type} (rows : List Delimited.Row) (same : α → α → Prop) :
    Except Failure α → Except Failure α → Prop
  | ok {value other : α} (alike : same value other) : SameButPlace rows same (.ok value) (.ok other)
  | error {failure other : Failure} (alike : SameFailure rows failure other) :
      SameButPlace rows same (.error failure) (.error other)

theorem SameButPlace.refl {α : Type} {rows : List Delimited.Row} (result : Except Failure α) :
    SameButPlace rows Eq result result := by
  cases result with
  | error failure => exact .error (.same failure)
  | ok value => exact .ok rfl

/-- There is no place to tell in a table of text. -/
theorem SameButPlace.eq_of_readable {α : Type} {rows : List Delimited.Row}
    {result other : Except Failure α} (alike : SameButPlace rows Eq result other)
    (readable : ∀ row ∈ rows, ∃ texts, row.Spells texts) : other = result := by
  cases alike with
  | ok same => rw [same]
  | error alike =>
      cases alike with
      | same failure => rfl
      | displaced member unreadable cell place => exact absurd (readable _ member) unreadable

theorem item_of_unreadable {row : Delimited.Row} {width : Nat} (columns : Columns)
    (even : row.cells.length = width) (unreadable : ¬∃ texts, row.Spells texts) :
    ∃ cell, item columns width row = .error (malformedCell row.line cell) := by
  rw [item, if_neg (not_not.mpr even)]
  rw [← Delimited.Row.isOk_texts_iff] at unreadable
  cases read : row.texts with
  | error cell => exact ⟨cell, rfl⟩
  | ok texts => exact absurd (read ▸ rfl) unreadable

section Items

variable {columns others : Columns} {order : List Nat} {header names : List String}
  (positions : order.Perm (List.range (header.length + names.length)))
  (foreign : ∀ column ∈ knownColumns, column ∉ names.map Text.trim)
  (distinct : (header.map Text.trim).Nodup)
  (located : Columns.locate (header.map Text.trim) = .ok columns)
  (locatedOther : Columns.locate ((arrange order (header ++ names)).map Text.trim) = .ok others)
include positions foreign distinct located locatedOther

/-- A row of text describes the same item in every layout, and any other row is refused in every
layout. -/
theorem item_arranged {rows : List Delimited.Row} {row : Delimited.Row} (member : row ∈ rows)
    {further : List (List UInt8)} (even : row.cells.length = header.length)
    (evenFurther : further.length = names.length) (texts : ∀ cell ∈ further, Text.IsText cell) :
    SameButPlace rows Eq (item columns header.length row)
      (item others (arrange order (header ++ names)).length (row.arranged order further)) := by
  have positionsRow : order.Perm (List.range (row.cells.length + further.length)) := by
    rwa [even, evenFurther]
  have evenArranged : (row.arranged order further).cells.length =
      (arrange order (header ++ names)).length := by
    rw [← List.length_append] at positions
    rw [Delimited.Row.length_arranged positionsRow, even, evenFurther, ← List.length_append,
      (arrange_perm positions).length_eq]
  by_cases readable : ∃ texts, row.Spells texts
  case pos =>
    rcases readable with ⟨raw, spelled⟩
    rcases Text.exists_eq_map_octets_iff.mpr texts with ⟨cells, rfl⟩
    have spelledArranged : (row.arranged order (cells.map Text.octets)).Spells
        (arrange order (raw ++ cells)) := spelled.arranged
    have evenRaw := spelled.length_eq.symm.trans even
    rw [item_eq_itemOf located spelled evenRaw,
      item_eq_itemOf locatedOther spelledArranged (spelledArranged.length_eq.symm.trans evenArranged),
      itemOf_arranged positions foreign distinct evenRaw (by simpa using evenFurther)]
    exact .refl _
  case neg =>
    have unreadable := mt (Delimited.Row.exists_spells_of_arranged positionsRow) readable
    rcases item_of_unreadable columns even readable with ⟨cell, refused⟩
    rcases item_of_unreadable others evenArranged unreadable with ⟨other, refusedOther⟩
    rw [refused, refusedOther]
    exact .error (.displaced member readable cell other)

end Items

/-! ## Tables -/

/-- The header of a text. Where there is no row, the header is empty. -/
def headerRow (octets : List UInt8) : Delimited.Row :=
  (Delimited.rows true octets).headD ⟨1, []⟩

def dataRows (octets : List UInt8) : List Delimited.Row :=
  (Delimited.rows true octets).tail

theorem read_ofOctets_eq_ofRows (octets : List UInt8) :
    read (.ofOctets octets) = ofRows (headerRow octets) (dataRows octets) :=
  read_ofOctets octets

/-- All rows have as many cells as the header, and no name stands twice in it. -/
structure IsRegular (header : Delimited.Row) (rows : List Delimited.Row) : Prop where
  even : ∀ row ∈ rows, row.cells.length = header.cells.length
  distinct : ∀ names, header.Spells names → (names.map Text.trim).Nodup

theorem IsRegular.of_spells {header : Delimited.Row} {rows : List Delimited.Row}
    {names : List String} (even : ∀ row ∈ rows, row.cells.length = header.cells.length)
    (spelled : header.Spells names) (distinct : (names.map Text.trim).Nodup) :
    IsRegular header rows where
  even := even
  distinct others spelledOthers := by
    rwa [← spelled.unique spelledOthers]

/-- Further columns are put into a table under these names, with cells of the allowed kind, and then
all columns are put into this order. -/
structure LaidOut (allowed : List UInt8 → Prop) (names : List String) (order : List Nat)
    (header : Delimited.Row) (rows : List Delimited.Row)
    (otherHeader : Delimited.Row) (others : List Delimited.Row) : Prop where
  positions : order.Perm (List.range (header.cells.length + names.length))
  foreign : ∀ column ∈ knownColumns, column ∉ names.map Text.trim
  header_eq : otherHeader = header.arranged order (names.map Text.octets)
  rows_eq : List.Forall₂
    (fun row other => ∃ further : List (List UInt8), further.length = names.length ∧
      (∀ cell ∈ further, allowed cell) ∧ other = row.arranged order further) rows others

theorem ofRows_of_spells {header : Delimited.Row} {names : List String}
    (spelled : header.Spells names) (rows : List Delimited.Row) :
    ofRows header rows = (Columns.locate (names.map Text.trim)).map fun columns =>
      ⟨names.map Text.trim, rows.map (item columns names.length)⟩ := by
  have read := Delimited.Row.headerTexts_eq_ok_iff.mpr ⟨names, spelled, rfl⟩
  simp only [ofRows, read, spelled.length_eq]
  cases Columns.locate (names.map Text.trim) <;> rfl

theorem ofRows_of_unreadable {header : Delimited.Row} (unreadable : ¬∃ names, header.Spells names)
    (rows : List Delimited.Row) :
    ∃ cell, ofRows header rows = .error (malformedCell header.line cell) := by
  cases read : header.headerTexts with
  | error cell => exact ⟨cell, by simp only [ofRows, read]⟩
  | ok names =>
      rcases Delimited.Row.headerTexts_eq_ok_iff.mp read with ⟨raw, spelled, -⟩
      exact absurd ⟨raw, spelled⟩ unreadable

/-- A table is the same in every layout, up to the places of cells that are no text. -/
theorem LaidOut.sameButPlace {names : List String} {order : List Nat}
    {header otherHeader : Delimited.Row} {rows others : List Delimited.Row}
    (laidOut : LaidOut Text.IsText names order header rows otherHeader others)
    (regular : IsRegular header rows) :
    SameButPlace (header :: rows)
      (fun table other => List.Forall₂ (SameButPlace (header :: rows) Eq) table.items other.items)
      (ofRows header rows) (ofRows otherHeader others) := by
  have positions := laidOut.positions
  rw [laidOut.header_eq]
  by_cases readable : ∃ texts, header.Spells texts
  case neg =>
    have positionsHeader :
        order.Perm (List.range (header.cells.length + (names.map Text.octets).length)) := by
      rwa [List.length_map]
    have unreadable := mt (Delimited.Row.exists_spells_of_arranged positionsHeader) readable
    rcases ofRows_of_unreadable readable rows with ⟨cell, refused⟩
    rcases ofRows_of_unreadable unreadable others with ⟨other, refusedOther⟩
    rw [refused, refusedOther]
    exact .error (.displaced List.mem_cons_self readable cell other)
  case pos =>
    rcases readable with ⟨raw, spelled⟩
    rw [spelled.length_eq] at positions
    have sameColumns : ∀ column ∈ requiredColumns,
        column ∈ (arrange order (raw ++ names)).map Text.trim ↔ column ∈ raw.map Text.trim := by
      intro column required
      apply mem_arranged_header_iff positions
      exact laidOut.foreign column (List.mem_append_left _ required)
    rw [ofRows_of_spells spelled, ofRows_of_spells spelled.arranged]
    cases located : Columns.locate (raw.map Text.trim) with
    | error failure =>
        rw [Columns.locate_error_congr sameColumns located]
        exact .error (.same failure)
    | ok columns =>
        rcases Columns.exists_locate_congr sameColumns located with ⟨other, locatedOther⟩
        rw [locatedOther]
        refine .ok ?_
        have inTable : ∀ row ∈ rows,
            row ∈ header :: rows ∧ row.cells.length = header.cells.length := by
          intro row member
          exact ⟨List.mem_cons_of_mem header member, regular.even row member⟩
        rw [List.forall₂_map_left_iff, List.forall₂_map_right_iff]
        apply ((List.forall₂_and_left _ _).mpr ⟨inTable, laidOut.rows_eq⟩).imp
        rintro row _ ⟨⟨member, even⟩, further, evenFurther, texts, rfl⟩
        exact item_arranged positions laidOut.foreign (regular.distinct raw spelled) located
          locatedOther member (even.trans spelled.length_eq) evenFurther texts

end Table

end SymbolBindings
