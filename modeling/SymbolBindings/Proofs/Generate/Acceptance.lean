import SymbolBindings.Proofs.Generate.Streaming
import SymbolBindings.Proofs.Results
import SymbolBindings.Proofs.Symbol.Fields

/-! # Acceptance

A run over a complete table with a sink that takes everything completes exactly if the table is
well-formed. Rows are checked whether or not they are exported or selected; the matcher matters only
where unsupported symbols are refused.
-/

namespace SymbolBindings.Generate

/-- What is asked of the texts of a row. -/
structure WellFormedRow (options : Options) (header row : List String) : Prop where
  even : row.length = header.length
  named : Table.field header row "name" ≠ ""
  complete : Table.field header row "entry" = "Function" → "params" ∈ header.map Text.trim
  supported : options.policy = .error → Table.field header row "status" = "+" →
    options.matcher.accepts (Table.field header row "name") = true →
      Table.field header row "entry" ∈ ["Variable", "Function"]

/-- The header and the rows below it are text, no column is missing, and every row is as it
should be. -/
def WellFormed (options : Options) (header : Delimited.Row) (rows : List Delimited.Row) : Prop :=
  ∃ names, header.Spells names ∧
    (∀ column ∈ Table.requiredColumns, column ∈ names.map Text.trim) ∧
    ∀ row ∈ rows, ∃ texts, row.Spells texts ∧ WellFormedRow options names texts

/-! ## Rows -/

theorem ending_eq_none_iff {options : Options} {item : Item} :
    options.ending item = none ↔
      ∃ symbol, item = .ok symbol ∧
        (options.policy = .error → symbol.exported = true →
          options.matcher.accepts symbol.name = true → symbol.kind.isDeclarable = true) := by
  cases item with
  | error failure => simp [Options.ending]
  | ok symbol =>
      simp only [Except.ok.injEq, exists_eq_left']
      cases kind : symbol.kind <;> simp [Options.ending, Kind.isDeclarable, kind]

/-- A row does not end the run exactly if it is well-formed. -/
theorem ending_itemOf_eq_none_iff {options : Options} {header row : List String} {line : Nat}
    (even : row.length = header.length) :
    options.ending (Table.itemOf header line row) = none ↔ WellFormedRow options header row := by
  rw [ending_eq_none_iff]
  constructor
  · intro goesOn
    rcases goesOn with ⟨symbol, described, supported⟩
    rcases Table.itemOf_eq_ok_iff.mp described with ⟨named, complete, rfl⟩
    refine ⟨even, named, complete, ?_⟩
    intro strict exported accepted
    have declarable := supported strict (decide_eq_true exported) accepted
    exact of_decide_eq_true ((Kind.isDeclarable_ofEntry _).symm.trans declarable)
  · intro wellFormed
    refine ⟨_, Table.itemOf_eq_ok_iff.mpr ⟨wellFormed.named, wellFormed.complete, rfl⟩, ?_⟩
    intro strict exported accepted
    have listed := wellFormed.supported strict (of_decide_eq_true exported) accepted
    exact (Kind.isDeclarable_ofEntry _).trans (decide_eq_true listed)

theorem ending_item_eq_none_iff {options : Options} {columns : Columns} {header : List String}
    {row : Delimited.Row} (located : Columns.locate (header.map Text.trim) = .ok columns) :
    options.ending (Table.item columns header.length row) = none ↔
      ∃ texts, row.Spells texts ∧ WellFormedRow options header texts := by
  constructor
  · intro goesOn
    rcases ending_eq_none_iff.mp goesOn with ⟨symbol, taken, _⟩
    rcases (Table.item_eq_ok_iff located).mp taken with ⟨texts, spelled, even, _⟩
    rw [Table.item_eq_itemOf located spelled even] at goesOn
    exact ⟨texts, spelled, (ending_itemOf_eq_none_iff even).mp goesOn⟩
  · intro spelled
    rcases spelled with ⟨texts, spelled, wellFormed⟩
    rw [Table.item_eq_itemOf located spelled wellFormed.even]
    exact (ending_itemOf_eq_none_iff wellFormed.even).mpr wellFormed

/-! ## Tables -/

theorem wellFormed_iff {options : Options} {header : Delimited.Row} {rows : List Delimited.Row} :
    WellFormed options header rows ↔
      ∃ table, Table.ofRows header rows = .ok table ∧
        ∀ item ∈ table.items, options.ending item = none := by
  constructor
  · intro wellFormed
    rcases wellFormed with ⟨names, spelled, complete, wellFormed⟩
    rcases Columns.exists_locate_iff.mpr complete with ⟨columns, located⟩
    refine ⟨_, Table.ofRows_eq_ok_iff.mpr ⟨names, columns, spelled, located, rfl⟩, ?_⟩
    intro item member
    rcases List.mem_map.mp member with ⟨row, rowMember, rfl⟩
    exact (ending_item_eq_none_iff located).mpr (wellFormed row rowMember)
  · intro accepted
    rcases accepted with ⟨table, read, goesOn⟩
    rcases Table.ofRows_eq_ok_iff.mp read with ⟨names, columns, spelled, located, rfl⟩
    refine ⟨names, spelled, Columns.exists_locate_iff.mp ⟨columns, located⟩, ?_⟩
    intro row member
    exact (ending_item_eq_none_iff located).mp (goesOn _ (List.mem_map_of_mem member))

section FaultFree

variable {sink : Sink} (roomy : sink.room = none) (steady : sink.flushFault = none)
include roomy steady

theorem run_isOk_iff (options : Options) (source : Source) :
    (run options source sink).result.isOk = true ↔
      ∃ table, Table.read source = .ok table ∧
        ∀ item ∈ table.items, options.ending item = none := by
  cases read : Table.read source with
  | error failure =>
      rw [(run_of_read_error read options sink).1, except_isOk_iff]
      simp
  | ok table =>
      rw [(run_of_read_ok read options sink).1,
        (streamed_runItems options table.items roomy steady).completes]
      simp

/-- Where unsupported symbols are skipped, the failure of a run is that of reading its table. -/
theorem run_eq_error_iff_of_skip (matcher : Matcher) (source : Source) (failure : Failure) :
    (run ⟨matcher, .skip⟩ source sink).result = .error failure ↔
      Table.read source = .error failure ∨
        ∃ table, Table.read source = .ok table ∧
          table.items.findSome? (fun | .error failure => some failure | .ok _ => none) =
            some failure := by
  have skipping : Options.ending ⟨matcher, .skip⟩ =
      fun | .error failure => some failure | .ok _ => none := by
    funext item
    cases item with
    | error failure => rfl
    | ok symbol => cases kind : symbol.kind <;> simp [Options.ending, kind]
  cases read : Table.read source with
  | error cause =>
      rw [(run_of_read_error read _ sink).1]
      simp
  | ok table =>
      rw [(run_of_read_ok read _ sink).1,
        (streamed_runItems _ table.items roomy steady).fails, skipping]
      simp

end FaultFree

/-- A table is accepted exactly if it is well-formed, and the matcher has no part in the failures of
runs that skip unsupported symbols. -/
theorem run_accepts_wellFormed (sink : Sink) (roomy : sink.room = none)
    (steady : sink.flushFault = none) :
    (∀ options octets,
      (run options (.ofOctets octets) sink).result.isOk = true ↔
        WellFormed options ((Delimited.rows true octets).headD ⟨1, []⟩)
          (Delimited.rows true octets).tail) ∧
      ∀ matcher other source failure,
        (run ⟨matcher, .skip⟩ source sink).result = .error failure ↔
          (run ⟨other, .skip⟩ source sink).result = .error failure := by
  constructor
  · intro options octets
    rw [run_isOk_iff roomy steady, Table.read_ofOctets, wellFormed_iff]
  · intro matcher other source failure
    rw [run_eq_error_iff_of_skip roomy steady, run_eq_error_iff_of_skip roomy steady]

/-- A function without a column for parameters spoils the table even where it is hidden. -/
theorem run_refuses_hidden_function :
    Sink.unbounded.room = none ∧ Sink.unbounded.flushFault = none ∧
      ¬WellFormed ⟨⟨some "furi_", true⟩, .skip⟩
        ((Delimited.rows true
          (Text.octets "type,name,entry,status\nint,a,Variable,+\nint,f, Function,-\n")).headD
            ⟨1, []⟩)
        (Delimited.rows true
          (Text.octets "type,name,entry,status\nint,a,Variable,+\nint,f, Function,-\n")).tail := by
  refine ⟨rfl, rfl, fun wellFormed => ?_⟩
  have completed := ((run_accepts_wellFormed .unbounded rfl rfl).1 _ _).mpr wellFormed
  exact absurd completed (by decide)

end SymbolBindings.Generate
