import SymbolBindings.Proofs.Generate.Progress
import SymbolBindings.Proofs.Results
import SymbolBindings.Proofs.Symbol.Fields

/-! # Internal failures

Mismatched kinds and missing types point at declarations that were put together by hand. What is
declared of a symbol fits the way in which it is written, so only the sink can refuse it. And no
other step of a run has such a failure to report.
-/

namespace SymbolBindings

variable {α β : Type}

/-- If the result is a failure, it is not an internal one. -/
def NeverInternal (result : Except Failure α) : Prop :=
  ∀ failure, result = .error failure → failure.isInternal = false

namespace NeverInternal

theorem ok (value : α) : NeverInternal (.ok value) := by
  intro failure failed
  cases failed

theorem error {failure : Failure} (outward : failure.isInternal = false) :
    NeverInternal (.error failure : Except Failure α) := by
  intro other failed
  cases failed
  exact outward

theorem bind {result : Except Failure α} {next : α → Except Failure β}
    (first : NeverInternal result) (second : ∀ value, NeverInternal (next value)) :
    NeverInternal (result.bind next) := by
  intro failure failed
  rcases except_bind_eq_error_iff.mp failed with early | ⟨value, -, late⟩
  · exact first failure early
  · exact second value failure late

theorem map {result : Except Failure α} (transform : α → β) (first : NeverInternal result) :
    NeverInternal (result.map transform) := by
  cases result with
  | ok value => exact .ok (transform value)
  | error failure => exact .error (first failure rfl)

end NeverInternal

/-! ## Tables -/

namespace Columns

theorem neverInternal_require (header : List String) (column : String) :
    NeverInternal (require header column) := by
  unfold require
  split
  · exact .ok _
  · exact .error rfl

theorem neverInternal_locate (header : List String) : NeverInternal (locate header) := by
  unfold locate
  apply (neverInternal_require header "name").bind
  intro name
  apply (neverInternal_require header "entry").bind
  intro entry
  apply (neverInternal_require header "status").bind
  intro status
  apply (neverInternal_require header "type").bind
  intro type
  exact .ok _

theorem neverInternal_symbol (columns : Columns) (line : Nat) (row : List String) :
    NeverInternal (columns.symbol line row) := by
  simp only [symbol]
  split
  · exact .error rfl
  · split
    · exact .error rfl
    · exact .ok _

end Columns

namespace Table

theorem neverInternal_item (columns : Columns) (width : Nat) (row : Delimited.Row) :
    NeverInternal (item columns width row) := by
  unfold item
  split
  · exact .error rfl
  · split
    · exact .error rfl
    · exact columns.neverInternal_symbol row.line _

theorem neverInternal_ofRows (header : Delimited.Row) (rows : List Delimited.Row) :
    NeverInternal (ofRows header rows) := by
  unfold ofRows
  split
  · exact .error rfl
  · exact (Columns.neverInternal_locate _).bind fun columns => .ok _

theorem neverInternal_read (source : Source) : NeverInternal (read source) := by
  unfold read
  split
  · exact neverInternal_ofRows _ _
  · exact (neverInternal_ofRows _ _).map _
  · exact neverInternal_ofRows _ _
  · exact .error rfl

theorem neverInternal_of_mem_ofRows {header : Delimited.Row} {rows : List Delimited.Row}
    {table : Table} (accepted : ofRows header rows = .ok table) :
    ∀ item ∈ table.items, NeverInternal item := by
  rcases ofRows_eq_ok_iff.mp accepted with ⟨names, columns, -, -, rfl⟩
  intro item member
  rcases List.mem_map.mp member with ⟨row, -, rfl⟩
  exact neverInternal_item columns names.length row

theorem neverInternal_of_mem {source : Source} {table : Table}
    (accepted : read source = .ok table) : ∀ item ∈ table.items, NeverInternal item := by
  unfold read at accepted
  split at accepted
  case h_1 => exact neverInternal_of_mem_ofRows accepted
  case h_2 fault _ _ =>
    rcases except_map_eq_ok_iff.mp accepted with ⟨whole, read, rfl⟩
    intro item member
    rcases List.mem_append.mp member with inTable | isFault
    · exact neverInternal_of_mem_ofRows read item inTable
    · rw [List.mem_singleton.mp isFault]
      exact .error rfl
  case h_3 => exact neverInternal_of_mem_ofRows accepted
  case h_4 => cases accepted

end Table

/-! ## Declarations -/

namespace Declaration

variable {symbol : Symbol} {name : String} {declaration : Declaration}

/-- A declared variable is nothing more than its type. -/
theorem of_made_object (made : ofSymbol symbol name = .ok declaration)
    (object : declaration.kind = .object) :
    (∃ type, declaration.type = some type) ∧ declaration.parameters = [] ∧
      declaration.variadic = false := by
  unfold ofSymbol at made
  cases kind : symbol.kind <;> rw [kind] at made <;> cases made
  case object => exact ⟨⟨_, rfl⟩, rfl, rfl⟩
  case function => cases object

/-- What is declared of a symbol is written as what it is. -/
theorem exists_block_of_kind (made : ofSymbol symbol name = .ok declaration) :
    ∃ text, declaration.block = .ok text ∧
      (declaration.kind = .object ∧ declaration.objectBlock = .ok text ∨
        declaration.kind = .function ∧ declaration.functionBlock = .ok text) := by
  rcases exists_block made with ⟨text, found⟩
  refine ⟨text, found, ?_⟩
  unfold block at found
  cases kind : declaration.kind with
  | object =>
      rw [kind] at found
      exact .inl ⟨rfl, found⟩
  | function =>
      rw [kind] at found
      exact .inr ⟨rfl, found⟩
  | other entry =>
      have declarable := exists_ofSymbol_iff.mp ⟨declaration, made⟩
      rw [← (of_made made).2.1, kind] at declarable
      cases declarable

/-- Only the sink can refuse what is declared of a symbol. -/
theorem perform_of_block {text : String} (found : declaration.block = .ok text) (sink : Sink) :
    sink.perform (.declaration declaration) =
      ((sink.write text).1.mapError .system, (sink.write text).2) := by
  rw [Sink.perform_declaration found, octets_of_block found]
  rfl

end Declaration

/-! ## Runs -/

namespace Generate

theorem neverInternal_declare {symbol : Symbol} {name : String} {declaration : Declaration}
    (made : Declaration.ofSymbol symbol name = .ok declaration) (progress : Progress) :
    NeverInternal (declare declaration progress).1 := by
  rcases Declaration.exists_block made with ⟨text, found⟩
  simp only [declare, Declaration.perform_of_block found]
  cases result : (progress.sink.write text).1 with
  | error fault => exact .error rfl
  | ok => exact .ok ()

theorem neverInternal_takeItem (options : Options) {item : Item} (outward : NeverInternal item)
    (progress : Progress) : NeverInternal (takeItem options item progress).1 := by
  obtain ⟨verdict, judged⟩ : ∃ verdict, Verdict.Judged options.matcher item verdict :=
    ⟨_, Verdict.judged_ofItem options.matcher item⟩
  rw [takeItem_eq_settle judged]
  cases judged with
  | failed failure => exact .error (outward failure rfl)
  | hidden kept => exact .ok ()
  | unmatched exported rejected => exact .ok ()
  | unsupported exported selected kind =>
      unfold settle
      cases options.policy with
      | skip => exact .ok ()
      | error => exact .error rfl
  | declared exported selected made => exact neverInternal_declare made (progress.meet true)

theorem neverInternal_takeItems (options : Options) {items : List Item}
    (outward : ∀ item ∈ items, NeverInternal item) (progress : Progress) :
    NeverInternal (takeItems options items progress).1 := by
  induction items generalizing progress with
  | nil => exact .ok ()
  | cons item rest induction =>
      rcases List.forall_mem_cons.mp outward with ⟨first, others⟩
      have step := neverInternal_takeItem options first progress
      rw [takeItems]
      rcases taken : takeItem options item progress with ⟨failure | _, after⟩
      · rw [taken] at step
        exact .error (step failure rfl)
      · exact induction others after

theorem neverInternal_runItems (options : Options) {items : List Item}
    (outward : ∀ item ∈ items, NeverInternal item) (sink : Sink) :
    NeverInternal (runItems options items sink).result := by
  have taking := neverInternal_takeItems options outward (.start sink)
  unfold runItems
  rcases taken : takeItems options items (.start sink) with ⟨failure | _, after⟩
  · rw [taken] at taking
    exact .error (taking failure rfl)
  · simp only
    split
    · exact .error rfl
    · exact .ok _

theorem neverInternal_run (options : Options) (source : Source) (sink : Sink) :
    NeverInternal (run options source sink).result := by
  cases read : Table.read source with
  | error failure =>
      rw [(run_of_read_error read options sink).1]
      exact .error (Table.neverInternal_read source failure read)
  | ok table =>
      rw [(run_of_read_ok read options sink).1]
      exact neverInternal_runItems options (Table.neverInternal_of_mem read) sink

theorem neverInternal_runAt (options : Options) (path : String)
    (opened : Except SystemFault Source) (sink : Sink) :
    NeverInternal (runAt options path opened sink).result := by
  cases opened with
  | error fault => exact .error rfl
  | ok source => exact neverInternal_run options source sink

/-- No run ends with an internal failure, whatever is read and wherever it is written to. Something
is declared of every symbol unless it is neither a variable nor a function; it is complete for what
it is, and writing it fails only if the sink does. -/
theorem run_never_internal :
    (∀ options source sink, NeverInternal (run options source sink).result) ∧
      (∀ options path opened sink, NeverInternal (runAt options path opened sink).result) ∧
      ∀ symbol name,
        ((∃ failure, Declaration.ofSymbol symbol name = .error failure) ↔
          ∃ entry, symbol.kind = .other entry) ∧
        ∀ declaration, Declaration.ofSymbol symbol name = .ok declaration →
          (declaration.kind = .object →
            (∃ type, declaration.type = some type) ∧ declaration.parameters = [] ∧
              declaration.variadic = false) ∧
          ∃ text, declaration.block = .ok text ∧
            (declaration.kind = .object ∧ declaration.objectBlock = .ok text ∨
              declaration.kind = .function ∧ declaration.functionBlock = .ok text) ∧
            ∀ sink : Sink, sink.perform (.declaration declaration) =
              ((sink.write text).1.mapError .system, (sink.write text).2) := by
  refine ⟨neverInternal_run, neverInternal_runAt, ?_⟩
  intro symbol name
  constructor
  · simp only [Declaration.ofSymbol_eq_error_iff]
    constructor
    · rintro ⟨failure, entry, kind, -⟩
      exact ⟨entry, kind⟩
    · rintro ⟨entry, kind⟩
      exact ⟨_, entry, kind, rfl⟩
  · intro declaration made
    rcases Declaration.exists_block_of_kind made with ⟨text, found, path⟩
    exact ⟨Declaration.of_made_object made, text, found, path,
      fun sink => Declaration.perform_of_block found sink⟩

/-- A variable whose type is spelled by nothing is complete, too, and only a full sink stops it. -/
theorem run_never_internal_full :
    (run ⟨⟨none, false⟩, .error⟩
        (.ofOctets (Text.octets "name,entry,status,type\na,Variable,+,\n"))
        (.bounded 3 .takesNothing)).result = .error (.system .nothingTaken) ∧
      (Failure.system .nothingTaken).isInternal = false ∧
      Declaration.ofSymbol ⟨"a", .object, true, "", "int", some 2⟩ "a" =
        .ok ⟨.object, "a", none, some ⟨.unresolved "", 0⟩, [], false⟩ ∧
      (∃ type, some (⟨.unresolved "", 0⟩ : HostType) = some type) ∧
      ∃ text, (⟨.object, "a", none, some ⟨.unresolved "", 0⟩, [], false⟩ : Declaration).block =
          .ok text ∧
        ((Sink.bounded 3 .takesNothing).perform
          (.declaration ⟨.object, "a", none, some ⟨.unresolved "", 0⟩, [], false⟩)).1 =
            ((Sink.bounded 3 .takesNothing).write text).1.mapError .system := by
  have failed : (run ⟨⟨none, false⟩, .error⟩
      (.ofOctets (Text.octets "name,entry,status,type\na,Variable,+,\n"))
      (.bounded 3 .takesNothing)).result = .error (.system .nothingTaken) := by rfl
  have made : Declaration.ofSymbol ⟨"a", .object, true, "", "int", some 2⟩ "a" =
      .ok ⟨.object, "a", none, some ⟨.unresolved "", 0⟩, [], false⟩ := by rfl
  rcases run_never_internal with ⟨runs, -, declares⟩
  rcases (declares _ "a").2 _ made with ⟨complete, text, found, -, written⟩
  exact ⟨failed, runs _ _ _ _ failed, made, (complete rfl).1, text, found,
    congrArg Prod.fst (written (.bounded 3 .takesNothing))⟩

end Generate

end SymbolBindings
