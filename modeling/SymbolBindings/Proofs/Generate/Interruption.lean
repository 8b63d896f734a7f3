import SymbolBindings.Proofs.Delimited.Continuing
import SymbolBindings.Proofs.Generate.Streaming
import SymbolBindings.Proofs.Symbol.Fields

/-! # Interruption

A source may break off anywhere. A run over it writes the blocks of rows that had ended by then and
no others, and it fails: with the fault of the source or with what an earlier row has to say. Only a
source that breaks off right after its byte order mark is taken for an empty table.
-/

namespace SymbolBindings

namespace Table

/-- A source that broke off has the rows that ended before, and then its fault. -/
theorem read_of_breakOff {source : Source} {fault : SystemFault}
    (broken : source.breakOff = some fault) :
    read source =
      match source.rows with
      | [] => .error (.system fault)
      | header :: rows =>
        (ofRows header rows).map fun table =>
          { table with items := table.items ++ [.error (.system fault)] } := by
  unfold read
  rw [broken]
  cases source.rows <;> rfl

/-- Without a row there is no header to read the table by. -/
theorem read_of_no_rows {source : Source} (lost : source.rows = []) :
    ∃ failure, read source = .error failure := by
  unfold read
  rw [lost]
  cases source.breakOff with
  | none => exact ⟨_, rfl⟩
  | some fault => exact ⟨_, rfl⟩

/-- Rows below do not matter to the header, nor do later rows to the items above them. -/
theorem ofRows_append (header : Delimited.Row) (front rest : List Delimited.Row) :
    (∃ failure, ofRows header front = .error failure ∧
        ofRows header (front ++ rest) = .error failure) ∨
      ∃ names items later, ofRows header front = .ok ⟨names, items⟩ ∧
        ofRows header (front ++ rest) = .ok ⟨names, items ++ later⟩ := by
  unfold ofRows
  cases header.headerTexts with
  | error cell => exact .inl ⟨_, rfl, rfl⟩
  | ok names =>
      cases located : Columns.locate names with
      | error failure => exact .inl ⟨failure, by simp [located, bind, Except.bind]⟩
      | ok columns =>
          refine .inr ⟨names, front.map (item columns header.cells.length),
            rest.map (item columns header.cells.length), ?_, ?_⟩
          · simp only [located, bind, Except.bind, pure, Except.pure]
          · simp only [located, bind, Except.bind, pure, Except.pure, List.map_append]

end Table

namespace Generate

/-! ## Items -/

theorem takeWhile_append_ending {options : Options} {last : Item}
    (ends : (options.ending last).isSome) (front rest : List Item) :
    ((front ++ [last]).takeWhile fun item => (options.ending item).isNone) <+:
      (front ++ rest).takeWhile fun item => (options.ending item).isNone := by
  have stops : ([last].takeWhile fun item => (options.ending item).isNone) = [] := by
    rw [List.takeWhile_cons_of_neg (by simpa [Option.isSome_iff_ne_none] using ends)]
  rw [List.takeWhile_append, List.takeWhile_append, stops]
  split
  · rw [List.append_nil]
    exact List.prefix_append _ _
  · exact List.prefix_rfl

/-- Of two runs, one writes the first of the blocks that the other writes, each of them whole. -/
def WritesStart (matcher : Matcher) (before broken whole : Sink) : Prop :=
  ∃ symbols blocks later, List.Forall₂ (BlockOf matcher) symbols (blocks ++ later) ∧
    broken.pieces = (blocks.map Text.octets).reverse ++ before.pieces ∧
    whole.pieces = ((blocks ++ later).map Text.octets).reverse ++ before.pieces

theorem writesStart_of_prefix {matcher : Matcher} {front items : List Item} (sink : Sink)
    (start : front <+: items) :
    WritesStart matcher sink ((Progress.start sink).addAll matcher front).sink
      ((Progress.start sink).addAll matcher items).sink := by
  rcases exists_blocks matcher items with ⟨blocks, related, same⟩
  rcases List.IsPrefix.filterMap (fun item => (Verdict.ofItem matcher item).declaration?) start with
    ⟨later, split⟩
  change declarations matcher front ++ later = declarations matcher items at split
  rw [← split, List.map_append] at same
  rcases List.append_eq_map_iff.mp same with ⟨first, others, rfl, sameFirst, sameOthers⟩
  refine ⟨_, first, others, related, ?_, ?_⟩
  · rw [Progress.pieces_addAll, ← sameFirst]
    rfl
  · rw [Progress.pieces_addAll, ← split, List.map_append, ← sameFirst, ← sameOthers,
      List.map_append]
    rfl

theorem WritesStart.written {matcher : Matcher} {before broken whole : Sink}
    (start : WritesStart matcher before broken whole) : broken.written <+: whole.written := by
  rcases start with ⟨symbols, blocks, later, -, brokenPieces, wholePieces⟩
  rw [Sink.written, Sink.written, brokenPieces, wholePieces]
  simp [List.map_append, List.prefix_append]

/-- Where the rows are followed by a fault instead of more rows, the run ends with that fault unless
it has ended in the same way already. -/
theorem runItems_of_fault (options : Options) (front rest : List Item) (failure : Failure)
    {sink : Sink} (roomy : sink.room = none) :
    ((runItems options (front ++ [.error failure]) sink).result = .error failure ∨
      ∃ cause, (runItems options (front ++ [.error failure]) sink).result = .error cause ∧
        (runItems options (front ++ rest) sink).result = .error cause) ∧
      WritesStart options.matcher sink (runItems options (front ++ [.error failure]) sink).sink
        (runItems options (front ++ rest) sink).sink := by
  rcases runItems_of_roomy options (front ++ [.error failure]) roomy with ⟨brokenSink, broken⟩
  rcases runItems_of_roomy options (front ++ rest) roomy with ⟨wholeSink, whole⟩
  constructor
  · rw [broken, whole, List.findSome?_append, List.findSome?_append]
    cases front.findSome? options.ending with
    | none => exact .inl rfl
    | some cause => exact .inr ⟨cause, rfl, rfl⟩
  · rw [brokenSink, wholeSink]
    exact writesStart_of_prefix sink (takeWhile_append_ending rfl front rest)

/-! ## Sources -/

theorem run_of_mark (options : Options) (fault : Option SystemFault) (sink : Sink) :
    (run options ⟨Delimited.mark, fault⟩ sink).result =
        .error (.malformed (some 1) (.missingColumn "name")) ∧
      (run options ⟨Delimited.mark, fault⟩ sink).sink = sink := by
  have refused : Table.read ⟨Delimited.mark, fault⟩ =
      .error (.malformed (some 1) (.missingColumn "name")) := rfl
  exact run_of_read_error refused options sink

/-- Nothing is the start of whatever a run writes. -/
theorem writesStart_run (options : Options) (source : Source) {sink : Sink}
    (roomy : sink.room = none) :
    WritesStart options.matcher sink sink (run options source sink).sink := by
  cases read : Table.read source with
  | error failure =>
      rw [(run_of_read_error read options sink).2]
      exact writesStart_of_prefix sink (List.prefix_refl [])
  | ok table =>
      rw [(run_of_read_ok read options sink).2, (runItems_of_roomy options table.items roomy).1]
      exact writesStart_of_prefix sink List.nil_prefix

theorem run_of_breakOff (options : Options) {source : Source} {fault : SystemFault}
    (broken : source.breakOff = some fault) (rest : List UInt8) {sink : Sink}
    (roomy : sink.room = none) :
    ((run options source sink).result = .error (.system fault) ∨
      ∃ cause, (run options source sink).result = .error cause ∧
        (run options (.ofOctets (source.octets ++ rest)) sink).result = .error cause) ∧
      WritesStart options.matcher sink (run options source sink).sink
        (run options (.ofOctets (source.octets ++ rest)) sink).sink := by
  have faulty : source.fault.isSome := by
    unfold Source.breakOff at broken
    split at broken
    · cases broken
    · rw [broken]
      rfl
  have readBroken := Table.read_of_breakOff broken
  have readWhole := Table.read_ofOctets (source.octets ++ rest)
  rcases Source.rows_prefix_rows source faulty rest with ⟨later, all⟩
  rw [← all] at readWhole
  cases rows : source.rows with
  | nil =>
      -- Not even the header has ended.
      rw [rows] at readBroken
      rcases run_of_read_error readBroken options sink with ⟨result, same⟩
      rw [same]
      exact ⟨.inl result, writesStart_run options _ roomy⟩
  | cons header front =>
      rw [rows] at readBroken readWhole
      simp only [List.cons_append, List.headD_cons, List.tail_cons] at readBroken readWhole
      rcases Table.ofRows_append header front later with
        ⟨failure, refused, refusedWhole⟩ | ⟨names, items, others, accepted, acceptedWhole⟩
      · rw [refused] at readBroken
        rw [refusedWhole] at readWhole
        rcases run_of_read_error readBroken options sink with ⟨result, same⟩
        rcases run_of_read_error readWhole options sink with ⟨wholeResult, wholeSame⟩
        refine ⟨.inr ⟨failure, result, wholeResult⟩, ?_⟩
        rw [same]
        exact writesStart_run options _ roomy
      · rw [accepted] at readBroken
        rw [acceptedWhole] at readWhole
        rcases run_of_read_ok readBroken options sink with ⟨result, same⟩
        rcases run_of_read_ok readWhole options sink with ⟨wholeResult, wholeSame⟩
        rw [result, same, wholeResult, wholeSame]
        exact runItems_of_fault options items others (.system fault) roomy

/-- A run over a source that fails after some octets fails, too, and writes the first of the blocks
that the run over all octets writes. Its failure is that of the source or that of the other run,
unless the octets are a byte order mark and nothing else. The rows it reads are those of every text
that starts with these octets, so that none of them is cut short, and if not even the header is one
of them nothing is written. -/
theorem run_breaks_off (options : Options) (octets : List UInt8) (count : Nat)
    (fault : SystemFault) (sink : Sink) (roomy : sink.room = none) :
    (∀ more, (Source.failingAfter count fault octets).rows <+:
        Delimited.rows true (octets.take count ++ more)) ∧
      ((Source.failingAfter count fault octets).rows = [] →
        (run options (.failingAfter count fault octets) sink).sink = sink) ∧
      WritesStart options.matcher sink
        (run options (.failingAfter count fault octets) sink).sink
        (run options (.ofOctets octets) sink).sink ∧
      (run options (.failingAfter count fault octets) sink).sink.written <+:
        (run options (.ofOctets octets) sink).sink.written ∧
      if octets.take count = Delimited.mark then
        (run options (.failingAfter count fault octets) sink).result =
            .error (.malformed (some 1) (.missingColumn "name")) ∧
          (run options (.failingAfter count fault octets) sink).sink = sink
      else
        (run options (.failingAfter count fault octets) sink).result = .error (.system fault) ∨
          ∃ failure,
            (run options (.failingAfter count fault octets) sink).result = .error failure ∧
              (run options (.ofOctets octets) sink).result = .error failure := by
  refine ⟨Source.rows_prefix_rows (.failingAfter count fault octets) rfl, ?_, ?_⟩
  · intro lost
    rcases Table.read_of_no_rows lost with ⟨failure, refused⟩
    exact (run_of_read_error refused options sink).2
  by_cases marked : octets.take count = Delimited.mark
  · have bare := run_of_mark options (some fault) sink
    rw [if_pos marked]
    unfold Source.failingAfter
    rw [marked, bare.2]
    have start := writesStart_run options (.ofOctets octets) roomy
    exact ⟨start, start.written, bare.1, rfl⟩
  · have broken : (Source.failingAfter count fault octets).breakOff = some fault := by
      unfold Source.breakOff Source.isBareMark Source.failingAfter
      rw [if_neg (by simpa using marked)]
    have compared := run_of_breakOff options broken (octets.drop count) roomy
    rw [show (Source.failingAfter count fault octets).octets ++ octets.drop count = octets from
      List.take_append_drop count octets] at compared
    rw [if_neg marked]
    exact ⟨compared.2, compared.2.written, compared.1⟩

/-- What has arrived of the type would be a type, too, but its cell has not ended. -/
theorem run_breaks_off_within_cell :
    Sink.unbounded.room = none ∧
      (run ⟨⟨none, false⟩, .skip⟩
        (.failingAfter 56 .noSpace (Text.octets
          "name,entry,status,type\na,Variable,+,int\nb,Variable,+,\"Ca\nnvas*\"\n"))
        .unbounded).result = .error (.system .noSpace) ∧
      (run ⟨⟨none, false⟩, .skip⟩
        (.failingAfter 56 .noSpace (Text.octets
          "name,entry,status,type\na,Variable,+,int\nb,Variable,+,\"Ca\nnvas*\"\n"))
        .unbounded).sink.written = Text.octets "pub static a: i32;\n" ∧
      Text.octets "pub static a: i32;\n" <+:
        (run ⟨⟨none, false⟩, .skip⟩
          (.ofOctets (Text.octets
            "name,entry,status,type\na,Variable,+,int\nb,Variable,+,\"Ca\nnvas*\"\n"))
          .unbounded).sink.written := by
  have breaksOff := run_breaks_off ⟨⟨none, false⟩, .skip⟩
    (Text.octets "name,entry,status,type\na,Variable,+,int\nb,Variable,+,\"Ca\nnvas*\"\n")
    56 .noSpace .unbounded rfl
  exact ⟨rfl, rfl, rfl, breaksOff.2.2.2.1⟩

/-- A source that fails right after its byte order mark does not tell its fault, although a complete
one would be in order. -/
theorem run_hides_fault_after_mark :
    (run ⟨⟨none, false⟩, .skip⟩
        (.failingAfter 3 (.described "read failed")
          (Delimited.mark ++ Text.octets "entry,status,name,type\nVariable,+,a,int\n"))
        .unbounded).result = .error (.malformed (some 1) (.missingColumn "name")) ∧
      ¬((run ⟨⟨none, false⟩, .skip⟩
          (.failingAfter 3 (.described "read failed")
            (Delimited.mark ++ Text.octets "entry,status,name,type\nVariable,+,a,int\n"))
          .unbounded).result = .error (.system (.described "read failed")) ∨
        ∃ failure,
          (run ⟨⟨none, false⟩, .skip⟩
            (.failingAfter 3 (.described "read failed")
              (Delimited.mark ++ Text.octets "entry,status,name,type\nVariable,+,a,int\n"))
            .unbounded).result = .error failure ∧
          (run ⟨⟨none, false⟩, .skip⟩
            (.ofOctets
              (Delimited.mark ++ Text.octets "entry,status,name,type\nVariable,+,a,int\n"))
            .unbounded).result = .error failure) := by
  have broken : (run ⟨⟨none, false⟩, .skip⟩
      (.failingAfter 3 (.described "read failed")
        (Delimited.mark ++ Text.octets "entry,status,name,type\nVariable,+,a,int\n"))
      .unbounded).result = .error (.malformed (some 1) (.missingColumn "name")) := rfl
  have whole : (run ⟨⟨none, false⟩, .skip⟩
      (.ofOctets (Delimited.mark ++ Text.octets "entry,status,name,type\nVariable,+,a,int\n"))
      .unbounded).result = .ok ⟨1, 0, 0, 0, []⟩ := rfl
  refine ⟨broken, ?_⟩
  rw [broken, whole]
  rintro (told | ⟨failure, -, refused⟩)
  · cases told
  · cases refused

end Generate

end SymbolBindings
