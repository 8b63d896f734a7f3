import Mathlib.Data.List.TakeWhile
import SymbolBindings.Proofs.Generate.Progress

/-! # Streaming

A run writes while it reads. What it has written in the end, and how it ends, is nevertheless told
by the items as a whole: the blocks of the symbols to declare, up to the first item that ends the
run.
-/

namespace SymbolBindings

/-- Whether the symbol is to be declared: it is exported, selected, and a variable or a function. -/
def Matcher.declares (matcher : Matcher) (symbol : Symbol) : Bool :=
  symbol.exported && matcher.accepts symbol.name && symbol.kind.isDeclarable

namespace Generate

/-- The symbols to declare, in the order of their items. -/
def declaredSymbols (matcher : Matcher) (items : List Item) : List Symbol :=
  (items.filterMap Except.toOption).filter matcher.declares

/-- The text is the written declaration of the symbol under the name the matcher gives it. -/
def BlockOf (matcher : Matcher) (symbol : Symbol) (block : String) : Prop :=
  ∃ name declaration, matcher.declaredName symbol.name = some name ∧
    Declaration.ofSymbol symbol name = .ok declaration ∧ declaration.block = .ok block

/-- What the items as a whole say about the outcome of a run over them, with a sink that had taken
some octets before. -/
structure Streamed (options : Options) (items : List Item) (before : List UInt8)
    (outcome : Outcome) : Prop where
  written : ∃ blocks,
    List.Forall₂ (BlockOf options.matcher)
      (declaredSymbols options.matcher
        (items.takeWhile fun item => (options.ending item).isNone)) blocks ∧
      outcome.sink.written = before ++ blocks.flatMap Text.octets
  completes : outcome.result.isOk = true ↔ ∀ item ∈ items, options.ending item = none
  fails : ∀ failure,
    outcome.result = .error failure ↔ items.findSome? options.ending = some failure

/-! ## Blocks -/

theorem Verdict.Judged.declares_eq {matcher : Matcher} {symbol : Symbol} {verdict : Verdict}
    (judged : Judged matcher (.ok symbol) verdict) :
    matcher.declares symbol = verdict.declaration?.isSome := by
  unfold Matcher.declares
  cases judged with
  | hidden kept =>
      rw [kept]
      rfl
  | unmatched exported rejected =>
      rw [Matcher.accepts_eq_false_of_declaredName rejected, exported]
      rfl
  | unsupported exported selected kind =>
      rw [Matcher.accepts_of_declaredName selected, exported, kind]
      rfl
  | declared exported selected made =>
      rw [Matcher.accepts_of_declaredName selected, exported,
        Declaration.exists_ofSymbol_iff.mp ⟨_, made⟩]
      rfl

/-- The declarations of items are written as blocks of the symbols to declare, one for each. -/
theorem exists_blocks (matcher : Matcher) (items : List Item) :
    ∃ blocks, List.Forall₂ (BlockOf matcher) (declaredSymbols matcher items) blocks ∧
      (declarations matcher items).map Declaration.octets = blocks.map Text.octets := by
  induction items with
  | nil => exact ⟨[], .nil, rfl⟩
  | cons item rest induction =>
      rcases induction with ⟨blocks, related, same⟩
      cases item with
      | error failure => exact ⟨blocks, related, same⟩
      | ok symbol =>
          have judged := Verdict.judged_ofItem matcher (.ok symbol)
          have declares := judged.declares_eq
          unfold declarations declaredSymbols at *
          simp only [List.filterMap_cons, Except.toOption, List.filter_cons, declares] at *
          cases verdict : Verdict.ofItem matcher (.ok symbol) with
          | declared declaration =>
              rw [verdict] at judged
              cases judged with
              | declared exported selected made =>
                  rcases Declaration.exists_block made with ⟨block, found⟩
                  refine ⟨block :: blocks, .cons ⟨_, _, selected, made, found⟩ related, ?_⟩
                  exact List.cons_eq_cons.mpr ⟨Declaration.octets_of_block found, same⟩
          | _ => exact ⟨blocks, related, same⟩

theorem exists_blocks_written (matcher : Matcher) (items : List Item) (sink : Sink) :
    ∃ blocks, List.Forall₂ (BlockOf matcher) (declaredSymbols matcher items) blocks ∧
      ((Progress.start sink).addAll matcher items).sink.written =
        sink.written ++ blocks.flatMap Text.octets := by
  rcases exists_blocks matcher items with ⟨blocks, related, same⟩
  refine ⟨blocks, related, ?_⟩
  rw [Progress.written_addAll, List.flatMap_def, same, ← List.flatMap_def]
  rfl

/-! ## Runs -/

/-- What a run over a sink that takes everything comes to. -/
theorem runItems_of_roomy (options : Options) (items : List Item) {sink : Sink}
    (roomy : sink.room = none) :
    (runItems options items sink).sink =
        ((Progress.start sink).addAll options.matcher
          (items.takeWhile fun item => (options.ending item).isNone)).sink ∧
      (runItems options items sink).result =
        match items.findSome? options.ending with
        | some failure => .error failure
        | none =>
          match sink.flush with
          | .error fault => .error (.system fault)
          | .ok () => .ok ((Progress.start sink).addAll options.matcher items).summary := by
  cases found : items.findSome? options.ending with
  | none =>
      have goesOn := List.findSome?_eq_none_iff.mp found
      have whole : (items.takeWhile fun item => (options.ending item).isNone) = items := by
        rw [List.takeWhile_eq_self_iff]
        intro item member
        rw [goesOn item member]
        rfl
      have flushed : ((Progress.start sink).addAll options.matcher items).sink.flush =
          sink.flush := by
        rw [Sink.flush, Progress.flushFault_addAll]
        rfl
      rw [whole, runItems, takeItems_of_roomy (.start sink) roomy goesOn]
      simp only [flushed]
      cases sink.flush <;> exact ⟨rfl, rfl⟩
  | some failure =>
      rcases List.findSome?_eq_some_iff.mp found with ⟨front, item, rest, rfl, ends, goesOn⟩
      rcases runItems_of_ending roomy goesOn ends rest with ⟨result, sinkAfter⟩
      have start : ((front ++ item :: rest).takeWhile fun item =>
          (options.ending item).isNone) = front := by
        rw [List.takeWhile_append_of_pos (by simpa using goesOn),
          List.takeWhile_cons_of_neg (by simp [ends]), List.append_nil]
      exact ⟨by rw [start, sinkAfter], result⟩

theorem streamed_runItems (options : Options) (items : List Item) {sink : Sink}
    (roomy : sink.room = none) (steady : sink.flushFault = none) :
    Streamed options items sink.written (runItems options items sink) := by
  rcases runItems_of_roomy options items roomy with ⟨sinkAfter, result⟩
  have flushed : sink.flush = .ok () := by
    rw [Sink.flush, steady]
  rw [flushed] at result
  constructor
  · rw [sinkAfter]
    exact exists_blocks_written options.matcher _ sink
  · rw [result, ← List.findSome?_eq_none_iff]
    cases items.findSome? options.ending <;> simp [Except.isOk, Except.toBool]
  · intro failure
    rw [result]
    cases items.findSome? options.ending <;> simp

/-- A run over a source streams the items of its table, and a refused header writes nothing. -/
theorem run_streams (options : Options) (sink : Sink) (roomy : sink.room = none)
    (steady : sink.flushFault = none) :
    (∀ items, Streamed options items sink.written (runItems options items sink)) ∧
      (∀ source table, Table.read source = .ok table →
        Streamed options table.items sink.written (run options source sink)) ∧
      ∀ source failure, Table.read source = .error failure →
        (run options source sink).result = .error failure ∧
          (run options source sink).sink = sink := by
  refine ⟨fun items => streamed_runItems options items roomy steady, ?_, ?_⟩
  · intro source table accepted
    rcases run_of_read_ok accepted options sink with ⟨result, sinkAfter⟩
    have streamed := streamed_runItems options table.items roomy steady
    exact ⟨sinkAfter ▸ streamed.written, result ▸ streamed.completes, result ▸ streamed.fails⟩
  · intro source failure refused
    exact run_of_read_error refused options sink

/-- Of a table with a refused row, what stands above that row is streamed; of one with a refused
header, nothing is. -/
theorem run_streams_above_refused_row :
    Sink.unbounded.room = none ∧ Sink.unbounded.flushFault = none ∧
      Table.read (.ofOctets (Text.octets
          "status,name,entry,type\n-,f_x,Header,\n+,f_a,Variable,int\n+,f_h,Header,\n+,,,\n")) =
        .ok ⟨["status", "name", "entry", "type"],
          [.ok ⟨"f_x", .other "Header", false, "", "", some 2⟩,
            .ok ⟨"f_a", .object, true, "int", "", some 3⟩,
            .ok ⟨"f_h", .other "Header", true, "", "", some 4⟩,
            .error (.malformed (some 5) .emptyName)]⟩ ∧
      (run ⟨⟨some "f_", true⟩, .error⟩
          (.ofOctets (Text.octets
            "status,name,entry,type\n-,f_x,Header,\n+,f_a,Variable,int\n+,f_h,Header,\n+,,,\n"))
          .unbounded).result =
        .error (.unsupportedKind "f_h" "Header" (some 4)) ∧
      Table.read (.ofOctets (Text.octets "name,entry\n")) =
        .error (.malformed (some 1) (.missingColumn "status")) ∧
      (run ⟨⟨some "f_", true⟩, .error⟩ (.ofOctets (Text.octets "name,entry\n"))
          .unbounded).sink =
        .unbounded := by
  have streams := run_streams ⟨⟨some "f_", true⟩, .error⟩ .unbounded rfl rfl
  refine ⟨rfl, rfl, rfl, ?_, rfl, (streams.2.2 _ _ rfl).2⟩
  exact ((streams.2.1 _ _ rfl).fails _).mpr rfl

end Generate

end SymbolBindings
