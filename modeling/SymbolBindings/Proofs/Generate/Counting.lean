import SymbolBindings.Proofs.Generate.Streaming
import SymbolBindings.Proofs.Symbol.Fields

/-! # Counting

Hidden rows are never counted as they come, but told from two other counters in the end. The
summary of a completed run nevertheless counts every row of the table once, and under the first
reason there is to leave it out.
-/

namespace SymbolBindings.Generate

/-- The counts of a summary are those of the rows of a table, told from their fields. -/
structure Tallied (matcher : Matcher) (header : List String) (rows : List (List String))
    (summary : Summary) : Prop where
  hidden : summary.hidden = rows.countP fun row => Table.field header row "status" ≠ "+"
  unmatched : summary.unmatched = rows.countP fun row =>
    Table.field header row "status" = "+" ∧
      matcher.accepts (Table.field header row "name") = false
  unsupported : summary.unsupported = rows.countP fun row =>
    Table.field header row "status" = "+" ∧
      matcher.accepts (Table.field header row "name") = true ∧
      Table.field header row "entry" ∉ ["Variable", "Function"]
  emitted : summary.emitted = rows.countP fun row =>
    Table.field header row "status" = "+" ∧
      matcher.accepts (Table.field header row "name") = true ∧
      Table.field header row "entry" ∈ ["Variable", "Function"]
  total : summary.hidden + summary.unmatched + summary.unsupported + summary.emitted = rows.length

/-! ## Counters -/

namespace Verdict.Judged

variable {matcher : Matcher} {symbol : Symbol} {verdict : Verdict}

theorem isExported_eq (judged : Judged matcher (.ok symbol) verdict) :
    verdict.isExported = symbol.exported := by
  cases judged with
  | hidden kept => exact kept.symm
  | unmatched exported rejected => exact exported.symm
  | unsupported exported selected kind => exact exported.symm
  | declared exported selected made => exact exported.symm

theorem isUnmatched_eq (judged : Judged matcher (.ok symbol) verdict) :
    verdict.isUnmatched = (symbol.exported && !matcher.accepts symbol.name) := by
  cases judged with
  | hidden kept =>
      rw [kept]
      rfl
  | unmatched exported rejected =>
      rw [exported, Matcher.accepts_eq_false_of_declaredName rejected]
      rfl
  | unsupported exported selected kind =>
      rw [exported, Matcher.accepts_of_declaredName selected]
      rfl
  | declared exported selected made =>
      rw [exported, Matcher.accepts_of_declaredName selected]
      rfl

theorem isUnsupported_eq (judged : Judged matcher (.ok symbol) verdict) :
    verdict.isUnsupported =
      (symbol.exported && matcher.accepts symbol.name && !symbol.kind.isDeclarable) := by
  cases judged with
  | hidden kept =>
      rw [kept]
      rfl
  | unmatched exported rejected =>
      rw [exported, Matcher.accepts_eq_false_of_declaredName rejected]
      rfl
  | unsupported exported selected kind =>
      rw [exported, Matcher.accepts_of_declaredName selected, kind]
      rfl
  | declared exported selected made =>
      rw [exported, Matcher.accepts_of_declaredName selected,
        Declaration.exists_ofSymbol_iff.mp ⟨_, made⟩]
      rfl

end Verdict.Judged

theorem counters_declare (declaration : Declaration) (progress : Progress) :
    (declare declaration progress).2.seen = progress.seen ∧
      (declare declaration progress).2.exported = progress.exported := by
  simp only [declare]
  split <;> exact ⟨rfl, rfl⟩

/-- Every item is counted, whatever comes of it. -/
theorem counters_takeItem (options : Options) (item : Item) (progress : Progress) :
    (takeItem options item progress).2.seen = progress.seen + 1 ∧
      (takeItem options item progress).2.exported =
        progress.exported + (Verdict.ofItem options.matcher item).isExported.toNat := by
  rw [takeItem_eq_settle (Verdict.judged_ofItem options.matcher item)]
  unfold settle
  split
  case h_1 => exact ⟨rfl, rfl⟩
  case h_2 declaration _ found =>
    rw [found]
    exact counters_declare declaration (progress.meet true)
  case h_3 =>
    cases Verdict.ofItem options.matcher item <;> exact ⟨rfl, rfl⟩

/-- However a run ends, it has met no more exported rows than items. -/
theorem exported_le_seen (options : Options) (items : List Item) {progress : Progress}
    (bounded : progress.exported ≤ progress.seen) :
    (takeItems options items progress).2.exported ≤ (takeItems options items progress).2.seen := by
  -- An item that ends the run has already been counted, so both of its outcomes keep the bound.
  induction items generalizing progress with
  | nil => exact bounded
  | cons item rest induction =>
      have counters := counters_takeItem options item progress
      have once := Bool.toNat_le (Verdict.ofItem options.matcher item).isExported
      rw [takeItems]
      rcases taken : takeItem options item progress with ⟨_ | _, after⟩
      · simp only [taken] at counters ⊢
        omega
      · simp only [taken] at counters
        apply induction
        omega

namespace Progress

variable (progress : Progress) (matcher : Matcher) (items : List Item)

theorem seen_addAll : (progress.addAll matcher items).seen = progress.seen + items.length := by
  have step : ∀ progress verdict, (add progress verdict).seen = progress.seen + true.toNat := by
    intro progress verdict
    cases verdict <;> rfl
  rw [count_addAll seen (fun _ => true) step, List.countP_true]

theorem exported_addAll :
    (progress.addAll matcher items).exported =
      progress.exported + items.countP fun item => (Verdict.ofItem matcher item).isExported := by
  apply count_addAll exported Verdict.isExported
  intro progress verdict
  cases verdict <;> rfl

theorem unmatched_addAll :
    (progress.addAll matcher items).unmatched =
      progress.unmatched + items.countP fun item => (Verdict.ofItem matcher item).isUnmatched := by
  apply count_addAll unmatched Verdict.isUnmatched
  intro progress verdict
  cases verdict <;> rfl

theorem unsupported_addAll :
    (progress.addAll matcher items).unsupported =
      progress.unsupported +
        items.countP fun item => (Verdict.ofItem matcher item).isUnsupported := by
  apply count_addAll unsupported Verdict.isUnsupported
  intro progress verdict
  cases verdict <;> rfl

theorem emitted_addAll :
    (progress.addAll matcher items).emitted =
      progress.emitted + (declarations matcher items).length := by
  rw [declarations, List.length_filterMap_eq_countP]
  apply count_addAll emitted fun verdict => verdict.declaration?.isSome
  intro progress verdict
  cases verdict <;> rfl

/-- Every exported item that was passed is counted under one more name. -/
theorem accounted_addAll (progress : Progress)
    (accounted : progress.emitted + progress.unmatched + progress.unsupported = progress.exported) :
    (progress.addAll matcher items).emitted + (progress.addAll matcher items).unmatched +
        (progress.addAll matcher items).unsupported =
      (progress.addAll matcher items).exported := by
  induction items generalizing progress with
  | nil => exact accounted
  | cons item rest induction =>
      rw [addAll_cons]
      apply induction
      -- Failed and hidden items raise neither side, and each of the others raises both by one.
      cases Verdict.ofItem matcher item <;>
        simp only [add, meet, Verdict.isExported, Bool.toNat_true, Bool.toNat_false] <;> omega

theorem hidden_addAll (sink : Sink) :
    ((start sink).addAll matcher items).summary.hidden =
      items.countP fun item => !(Verdict.ofItem matcher item).isExported := by
  have split := List.length_eq_countP_add_countP (l := items)
    fun item => (Verdict.ofItem matcher item).isExported
  have different : ((start sink).addAll matcher items).summary.hidden =
      items.length - items.countP fun item => (Verdict.ofItem matcher item).isExported := by
    simp only [summary, seen_addAll, exported_addAll, start, Nat.zero_add]
  simp only [Bool.not_eq_true, Bool.decide_eq_false] at split
  omega

/-- No item that was passed is left out of the summary or counted twice. -/
theorem total_addAll (sink : Sink) :
    ((start sink).addAll matcher items).summary.hidden +
        ((start sink).addAll matcher items).summary.unmatched +
        ((start sink).addAll matcher items).summary.unsupported +
        ((start sink).addAll matcher items).summary.emitted =
      items.length := by
  have accounted := accounted_addAll matcher items (start sink) rfl
  have seen := seen_addAll (start sink) matcher items
  have exported := exported_addAll (start sink) matcher items
  have bounded : items.countP (fun item => (Verdict.ofItem matcher item).isExported) ≤
      items.length := List.countP_le_length
  simp only [summary]
  simp only [start] at *
  omega

end Progress

/-! ## Rows -/

/-- Items that the texts of rows describe are counted as these rows. -/
theorem countP_itemOf {header : List String} {raises : Item → Bool} {holds : List String → Bool}
    {lines : List Nat} {rows : List (List String)} (sameLength : lines.length = rows.length)
    (whole : ∀ item ∈ List.zipWith (Table.itemOf header) lines rows, ∃ symbol, item = .ok symbol)
    (same : ∀ line row symbol, Table.itemOf header line row = .ok symbol →
      raises (.ok symbol) = holds row) :
    (List.zipWith (Table.itemOf header) lines rows).countP raises = rows.countP holds := by
  induction rows generalizing lines with
  | nil => simp
  | cons row rest induction =>
      rcases List.exists_cons_of_length_eq_add_one sameLength with ⟨line, others, rfl⟩
      rcases List.forall_mem_cons.mp whole with ⟨⟨symbol, described⟩, wholeRest⟩
      rw [List.zipWith_cons_cons, List.countP_cons, List.countP_cons, described,
        same line row symbol described, induction (by simpa using sameLength) wholeRest]

theorem tallied_summary (matcher : Matcher) (header : List String) {lines : List Nat}
    {rows : List (List String)} (sameLength : lines.length = rows.length)
    (whole : ∀ item ∈ List.zipWith (Table.itemOf header) lines rows, ∃ symbol, item = .ok symbol)
    (sink : Sink) :
    Tallied matcher header rows
      ((Progress.start sink).addAll matcher
        (List.zipWith (Table.itemOf header) lines rows)).summary := by
  have judged := fun symbol => Verdict.judged_ofItem matcher (.ok symbol)
  constructor
  · rw [Progress.hidden_addAll]
    apply countP_itemOf sameLength whole
    intro line row symbol described
    rcases Table.itemOf_eq_ok_iff.mp described with ⟨_, _, rfl⟩
    rw [(judged _).isExported_eq, Table.symbolOf, decide_not]
  · refine (Progress.unmatched_addAll ..).trans ((Nat.zero_add _).trans ?_)
    apply countP_itemOf sameLength whole
    intro line row symbol described
    rcases Table.itemOf_eq_ok_iff.mp described with ⟨_, _, rfl⟩
    rw [(judged _).isUnmatched_eq, Table.symbolOf]
    simp
  · refine (Progress.unsupported_addAll ..).trans ((Nat.zero_add _).trans ?_)
    apply countP_itemOf sameLength whole
    intro line row symbol described
    rcases Table.itemOf_eq_ok_iff.mp described with ⟨_, _, rfl⟩
    rw [(judged _).isUnsupported_eq, Table.symbolOf, Kind.isDeclarable_ofEntry]
    simp [Bool.and_assoc]
  · refine (Progress.emitted_addAll ..).trans ((Nat.zero_add _).trans ?_)
    rw [declarations, List.length_filterMap_eq_countP]
    apply countP_itemOf sameLength whole
    intro line row symbol described
    rcases Table.itemOf_eq_ok_iff.mp described with ⟨_, _, rfl⟩
    rw [← (judged _).declares_eq, Matcher.declares, Table.symbolOf, Kind.isDeclarable_ofEntry]
    simp [Bool.and_assoc]
  · rw [Progress.total_addAll, List.length_zipWith, sameLength, Nat.min_self]

/-- A completed run counts every row of its table once. The blocks it wrote are as many as it says,
and no run ever meets more exported rows than rows. -/
theorem run_tallies (options : Options) (source : Source) (sink : Sink) (summary : Summary)
    (completed : (run options source sink).result = .ok summary) :
    (∃ header rows,
      source.rows.map Delimited.Row.cells =
          (header :: rows).map (fun texts : List String => texts.map Text.octets) ∧
        Tallied options.matcher header rows summary) ∧
      (∃ symbols blocks, List.Forall₂ (BlockOf options.matcher) symbols blocks ∧
        blocks.length = summary.emitted ∧
        (run options source sink).sink.pieces =
          (blocks.map Text.octets).reverse ++ sink.pieces) ∧
      ∀ items, (takeItems options items (.start sink)).2.exported ≤
        (takeItems options items (.start sink)).2.seen := by
  cases read : Table.read source with
  | error failure =>
      rw [(run_of_read_error read options sink).1] at completed
      cases completed
  | ok table =>
      rcases run_of_read_ok read options sink with ⟨sameResult, sameSink⟩
      rw [sameResult] at completed
      rcases runItems_eq_ok completed with ⟨goesOn, rfl, sinkAfter⟩
      have whole : ∀ item ∈ table.items, ∃ symbol, item = .ok symbol := by
        intro item member
        cases item with
        | error failure => cases goesOn _ member
        | ok symbol => exact ⟨symbol, rfl⟩
      refine ⟨?_, ?_, ?_⟩
      · rcases Table.exists_itemOf_of_read read whole with
          ⟨header, rows, lines, cells, sameLength, items⟩
        rw [items] at whole ⊢
        exact ⟨header, rows, cells, tallied_summary options.matcher header sameLength whole sink⟩
      · rcases exists_blocks options.matcher table.items with ⟨blocks, related, same⟩
        refine ⟨_, blocks, related, ?_, ?_⟩
        · have sameLength := congrArg List.length same
          rw [List.length_map, List.length_map] at sameLength
          rw [← sameLength]
          exact ((Progress.emitted_addAll ..).trans (Nat.zero_add _)).symm
        · rw [sameSink, sinkAfter, Progress.pieces_addAll, same]
          rfl
      · exact fun items => exported_le_seen options items (Nat.le_refl 0)

/-- A row that there are several reasons to leave out is counted under the first of them. -/
theorem run_tallies_each_reason :
    (run ⟨⟨some "f_", false⟩, .skip⟩
        (.ofOctets (Text.octets
          "status,name,entry,type\n-,x,Header,\n+,x,Header,\n+,f_h,Header,\n+,f_a,Variable,int\n"))
        .unbounded).result =
      .ok ⟨1, 1, 1, 1, []⟩ ∧
      ∃ header rows,
        (Source.ofOctets (Text.octets
            "status,name,entry,type\n-,x,Header,\n+,x,Header,\n+,f_h,Header,\n+,f_a,Variable,int\n"
            )).rows.map Delimited.Row.cells =
          (header :: rows).map (fun texts : List String => texts.map Text.octets) ∧
        Tallied ⟨some "f_", false⟩ header rows ⟨1, 1, 1, 1, []⟩ :=
  ⟨rfl, (run_tallies ⟨⟨some "f_", false⟩, .skip⟩ _ .unbounded _ rfl).1⟩

end SymbolBindings.Generate
