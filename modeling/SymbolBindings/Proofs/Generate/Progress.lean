import Mathlib.Tactic
import SymbolBindings.Proofs.Generate.Verdict

/-! # Progress

Where a run stands after its items: every item that was passed has added its verdict, and the first
one that ends the run adds nothing to what is written.
-/

namespace SymbolBindings.Generate

/-- The failure that ends the run at this item: its own, if its row failed, or else that of an
exported symbol that is selected and refused. -/
def Options.ending (options : Options) : Item → Option Failure
  | .error failure => some failure
  | .ok symbol =>
    match symbol.kind with
    | .other entry =>
      if options.policy = .error ∧ symbol.exported ∧ options.matcher.accepts symbol.name then
        some (.unsupportedKind symbol.name entry symbol.line)
      else none
    | _ => none

example :
    Options.ending ⟨⟨some "furi", false⟩, .error⟩
        (.ok ⟨"hal.h", .other "Header", true, "", "", none⟩) =
      none := by decide

theorem Verdict.Judged.ending_eq {options : Options} {item : Item} {verdict : Verdict}
    (judged : Judged options.matcher item verdict) :
    verdict.ending options.policy = options.ending item := by
  cases judged with
  | failed failure => rfl
  | @hidden symbol kept =>
      cases kind : symbol.kind <;> simp [Options.ending, ending, kind, kept]
  | @unmatched symbol exported rejected =>
      have refused := Matcher.accepts_eq_false_of_declaredName rejected
      cases kind : symbol.kind <;> simp [Options.ending, ending, kind, refused]
  | unsupported exported selected kind =>
      have accepted := Matcher.accepts_of_declaredName selected
      simp only [Options.ending, ending, kind, exported, accepted, and_true]
      cases options.policy <;> rfl
  | @declared symbol name declaration exported selected made =>
      have supported := Declaration.exists_ofSymbol_iff.mp ⟨_, made⟩
      cases kind : symbol.kind with
      | object => simp [Options.ending, ending, kind]
      | function => simp [Options.ending, ending, kind]
      | other entry =>
          rw [kind] at supported
          cases supported

/-! ## Many items -/

namespace Progress

/-- What the verdicts of the items add, one after another. -/
def addAll (progress : Progress) (matcher : Matcher) (items : List Item) : Progress :=
  items.foldl (fun progress item => progress.add (.ofItem matcher item)) progress

theorem addAll_cons (progress : Progress) (matcher : Matcher) (item : Item)
    (rest : List Item) :
    progress.addAll matcher (item :: rest) =
      (progress.add (.ofItem matcher item)).addAll matcher rest := rfl

/-- A counter that every verdict raises or leaves counts the verdicts that raise it. -/
theorem count_addAll (counter : Progress → Nat) (raises : Verdict → Bool)
    (step : ∀ progress verdict,
      counter (progress.add verdict) = counter progress + (raises verdict).toNat)
    (progress : Progress) (matcher : Matcher) (items : List Item) :
    counter (progress.addAll matcher items) =
      counter progress + items.countP fun item => raises (.ofItem matcher item) := by
  induction items generalizing progress with
  | nil => rfl
  | cons item rest induction =>
      rw [addAll_cons, induction, step, List.countP_cons]
      cases raises (.ofItem matcher item) with
      | false => simp
      | true => simp only [Bool.toNat_true, if_true]; omega

end Progress

/-- The declarations of the items, in their order. -/
def declarations (matcher : Matcher) (items : List Item) : List Declaration :=
  items.filterMap fun item => (Verdict.ofItem matcher item).declaration?

theorem Progress.pieces_addAll (progress : Progress) (matcher : Matcher) (items : List Item) :
    (progress.addAll matcher items).sink.pieces =
      ((declarations matcher items).map Declaration.octets).reverse ++ progress.sink.pieces := by
  induction items generalizing progress with
  | nil => rfl
  | cons item rest induction =>
      rw [addAll_cons, induction]
      simp only [declarations, List.filterMap_cons]
      cases Verdict.ofItem matcher item with
      | declared declaration => simp [Verdict.declaration?, add, Sink.take]
      | _ => rfl

theorem Progress.written_addAll (progress : Progress) (matcher : Matcher) (items : List Item) :
    (progress.addAll matcher items).sink.written =
      progress.sink.written ++ (declarations matcher items).flatMap Declaration.octets := by
  rw [Sink.written, pieces_addAll]
  simp [Sink.written, List.flatMap]

theorem Progress.room_add {progress : Progress} (roomy : progress.sink.room = none)
    (verdict : Verdict) : (progress.add verdict).sink.room = none := by
  cases verdict with
  | declared declaration =>
      change progress.sink.room.map _ = none
      rw [roomy]
      rfl
  | _ => exact roomy

theorem Progress.flushFault_add (progress : Progress) (verdict : Verdict) :
    (progress.add verdict).sink.flushFault = progress.sink.flushFault := by
  cases verdict <;> rfl

theorem Progress.flushFault_addAll (progress : Progress) (matcher : Matcher) (items : List Item) :
    (progress.addAll matcher items).sink.flushFault = progress.sink.flushFault := by
  induction items generalizing progress with
  | nil => rfl
  | cons item rest induction => rw [addAll_cons, induction, flushFault_add]

/-! ## Taking many items -/

theorem takeItems_append {options : Options} {front : List Item} {progress after : Progress}
    (passed : takeItems options front progress = (.ok (), after)) (rest : List Item) :
    takeItems options (front ++ rest) progress = takeItems options rest after := by
  induction front generalizing progress with
  | nil =>
      cases passed
      rfl
  | cons item others induction =>
      rw [List.cons_append, takeItems]
      rw [takeItems] at passed
      rcases taken : takeItem options item progress with ⟨_ | _, next⟩
      · rw [taken] at passed
        cases passed
      · rw [taken] at passed
        exact induction passed

theorem takeItems_append_of_error {options : Options} {front : List Item} {progress : Progress}
    {failure : Failure} (failed : (takeItems options front progress).1 = .error failure)
    (rest : List Item) :
    takeItems options (front ++ rest) progress = takeItems options front progress := by
  induction front generalizing progress with
  | nil => cases failed
  | cons item others induction =>
      rw [List.cons_append, takeItems, takeItems]
      rw [takeItems] at failed
      rcases taken : takeItem options item progress with ⟨_ | _, next⟩
      · rfl
      · rw [taken] at failed
        exact induction failed

theorem takeItems_cons_of_ending {options : Options} {item : Item} {failure : Failure}
    (ends : options.ending item = some failure) (rest : List Item) (progress : Progress) :
    takeItems options (item :: rest) progress =
      (.error failure, progress.meet (Verdict.ofItem options.matcher item).isExported) := by
  have judged := Verdict.judged_ofItem options.matcher item
  rw [takeItems, takeItem_of_ending judged (judged.ending_eq.trans ends)]

/-- Items that were passed have added their verdicts, and none of them ends a run. -/
theorem takeItems_eq_ok {options : Options} {items : List Item} {progress after : Progress}
    (passed : takeItems options items progress = (.ok (), after)) :
    (∀ item ∈ items, options.ending item = none) ∧
      after = progress.addAll options.matcher items := by
  induction items generalizing progress with
  | nil =>
      cases passed
      exact ⟨by simp, rfl⟩
  | cons item rest induction =>
      rw [takeItems] at passed
      rcases taken : takeItem options item progress with ⟨_ | _, next⟩
      · rw [taken] at passed
        cases passed
      · rw [taken] at passed
        have judged := Verdict.judged_ofItem options.matcher item
        rcases (takeItem_eq_ok_iff judged).mp taken with ⟨goesOn, -, rfl⟩
        rcases induction passed with ⟨restGoesOn, same⟩
        exact ⟨List.forall_mem_cons.mpr ⟨judged.ending_eq ▸ goesOn, restGoesOn⟩, same⟩

/-- Where everything fits, items are passed unless one of them ends the run. -/
theorem takeItems_of_roomy {options : Options} {items : List Item} (progress : Progress)
    (roomy : progress.sink.room = none) (goesOn : ∀ item ∈ items, options.ending item = none) :
    takeItems options items progress = (.ok (), progress.addAll options.matcher items) := by
  induction items generalizing progress with
  | nil => rfl
  | cons item rest induction =>
      rcases List.forall_mem_cons.mp goesOn with ⟨itemGoesOn, restGoesOn⟩
      have judged := Verdict.judged_ofItem options.matcher item
      -- Whatever is written here leaves the sink as roomy as it was, for the items that follow.
      have fits := Sink.fits_of_roomy roomy (Verdict.ofItem options.matcher item).offered
      rw [takeItems, takeItem_of_fits judged (judged.ending_eq.trans itemGoesOn) fits]
      exact induction _ (Progress.room_add roomy _) restGoesOn

/-! ## Whole runs -/

theorem sink_runItems (options : Options) (items : List Item) (sink : Sink) :
    (runItems options items sink).sink = (takeItems options items (.start sink)).2.sink := by
  unfold runItems
  rcases takeItems options items (.start sink) with ⟨_ | _, progress⟩
  · rfl
  · cases flushed : progress.sink.flush <;> simp only [flushed]

theorem events_runItems (options : Options) (items : List Item) (sink : Sink) :
    (runItems options items sink).events =
      (takeItems options items (.start sink)).2.events.reverse := by
  unfold runItems
  rcases takeItems options items (.start sink) with ⟨_ | _, progress⟩
  · rfl
  · cases flushed : progress.sink.flush <;> simp only [flushed]

section Runs

variable {options : Options} {items : List Item} {sink : Sink}

theorem runItems_eq_ok {summary : Summary}
    (completed : (runItems options items sink).result = .ok summary) :
    (∀ item ∈ items, options.ending item = none) ∧
      summary = ((Progress.start sink).addAll options.matcher items).summary ∧
      (runItems options items sink).sink =
        ((Progress.start sink).addAll options.matcher items).sink := by
  unfold runItems at completed ⊢
  rcases taken : takeItems options items (.start sink) with ⟨_ | _, after⟩
  · rw [taken] at completed
    cases completed
  · rcases takeItems_eq_ok taken with ⟨goesOn, rfl⟩
    rw [taken] at completed
    simp only at completed ⊢
    split at completed
    case h_1 => cases completed
    case h_2 =>
      cases completed
      exact ⟨goesOn, rfl, rfl⟩

theorem runItems_of_ending {item : Item} {failure : Failure} (roomy : sink.room = none)
    (goesOn : ∀ item ∈ items, options.ending item = none)
    (ends : options.ending item = some failure) (rest : List Item) :
    (runItems options (items ++ item :: rest) sink).result = .error failure ∧
      (runItems options (items ++ item :: rest) sink).sink =
        ((Progress.start sink).addAll options.matcher items).sink := by
  have passed := takeItems_of_roomy (.start sink) roomy goesOn
  rw [runItems, takeItems_append passed, takeItems_cons_of_ending ends]
  exact ⟨rfl, rfl⟩

end Runs

theorem run_of_read_error {source : Source} {failure : Failure}
    (refused : Table.read source = .error failure) (options : Options) (sink : Sink) :
    (run options source sink).result = .error failure ∧ (run options source sink).sink = sink := by
  rw [run, refused]
  exact ⟨rfl, rfl⟩

theorem run_of_read_ok {source : Source} {table : Table} (accepted : Table.read source = .ok table)
    (options : Options) (sink : Sink) :
    (run options source sink).result = (runItems options table.items sink).result ∧
      (run options source sink).sink = (runItems options table.items sink).sink := by
  rw [run, accepted]
  exact ⟨rfl, rfl⟩

end SymbolBindings.Generate
