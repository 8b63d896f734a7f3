import SymbolBindings.Proofs.Generate.Progress
import SymbolBindings.Proofs.Sink.Portions

/-! # Truncation

A sink without room for everything only cuts off what a run writes. Until it is full the run is the
one over a sink that takes everything, and then its fault is the end, whatever rows would follow.
-/

namespace SymbolBindings

/-- The sink as it would be with room for everything. -/
def Sink.widened (sink : Sink) : Sink :=
  { sink with
    room := none
    overflow := .takesNothing }

namespace Generate

def Progress.widened (progress : Progress) : Progress :=
  { progress with sink := progress.sink.widened }

/-- How taking items ends where `capacity` octets fit in all, told from how it ends where everything
fits. -/
inductive Cut (capacity : Nat) (fault : SystemFault) (whole cut : Except Failure Unit × Progress) :
    Prop
  | same (fits : whole.2.sink.written.length ≤ capacity) (result : cut.1 = whole.1)
      (widened : cut.2.widened = whole.2)
  | full (tight : capacity < whole.2.sink.written.length)
      (result : cut.1 = .error (.system fault))
      (written : cut.2.sink.written = whole.2.sink.written.take capacity)

/-! ## What is written of an item -/

theorem sink_declare {declaration : Declaration} {block : String} {progress : Progress}
    (found : declaration.block = .ok block) :
    (declare declaration progress).2.sink = (progress.sink.writeAll declaration.octets).2 := by
  unfold declare
  simp only [Sink.perform_declaration found]
  cases (progress.sink.writeAll declaration.octets).1 <;> rfl

theorem Progress.widened_add (progress : Progress) (verdict : Verdict) :
    (progress.add verdict).widened = progress.widened.add verdict := by
  cases verdict <;> rfl

theorem Progress.written_add (progress : Progress) (verdict : Verdict) :
    (progress.add verdict).sink.written = progress.sink.written ++ verdict.offered := by
  cases verdict with
  | declared declaration => exact Sink.written_take _ _
  | _ => exact (List.append_nil _).symm

theorem Progress.room_add_of_limited {progress : Progress} {room : Nat}
    (limited : progress.sink.room = some room) (verdict : Verdict) :
    (progress.add verdict).sink.room = some (room - verdict.offered.length) := by
  cases verdict with
  | declared declaration =>
      change progress.sink.room.map _ = _
      rw [limited]
      rfl
  | _ => exact limited

theorem Progress.overflowFault_add (progress : Progress) (verdict : Verdict) :
    (progress.add verdict).sink.overflowFault = progress.sink.overflowFault := by
  cases verdict <;> rfl

/-- Of an item that does not end the run, what it offers is written as far as it fits. -/
theorem written_takeItem {options : Options} {item : Item} {verdict : Verdict}
    (judged : Verdict.Judged options.matcher item verdict)
    (goesOn : verdict.ending options.policy = none) (progress : Progress) :
    (takeItem options item progress).2.sink.written =
      progress.sink.written ++
        verdict.offered.take (progress.sink.fitting verdict.offered.length) := by
  by_cases fits : progress.sink.Fits verdict.offered
  · rw [takeItem_of_fits judged goesOn fits, Progress.written_add]
    unfold Sink.Fits at fits
    rw [fits, List.take_length]
  · rw [takeItem_eq_settle judged]
    unfold settle
    rw [goesOn]
    cases judged with
    | declared exported selected made =>
        rcases Declaration.exists_block made with ⟨block, found⟩
        exact (congrArg Sink.written (sink_declare found)).trans (Sink.written_writeAll _ _)
    | _ => exact absurd progress.sink.fits_nil fits

/-- What was written stays. -/
theorem written_prefix_takeItem (options : Options) (item : Item) (progress : Progress) :
    progress.sink.written <+: (takeItem options item progress).2.sink.written := by
  have judged := Verdict.judged_ofItem options.matcher item
  cases ends : (Verdict.ofItem options.matcher item).ending options.policy with
  | some failure =>
      rw [takeItem_of_ending judged ends]
      exact List.prefix_rfl
  | none =>
      rw [written_takeItem judged ends]
      exact List.prefix_append _ _

theorem written_prefix_takeItems (options : Options) (items : List Item) (progress : Progress) :
    progress.sink.written <+: (takeItems options items progress).2.sink.written := by
  induction items generalizing progress with
  | nil => exact List.prefix_rfl
  | cons item rest induction =>
      have first := written_prefix_takeItem options item progress
      rw [takeItems]
      rcases taken : takeItem options item progress with ⟨_ | _, after⟩
      · rw [taken] at first
        exact first
      · rw [taken] at first
        exact first.trans (induction after)

/-! ## Two sinks side by side -/

theorem takeItems_cut (options : Options) (items : List Item) {progress : Progress} {room : Nat}
    (limited : progress.sink.room = some room) :
    Cut (progress.sink.written.length + room) progress.sink.overflowFault
      (takeItems options items progress.widened) (takeItems options items progress) := by
  induction items generalizing progress room with
  | nil => exact .same (Nat.le_add_right _ _) rfl rfl
  | cons item rest induction =>
      have judged := Verdict.judged_ofItem options.matcher item
      generalize Verdict.ofItem options.matcher item = verdict at judged
      rw [takeItems, takeItems]
      cases ends : verdict.ending options.policy with
      | some failure =>
          rw [takeItem_of_ending judged ends, takeItem_of_ending judged ends]
          exact .same (Nat.le_add_right _ _) rfl rfl
      | none =>
          have wide : progress.widened.sink.Fits verdict.offered := Sink.fits_of_roomy rfl _
          rw [takeItem_of_fits judged ends wide, ← Progress.widened_add]
          by_cases fits : progress.sink.Fits verdict.offered
          · -- The room that is left is smaller by what was written, so their sum stays.
            have length : verdict.offered.length ≤ room := by
              by_contra tight
              exact Sink.not_fits_iff.mpr ⟨room, limited, by omega⟩ fits
            have after := induction (Progress.room_add_of_limited limited verdict)
            rw [Progress.overflowFault_add, Progress.written_add, List.length_append,
              Nat.add_assoc, Nat.add_sub_of_le length] at after
            rw [takeItem_of_fits judged ends fits]
            exact after
          · rcases Sink.not_fits_iff.mp fits with ⟨_, sameRoom, tight⟩
            rw [limited, Option.some.injEq] at sameRoom
            subst sameRoom
            have result := takeItem_of_not_fits judged ends fits
            have written := written_takeItem judged ends progress
            rw [Sink.fitting_of_not_fits limited tight] at written
            have more := written_prefix_takeItems options rest (progress.add verdict).widened
            rcases more with ⟨later, all⟩
            change (progress.add verdict).sink.written ++ later = _ at all
            rw [Progress.written_add] at all
            rcases taken : takeItem options item progress with ⟨_ | _, after⟩
            · rw [taken] at result written
              refine .full ?_ result ?_
              · simp only [← all, List.length_append]
                omega
              · simp only [← all, List.append_assoc, List.take_length_add_append]
                rw [written, List.take_append_of_le_length (Nat.le_of_lt tight)]
            · rw [taken] at result
              cases result

/-! ## Whole runs -/

theorem written_prefix_runItems (options : Options) (front rest : List Item) (sink : Sink) :
    (runItems options front sink).sink.written <+:
      (runItems options (front ++ rest) sink).sink.written := by
  rw [sink_runItems, sink_runItems]
  rcases taken : takeItems options front (.start sink) with ⟨_ | _, after⟩
  · rw [takeItems_append_of_error (congrArg Prod.fst taken), taken]
  · rw [takeItems_append taken]
    exact written_prefix_takeItems options rest after

section Bounded

variable (options : Options) (capacity : Nat) (overflow : Overflow)

theorem runItems_bounded (items : List Item) :
    (runItems options items (.bounded capacity overflow)).sink.written =
        (runItems options items .unbounded).sink.written.take capacity ∧
      (runItems options items (.bounded capacity overflow)).result =
        if (runItems options items .unbounded).sink.written.length ≤ capacity then
          (runItems options items .unbounded).result
        else .error (.system (Sink.bounded capacity overflow).overflowFault) := by
  have cut := takeItems_cut options items
    (show (Progress.start (.bounded capacity overflow)).sink.room = some capacity from rfl)
  change Cut (0 + capacity) _ (takeItems options items (.start .unbounded)) _ at cut
  rw [Nat.zero_add] at cut
  rw [sink_runItems, sink_runItems]
  unfold runItems
  rcases whole : takeItems options items (.start .unbounded) with ⟨wholeResult, wholeAfter⟩
  rcases taken : takeItems options items (.start (.bounded capacity overflow)) with ⟨result, after⟩
  rw [whole, taken] at cut
  cases cut with
  | same fits sameResult widened =>
      simp only at fits sameResult widened ⊢
      subst sameResult widened
      rw [if_pos fits, List.take_of_length_le fits]
      cases result with
      | error failure => exact ⟨rfl, rfl⟩
      | ok =>
          have flushed : after.widened.sink.flush = after.sink.flush := rfl
          simp only [flushed]
          cases after.sink.flush <;> exact ⟨rfl, rfl⟩
  | full tight failed written =>
      simp only at tight failed written ⊢
      subst failed
      have reached : ¬wholeAfter.sink.written.length ≤ capacity := Nat.not_le_of_lt tight
      cases wholeResult with
      | error failure =>
          simp only [if_neg reached]
          exact ⟨written, rfl⟩
      | ok =>
          cases wholeAfter.sink.flush <;> simp only [if_neg reached] <;> exact ⟨written, rfl⟩

/-- A sink with room for `capacity` octets gets the first of what a run writes, and its fault ends
the run exactly if there are more. No row after the one that fills the sink matters, nor do the
portions in which a sink takes a block. -/
theorem run_truncates (source : Source) :
    ((run options source (.bounded capacity overflow)).sink.written =
        (run options source .unbounded).sink.written.take capacity ∧
      (run options source (.bounded capacity overflow)).result =
        if (run options source .unbounded).sink.written.length ≤ capacity then
          (run options source .unbounded).result
        else .error (.system (Sink.bounded capacity overflow).overflowFault)) ∧
      (∀ table front rest, Table.read source = .ok table → table.items = front ++ rest →
        capacity < (runItems options front .unbounded).sink.written.length →
        (run options source (.bounded capacity overflow)).result =
          .error (.system (Sink.bounded capacity overflow).overflowFault)) ∧
      ∀ sink offered result taken, Sink.OfferedAgain sink offered result taken ↔
        (sink.writeAll offered).1 = result ∧
          (sink.writeAll offered).2.written = sink.written ++ taken := by
  refine ⟨?_, ?_, fun sink offered result taken => Sink.offeredAgain_iff⟩
  · cases read : Table.read source with
    | error failure =>
        rcases run_of_read_error read options (.bounded capacity overflow) with ⟨result, sink⟩
        rcases run_of_read_error read options .unbounded with ⟨wholeResult, wholeSink⟩
        rw [result, sink, wholeResult, wholeSink]
        simp
    | ok table =>
        rcases run_of_read_ok read options (.bounded capacity overflow) with ⟨result, sink⟩
        rcases run_of_read_ok read options .unbounded with ⟨wholeResult, wholeSink⟩
        rw [result, sink, wholeResult, wholeSink]
        exact runItems_bounded options capacity overflow table.items
  · intro table front rest read split tight
    have more := (written_prefix_runItems options front rest .unbounded).length_le
    rw [(run_of_read_ok read options _).1, split,
      (runItems_bounded options capacity overflow (front ++ rest)).2, if_neg]
    omega

end Bounded

/-- The sink is full within a letter of two octets, and the row that would be refused afterwards is
not what the user is told about. -/
theorem run_truncates_within_letter :
    Table.read (.ofOctets (Text.octets "name,entry,status,type\né,Variable,+,int\n,,,\n")) =
        .ok ⟨["name", "entry", "status", "type"],
          [.ok ⟨"é", .object, true, "int", "", some 2⟩, .error (.malformed (some 3) .emptyName)]⟩ ∧
      12 < (runItems ⟨⟨none, false⟩, .skip⟩ [.ok ⟨"é", .object, true, "int", "", some 2⟩]
        .unbounded).sink.written.length ∧
      (run ⟨⟨none, false⟩, .skip⟩
          (.ofOctets (Text.octets "name,entry,status,type\né,Variable,+,int\n,,,\n"))
          .unbounded).result = .error (.malformed (some 3) .emptyName) ∧
      (run ⟨⟨none, false⟩, .skip⟩
          (.ofOctets (Text.octets "name,entry,status,type\né,Variable,+,int\n,,,\n"))
          (.bounded 12 .takesNothing)).result = .error (.system .nothingTaken) ∧
      (run ⟨⟨none, false⟩, .skip⟩
          (.ofOctets (Text.octets "name,entry,status,type\né,Variable,+,int\n,,,\n"))
          (.bounded 12 .takesNothing)).sink.written = Text.octets "pub static " ++ [0xC3] := by
  have truncates := run_truncates ⟨⟨none, false⟩, .skip⟩ 12 .takesNothing
    (.ofOctets (Text.octets "name,entry,status,type\né,Variable,+,int\n,,,\n"))
  refine ⟨rfl, by decide, rfl, truncates.2.1 _ _ _ rfl List.singleton_append.symm (by decide), ?_⟩
  rw [truncates.1.1]
  rfl

end Generate

end SymbolBindings
