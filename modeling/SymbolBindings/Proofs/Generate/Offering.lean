import SymbolBindings.Proofs.Generate.Progress
import SymbolBindings.Proofs.Text.Utf8

/-! # Offering

A run over a sink with room for everything offers what it writes and nothing else. Each block that
it offers is a text.
-/

namespace SymbolBindings

namespace Generate

/-- What a sink is offered at an event. -/
def Event.octets : Event → List UInt8
  | offered block => block
  | noted _ => []

/-- The events are a record of what was written. -/
structure Recorded (events : List Event) (sink : Sink) : Prop where
  written : events.flatMap Event.octets = sink.written
  texts : ∀ event ∈ events, Text.IsText event.octets

namespace Recorded

variable {events : List Event} {sink : Sink}

/-- What is noted offers nothing. -/
theorem noted (recorded : Recorded events sink) (line : Log.Line) :
    Recorded (.noted line :: events) sink where
  written := recorded.written
  texts := List.forall_mem_cons.mpr ⟨Text.isText_nil, recorded.texts⟩

theorem noted_after (recorded : Recorded events sink) (line : Log.Line) :
    Recorded (events ++ [.noted line]) sink where
  written := by
    rw [List.flatMap_append, recorded.written]
    exact List.append_nil _
  texts := List.forall_mem_append.mpr
    ⟨recorded.texts, List.forall_mem_singleton.mpr Text.isText_nil⟩

theorem offered (recorded : Recorded events sink) (block : String) :
    Recorded (events ++ [.offered (Text.octets block)]) (sink.take (Text.octets block)) where
  written := by
    rw [List.flatMap_append, recorded.written, Sink.written_take]
    exact congrArg (sink.written ++ ·) (List.append_nil _)
  texts := List.forall_mem_append.mpr
    ⟨recorded.texts, List.forall_mem_singleton.mpr (⟨block, rfl⟩)⟩

end Recorded

/-! ## Many items -/

theorem recorded_add {progress : Progress}
    (recorded : Recorded progress.events.reverse progress.sink) (verdict : Verdict) :
    Recorded (progress.add verdict).events.reverse (progress.add verdict).sink := by
  cases verdict with
  | failed | hidden | unmatched => exact recorded
  | unsupported name entry line =>
      change Recorded (Event.noted _ :: progress.events).reverse progress.sink
      rw [List.reverse_cons]
      exact recorded.noted_after _
  | declared declaration =>
      change Recorded (offers declaration ++ progress.events).reverse
        (progress.sink.take declaration.octets)
      unfold offers Declaration.octets
      cases declaration.block with
      | error failure =>
          refine ⟨?_, recorded.texts⟩
          rw [Sink.written_take, List.append_nil]
          exact recorded.written
      | ok block =>
          change Recorded (Event.offered _ :: progress.events).reverse _
          rw [List.reverse_cons]
          exact recorded.offered block

theorem recorded_takeItems (options : Options) (items : List Item) {progress : Progress}
    (roomy : progress.sink.room = none)
    (recorded : Recorded progress.events.reverse progress.sink) :
    Recorded (takeItems options items progress).2.events.reverse
      (takeItems options items progress).2.sink := by
  induction items generalizing progress with
  | nil => exact recorded
  | cons item rest induction =>
      have judged := Verdict.judged_ofItem options.matcher item
      rw [takeItems]
      cases ends : (Verdict.ofItem options.matcher item).ending options.policy with
      | some failure =>
          rw [takeItem_of_ending judged ends]
          exact recorded
      | none =>
          rw [takeItem_of_fits judged ends (Sink.fits_of_roomy roomy _)]
          exact induction (Progress.room_add roomy _) (recorded_add recorded _)

/-! ## Whole runs -/

theorem recorded_runItems (options : Options) (items : List Item) :
    Recorded (runItems options items .unbounded).events
      (runItems options items .unbounded).sink := by
  have untouched : Recorded (Progress.start .unbounded).events.reverse .unbounded :=
    ⟨rfl, by simp [Progress.start]⟩
  rw [sink_runItems, events_runItems]
  exact recorded_takeItems options items rfl untouched

theorem recorded_run (options : Options) (source : Source) :
    Recorded (run options source .unbounded).events (run options source .unbounded).sink := by
  have inert {events : List Event} {sink : Sink} (recorded : Recorded events sink) :
      Recorded (inertNotes options.matcher ++ events) sink := by
    unfold inertNotes
    split
    · exact recorded.noted _
    · exact recorded
  unfold run
  cases Table.read source with
  | error failure =>
      have nothing : Recorded [] Sink.unbounded := ⟨rfl, by simp⟩
      simpa only [List.append_nil] using inert nothing
  | ok table => exact inert ((recorded_runItems options table.items).noted _)

theorem recorded_runAt (options : Options) (path : String) (opened : Except SystemFault Source) :
    Recorded (runAt options path opened .unbounded).events
      (runAt options path opened .unbounded).sink := by
  unfold runAt
  cases opened with
  | error fault => exact Recorded.noted ⟨rfl, by simp⟩ _
  | ok source => exact (recorded_run options source).noted _

end Generate

end SymbolBindings
