import SymbolBindings.Machine
import SymbolBindings.Proofs.Steps

/-! # Steps on a machine

The steps of a session that leave no trace but what they tell.
-/

namespace SymbolBindings

variable {α β ε : Type}

namespace Session

theorem attempt_of_eq {σ : Type} {state after : σ} {operation : StateM σ (Except SystemFault α)}
    {result : Except SystemFault α} (done : operation state = (result, after))
    (explain : SystemFault → Trouble) :
    (attempt explain operation).run state = (result.mapError explain, after) :=
  bind_of_eq done _

end Session

/-! ## Telling -/

/-- What the user may be told: a line of the log, or of trouble at the end. -/
inductive IsMessage : String → Prop
  | line (line : Log.Line) : IsMessage line.render
  | report (trouble : Trouble) : IsMessage (trouble.diagnose.render false)

/-- Nothing has happened on a machine since it was `machine`, except that messages were told. -/
inductive Machine.Hears (machine : Machine) : Machine → Prop
  | nothing : Hears machine machine
  | message {after : Machine} {text : String} (heard : Hears machine after)
      (isMessage : IsMessage text) : Hears machine (after.tell text)

theorem Machine.Hears.trans {machine between after : Machine} (first : machine.Hears between)
    (second : between.Hears after) : machine.Hears after := by
  induction second with
  | nothing => exact first
  | message heard isMessage induction => exact induction.message isMessage

theorem Machine.Hears.same {machine after : Machine} (heard : machine.Hears after) :
    after.files = machine.files ∧ after.current = machine.current ∧
      after.printed = machine.printed := by
  induction heard with
  | nothing => exact ⟨rfl, rfl, rfl⟩
  | message heard isMessage induction => exact induction

/-- A step changes nothing but what the user was told. -/
def OnlyTells (step : StateM Machine α) : Prop :=
  ∀ machine, ∃ value after, step machine = (value, after) ∧ machine.Hears after

namespace OnlyTells

theorem of_asking {step : StateM Machine α} (answer : Machine → α)
    (asks : ∀ machine, step machine = (answer machine, machine)) : OnlyTells step :=
  fun machine => ⟨answer machine, machine, asks machine, .nothing⟩

theorem pure (value : α) : OnlyTells (Pure.pure value) :=
  of_asking (fun _ => value) fun _ => rfl

theorem bind {first : StateM Machine α} {next : α → StateM Machine β} (tells : OnlyTells first)
    (goesOn : ∀ value, OnlyTells (next value)) : OnlyTells (first >>= next) := by
  intro machine
  rcases tells machine with ⟨value, between, done, heard⟩
  rcases goesOn value between with ⟨result, after, doneNext, heardNext⟩
  exact ⟨result, after, (bind_of_eq done next).trans doneNext, heard.trans heardNext⟩

theorem step_bind {first : ExceptT ε (StateM Machine) α}
    {next : α → ExceptT ε (StateM Machine) β} (tells : OnlyTells first.run)
    (goesOn : ∀ value, OnlyTells (next value).run) : OnlyTells (first >>= next).run := by
  rw [ExceptT.run_bind]
  apply bind tells
  intro result
  cases result with
  | error trouble => exact pure _
  | ok value => exact goesOn value

theorem step_lift {first : StateM Machine α} (tells : OnlyTells first) :
    OnlyTells (liftM first : ExceptT ε (StateM Machine) α).run := by
  change OnlyTells (Except.ok <$> first)
  rw [map_eq_pure_bind]
  exact bind tells fun value => pure _

end OnlyTells

namespace Session

variable (verbose : Bool)

theorem onlyTells_note (line : Log.Line) : OnlyTells (note ⟨Machine.system, verbose⟩ line) := by
  unfold note
  split
  · exact fun machine => ⟨(), machine.tell line.render, rfl, .message .nothing (.line line)⟩
  · exact .pure ()

theorem onlyTells_notes (lines : List Log.Line) :
    OnlyTells (notes ⟨Machine.system, verbose⟩ lines) := by
  induction lines with
  | nil => exact .pure ()
  | cons line rest induction => exact (onlyTells_note verbose line).bind fun _ => induction

end Session

end SymbolBindings
