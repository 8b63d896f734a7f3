import SymbolBindings.Proofs.Session.Steps

/-! # Launching

The steps of a session that start programs. Whatever the programs do, the calls of a step are those
of its commands in their order, up to the first command that fails.
-/

namespace SymbolBindings

/-- A session on a machine whose files are named by texts of this type. -/
abbrev Machine.session (σ : Type) {κ : Type} [PathText σ κ] [DecidableEq σ] [DecidableEq κ]
    (verbose : Bool) : Session (StateM (Machine σ)) σ :=
  ⟨Machine.system, verbose⟩

variable {σ κ α β : Type} [PathText σ κ] [DecidableEq σ] [DecidableEq κ]

namespace Machine

/-- The call that a session makes for a command. No program is started with U+0000 in its words. -/
def callOf (machine : Machine σ) (command : Command σ) : Except SystemFault (Call σ) :=
  if command.hasZero then .error .zeroInCommand else machine.call command

section Before

variable (machine : Machine σ) (calls : List (Call σ)) (told : String)

theorem firstProgram_congr (directory : Place σ) (fault : SystemFault) (paths : List σ) :
    ({ machine with calls, told } : Machine σ).firstProgram directory fault paths =
      machine.firstProgram directory fault paths := by
  induction paths generalizing fault with
  | nil => rfl
  | cons path rest induction =>
      simp only [firstProgram, induction]
      rfl

theorem program_congr :
    ({ machine with calls, told } : Machine σ).program = machine.program := by
  funext directory path
  simp only [program, firstProgram_congr]
  rfl

/-- What was called and told before makes no difference to a call. -/
theorem callOf_congr : ({ machine with calls, told } : Machine σ).callOf = machine.callOf := by
  funext command
  simp only [callOf, call, program_congr]
  rfl

end Before

/-- The calls that are made where these are due, and the result they lead to: all of them and this
value, or the first of them and trouble. -/
inductive Makes (due : List (Except SystemFault (Call σ))) (value : α) :
    List (Call σ) → Except Trouble α → Prop
  | all {made : List (Call σ)} (done : made.map .ok = due) : Makes due value made (.ok value)
  | first {made : List (Call σ)} (trouble : Trouble) (begun : made.map .ok <+: due) :
      Makes due value made (.error trouble)

omit [PathText σ κ] [DecidableEq σ] [DecidableEq κ] in
theorem Makes.append {due rest : List (Except SystemFault (Call σ))} {value : α} {next : β}
    {made madeNext : List (Call σ)} {result : Except Trouble β}
    (done : Makes due value made (.ok value)) (goesOn : Makes rest next madeNext result) :
    Makes (due ++ rest) next (made ++ madeNext) result := by
  cases done with
  | all done =>
      rw [← done]
      cases goesOn with
      | all doneNext => exact .all (by rw [List.map_append, doneNext])
      | first trouble begun =>
          apply Makes.first trouble
          rw [List.map_append]
          exact (List.prefix_append_right_inj _).mpr begun

end Machine

/-! ## Steps -/

/-- The step makes the calls of these commands and tells of them. It does nothing else, and if every
command succeeds it comes to this value. -/
def Launches (commands : List (Command σ)) (value : α)
    (step : ExceptT Trouble (StateM (Machine σ)) α) : Prop :=
  ∀ machine : Machine σ, ∃ made result told,
    step.run machine =
      (result, { machine with calls := made.reverse ++ machine.calls, told }) ∧
    Machine.Makes (commands.map machine.callOf) value made result

namespace Launches

variable {commands others : List (Command σ)} {value : α} {result : β}

theorem pure (value : α) : Launches ([] : List (Command σ)) value (Pure.pure value) := by
  intro machine
  exact ⟨[], .ok value, machine.told, rfl, .all rfl⟩

theorem bind {first : ExceptT Trouble (StateM (Machine σ)) α}
    {next : α → ExceptT Trouble (StateM (Machine σ)) β} (launches : Launches commands value first)
    (goesOn : Launches others result (next value)) :
    Launches (commands ++ others) result (first >>= next) := by
  intro machine
  rcases launches machine with ⟨made, answer, told, ran, makes⟩
  rw [List.map_append]
  cases answer with
  | error trouble =>
      cases makes with
      | first trouble begun =>
          exact ⟨made, .error trouble, told, step_bind_of_error ran next,
            .first trouble (begun.trans (List.prefix_append _ _))⟩
  | ok done =>
      have same : done = value := by
        cases makes
        rfl
      subst same
      rcases goesOn { machine with calls := made.reverse ++ machine.calls, told } with
        ⟨madeNext, answer, toldNext, ranNext, makesNext⟩
      rw [Machine.callOf_congr] at makesNext
      refine ⟨made ++ madeNext, answer, toldNext, ?_, makes.append makesNext⟩
      rw [step_bind_of_ok ran, ranNext, List.reverse_append, List.append_assoc]

theorem bind_pure {step : ExceptT Trouble (StateM (Machine σ)) α}
    (launches : Launches commands value step) (transform : α → β) :
    Launches commands (transform value) (step >>= fun value => Pure.pure (transform value)) := by
  rw [← List.append_nil commands]
  apply launches.bind
  exact .pure (transform value)

/-- Trouble may be explained another way. -/
theorem adapt {step : ExceptT Trouble (StateM (Machine σ)) α}
    (launches : Launches commands value step) (explain : Trouble → Trouble) : Launches commands value (ExceptT.adapt explain step) := by
  intro machine
  rcases launches machine with ⟨made, result, told, ran, makes⟩
  refine ⟨made, result.mapError explain, told, ?_, ?_⟩
  · exact bind_of_eq ran fun result => Pure.pure (result.mapError explain)
  · cases makes with
    | all done => exact .all done
    | first trouble begun => exact .first (explain trouble) begun

end Launches

namespace Session

variable (verbose : Bool)

theorem launches_note (line : Log.Line) :
    Launches ([] : List (Command σ)) () (liftM ((Machine.session σ verbose).note line)) := by
  intro machine
  have tells : ∃ told,
      (Machine.session σ verbose).note line machine = ((), { machine with told }) := by
    unfold note
    split
    case isTrue => exact ⟨_, rfl⟩
    case isFalse => exact ⟨_, rfl⟩
  rcases tells with ⟨told, done⟩
  exact ⟨[], .ok (), told, step_lift_of_eq done, .all rfl⟩

theorem launches_after_note {commands : List (Command σ)} {value : α} (line : Log.Line)
    {next : Unit → ExceptT Trouble (StateM (Machine σ)) α}
    (goesOn : Launches commands value (next ())) :
    Launches commands value (liftM ((Machine.session σ verbose).note line) >>= next) :=
  (launches_note verbose line).bind goesOn

theorem status_run (command : Command σ) (machine : Machine σ) :
    ((Machine.session σ verbose).status command).run machine =
      match machine.callOf command with
      | .error fault => (.error (.notStarted (PathText.shown command.program) fault), machine)
      | .ok call =>
        (.ok (machine.respond call), { machine with calls := call :: machine.calls }) := by
  unfold status Machine.callOf
  split
  case isTrue => rfl
  case isFalse =>
    have launched : Machine.launch command machine = match machine.call command with
      | .error fault => (.error fault, machine)
      | .ok call =>
        (.ok (machine.respond call), { machine with calls := call :: machine.calls }) := rfl
    cases called : machine.call command with
    | error fault =>
        rw [called] at launched
        exact attempt_of_eq launched _
    | ok call =>
        rw [called] at launched
        exact attempt_of_eq launched _

/-- A command that cannot be started makes no call. -/
theorem launches_runCommand (command : Command σ) :
    Launches [command] () ((Machine.session σ verbose).runCommand command) := by
  apply launches_after_note
  intro machine
  have status := status_run verbose command machine
  rw [List.map_singleton]
  cases called : machine.callOf command with
  | error fault =>
      rw [called] at status
      exact ⟨[], _, machine.told, step_bind_of_error status _, .first _ List.nil_prefix⟩
  | ok call =>
      rw [called] at status
      have ran := step_bind_of_ok status fun exit : Command.Exit =>
        if exit.isSuccess then Pure.pure () else throw (Trouble.endedBadly command.display exit)
      by_cases success : (machine.respond call).isSuccess = true
      · rw [if_pos success] at ran
        exact ⟨[call], .ok (), machine.told, ran, .all rfl⟩
      · rw [if_neg success] at ran
        exact ⟨[call], .error _, machine.told, ran, .first _ List.prefix_rfl⟩

end Session

end SymbolBindings
