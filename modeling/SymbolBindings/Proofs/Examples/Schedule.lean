import SymbolBindings.Examples
import SymbolBindings.Proofs.Steps

/-! # Schedules

Building examples makes the calls of a schedule in their order, up to the first that fails. Whatever
the calls do to the surroundings, and however their answers depend on them, no call is left out,
repeated or made out of turn.
-/

namespace SymbolBindings.Examples

/-! ## Remote paths -/

/-- Units that are installed in one directory do not overwrite each other. -/
theorem installPath_injective (directory : String) : Function.Injective (installPath directory) := by
  intro left right samePath
  simp only [installPath] at samePath
  have characters := congrArg String.toList samePath
  simp only [String.toList_append, List.append_assoc] at characters
  have tails := List.append_cancel_left (List.append_cancel_left characters)
  exact String.toList_injective (List.append_cancel_right tails)

theorem withoutEndSlashes_append_slashes (path : String) (count : Nat) :
    PathName.withoutEndSlashes (path ++ String.ofList (List.replicate count '/')) =
      PathName.withoutEndSlashes path := by
  have slashes : ∀ character ∈ (List.replicate count '/').reverse,
      (character == PathText.slash String) = true := by
    intro character member
    rw [List.eq_of_mem_replicate (List.mem_reverse.mp member)]
    rfl
  have letters : PathText.letters (String.ofList (List.replicate count '/')) =
    List.replicate count '/' := String.toList_ofList
  rw [PathName.withoutEndSlashes, PathName.withoutEndSlashes, PathText.letters_append, letters,
    List.reverse_append, List.dropWhile_append_of_pos slashes]

theorem installPath_append_slashes (directory : String) (count : Nat) :
    installPath (directory ++ String.ofList (List.replicate count '/')) =
      installPath directory := by
  funext unit
  rw [installPath, installPath, withoutEndSlashes_append_slashes]

/-! ## Calls and their answers -/

/-- A call of a workshop and what it came to. -/
inductive Exchange (ε τ : Type)
  | built (unit : String) (answer : Except ε τ)
  | sent (artifact : τ) (remote : String) (answer : Except ε Unit)

/-- The same call, but it fails. -/
def Exchange.failing {ε τ : Type} (trouble : ε) : Exchange ε τ → Exchange ε τ
  | built unit _ => built unit (.error trouble)
  | sent artifact remote _ => sent artifact remote (.error trouble)

variable {σ ε τ : Type}

/-- The call, with a record of what it came to beside the state of the surroundings. -/
def recordedCall {α : Type} (exchange : Except ε α → Exchange ε τ)
    (call : ExceptT ε (StateM σ) α) : ExceptT ε (StateM (σ × List (Exchange ε τ))) α :=
  ExceptT.mk fun (state, record) =>
    let (answer, after) := call.run state
    (answer, after, record ++ [exchange answer])

/-- The workshop, with a record of its calls. -/
def Workshop.recorded (workshop : Workshop (StateM σ) ε τ) :
    Workshop (StateM (σ × List (Exchange ε τ))) ε τ where
  note line := fun (state, record) => ((), (workshop.note line state).2, record)
  build unit := recordedCall (.built unit) (workshop.build unit)
  send := workshop.send.map fun send artifact remote =>
    recordedCall (.sent artifact remote) (send artifact remote)

section Plans

variable (installs : Bool) (directory : String)

/-- The calls for one unit whose build gives this artifact. -/
def visit (unit : String) (artifact : τ) : List (Exchange ε τ) :=
  .built unit (.ok artifact) ::
    if installs then [.sent artifact (installPath directory unit) (.ok ())] else []

def schedule (units : List String) (artifacts : List τ) : List (Exchange ε τ) :=
  (List.zipWith (visit installs directory) units artifacts).flatten

/-- What comes of one unit. -/
def product (unit : String) (artifact : τ) : Built τ :=
  ⟨unit, artifact, if installs then some (installPath directory unit) else none⟩

end Plans

/-- The exchanges that are made where `plan` is to be kept, and the result they lead to: all of them
and `value`, or those before some failure, the failure, and its trouble. -/
inductive Keeps {α : Type} (plan : List (Exchange ε τ)) (value : α) :
    List (Exchange ε τ) → Except ε α → Prop
  | completed : Keeps plan value plan (.ok value)
  | brokenOff {before after : List (Exchange ε τ)} {due : Exchange ε τ} (trouble : ε)
      (split : plan = before ++ due :: after) :
      Keeps plan value (before ++ [due.failing trouble]) (.error trouble)

theorem Keeps.failing {α : Type} (due : Exchange ε τ) (trouble : ε) (value : α) :
    Keeps [due] value [due.failing trouble] (.error trouble) := by
  have split : [due] = [] ++ due :: [] := rfl
  exact .brokenOff trouble split

theorem Keeps.brokenOff_append {α β : Type} {plan made : List (Exchange ε τ)} {value : α}
    {trouble : ε} (kept : Keeps plan value made (.error trouble)) (rest : List (Exchange ε τ))
    (next : β) :
    Keeps (plan ++ rest) next made (.error trouble) := by
  cases kept with
  | brokenOff trouble split =>
      apply brokenOff
      rw [split, List.append_assoc, List.cons_append]

theorem Keeps.append {α : Type} {plan made : List (Exchange ε τ)} {value : α}
    {result : Except ε α} (kept : Keeps plan value made result) (first : List (Exchange ε τ)) :
    Keeps (first ++ plan) value (first ++ made) result := by
  cases kept with
  | completed => exact .completed
  | brokenOff trouble split =>
      rw [← List.append_assoc]
      apply brokenOff
      rw [split, List.append_assoc]

/-! ## Planned steps -/

/-- The step comes to the same whether or not its calls are recorded, and the record keeps one of
the plans, each of which goes with a value. -/
def Planned {α : Type} (plans : List (Exchange ε τ) → α → Prop) (plain : ExceptT ε (StateM σ) α)
    (recorded : ExceptT ε (StateM (σ × List (Exchange ε τ))) α) : Prop :=
  ∀ state record, ∃ plan value made result after, plans plan value ∧
    plain.run state = (result, after) ∧
    recorded.run (state, record) = (result, after, record ++ made) ∧ Keeps plan value made result

namespace Planned

variable {α β : Type} {plans : List (Exchange ε τ) → α → Prop}
  {plain : ExceptT ε (StateM σ) α} {recorded : ExceptT ε (StateM (σ × List (Exchange ε τ))) α}

theorem imp {others : List (Exchange ε τ) → α → Prop} (planned : Planned plans plain recorded)
    (included : ∀ plan value, plans plan value → others plan value) :
    Planned others plain recorded := by
  intro state record
  rcases planned state record with ⟨plan, value, made, result, after, inPlans, ran⟩
  exact ⟨plan, value, made, result, after, included plan value inPlans, ran⟩

theorem pure (value : α) :
    Planned (fun (plan : List (Exchange ε τ)) result => plan = [] ∧ result = value)
      (Pure.pure value : ExceptT ε (StateM σ) α) (Pure.pure value) := by
  intro state record
  refine ⟨[], value, [], .ok value, state, ⟨rfl, rfl⟩, rfl, ?_, .completed⟩
  rw [List.append_nil]
  rfl

/-- The plans of one step and then of the next. -/
theorem bind {nextPlans : α → List (Exchange ε τ) → β → Prop} {next : α → ExceptT ε (StateM σ) β}
    {nextRecorded : α → ExceptT ε (StateM (σ × List (Exchange ε τ))) β}
    (planned : Planned plans plain recorded)
    (goesOn : ∀ value, Planned (nextPlans value) (next value) (nextRecorded value)) :
    Planned (fun plan result => ∃ first value rest, plan = first ++ rest ∧ plans first value ∧
        nextPlans value rest result)
      (plain >>= next) (recorded >>= nextRecorded) := by
  intro state record
  rcases planned state record with ⟨plan, value, made, result, after, inPlans, ran, told, kept⟩
  rcases goesOn value after (record ++ made) with
    ⟨rest, nextValue, madeNext, resultNext, afterNext, inNextPlans, ranNext, toldNext, keptNext⟩
  cases result with
  | error trouble =>
      refine ⟨plan ++ rest, nextValue, made, .error trouble, after,
        ⟨plan, value, rest, rfl, inPlans, inNextPlans⟩, ?_, ?_, ?_⟩
      · exact step_bind_of_error ran next
      · exact step_bind_of_error told nextRecorded
      · exact kept.brokenOff_append rest nextValue
  | ok done =>
      cases kept
      refine ⟨plan ++ rest, nextValue, plan ++ madeNext, resultNext, afterNext,
        ⟨plan, value, rest, rfl, inPlans, inNextPlans⟩, ?_, ?_, ?_⟩
      · exact (step_bind_of_ok ran next).trans ranNext
      · rw [step_bind_of_ok told, toldNext, List.append_assoc]
      · exact keptNext.append plan

/-- A call is its own plan, and the only way to break it off is its failure. -/
theorem call [Inhabited α] {exchange : Except ε α → Exchange ε τ}
    (fails : ∀ trouble value, exchange (.error trouble) = (exchange (.ok value)).failing trouble)
    (call : ExceptT ε (StateM σ) α) :
    Planned (fun plan value => plan = [exchange (.ok value)]) call (recordedCall exchange call) := by
  intro state record
  rcases ran : call.run state with ⟨answer, after⟩
  have told : (recordedCall exchange call).run (state, record) =
      (answer, after, record ++ [exchange answer]) := by
    simp only [recordedCall, ExceptT.run_mk, ran]
  cases answer with
  | ok value => exact ⟨_, value, _, _, _, rfl, rfl, told, .completed⟩
  | error trouble =>
      refine ⟨_, default, _, _, _, rfl, rfl, told, ?_⟩
      rw [fails trouble default]
      exact .failing _ trouble default

end Planned

section Steps

variable {κ : Type} [PathText τ κ] (workshop : Workshop (StateM σ) ε τ) (directory unit : String)
  (artifact : τ)

theorem planned_note (line : Log.Line) :
    Planned (fun (plan : List (Exchange ε τ)) _ => plan = [])
      (liftM (workshop.note line) : ExceptT ε (StateM σ) Unit)
      (liftM (workshop.recorded.note line)) := by
  intro state record
  refine ⟨[], (), [], .ok (), (workshop.note line state).2, rfl, step_lift_of_eq rfl, ?_,
    .completed⟩
  rw [List.append_nil]
  exact step_lift_of_eq rfl

theorem planned_build [Inhabited τ] (build : String → ExceptT ε (StateM σ) τ) :
    Planned (fun plan made => plan = [.built unit (.ok made)]) (build unit)
      (recordedCall (.built unit) (build unit)) := by
  apply Planned.call
  intro trouble made
  rfl

theorem planned_send (send : τ → String → ExceptT ε (StateM σ) Unit) (remote : String) :
    Planned (fun plan _ => plan = [.sent artifact remote (.ok ())]) (send artifact remote)
      (recordedCall (.sent artifact remote) (send artifact remote)) := by
  apply Planned.call
  intro trouble sent
  rfl

theorem planned_install :
    Planned
      (fun plan installed => .built unit (.ok artifact) :: plan =
          visit workshop.send.isSome directory unit artifact ∧
        installed = (product workshop.send.isSome directory unit artifact).installedTo)
      (install workshop directory unit artifact)
      (install workshop.recorded directory unit artifact) := by
  rcases workshop with ⟨note, build, send⟩
  cases send with
  | none =>
      apply (Planned.pure none).imp
      rintro plan installed ⟨rfl, rfl⟩
      exact ⟨rfl, rfl⟩
  | some send =>
      have sends := planned_send artifact send (installPath directory unit)
      apply ((planned_note ⟨note, build, some send⟩ _).bind fun _ => sends.bind fun _ =>
        .pure (some (installPath directory unit))).imp
      rintro plan installed ⟨_, _, _, rfl, rfl, _, _, _, rfl, rfl, rfl, rfl⟩
      exact ⟨rfl, rfl⟩

theorem schedule_cons (installs : Bool) (units : List String) (artifacts : List τ) :
    (schedule installs directory (unit :: units) (artifact :: artifacts) : List (Exchange ε τ)) =
      visit installs directory unit artifact ++ schedule installs directory units artifacts :=
  rfl

theorem planned_buildAll (units : List String) :
    Planned
      (fun plan built => ∃ artifacts : List τ, artifacts.length = units.length ∧
        plan = schedule workshop.send.isSome directory units artifacts ∧
        built = List.zipWith (product workshop.send.isSome directory) units artifacts)
      (buildAll workshop directory units) (buildAll workshop.recorded directory units) := by
  induction units with
  | nil =>
      apply (Planned.pure []).imp
      rintro plan built ⟨rfl, rfl⟩
      exact ⟨[], rfl, rfl, rfl⟩
  | cons unit rest induction =>
      have : Inhabited τ := ⟨PathText.ofLetters []⟩
      have builds := planned_build unit workshop.build
      apply ((planned_note workshop _).bind fun _ => builds.bind fun artifact =>
        (planned_install workshop directory unit artifact).bind fun installed =>
          induction.bind fun built => .pure (⟨unit, artifact, installed⟩ :: built)).imp
      rintro plan built ⟨_, _, _, rfl, rfl, _, artifact, _, rfl, rfl, install, _, _, rfl,
        ⟨visited, rfl⟩, _, _, _, rfl, ⟨artifacts, sameLength, rfl, rfl⟩, rfl, rfl⟩
      refine ⟨artifact :: artifacts, by simp [sameLength], ?_, rfl⟩
      rw [schedule_cons, ← visited]
      simp

end Steps

/-- The calls that are made for the units are those of the schedule up to the first that fails, and
the result is its trouble or what was built and installed of every unit. No two units share a path
on the device, and slashes at the end of the directory do not change it. -/
theorem buildAll_keeps_schedule :
    (∀ {σ ε τ κ : Type} [PathText τ κ] (workshop : Workshop (StateM σ) ε τ) (directory : String)
      (units : List String) (state : σ),
      ∃ artifacts made result after, artifacts.length = units.length ∧
        (buildAll workshop directory units).run state = (result, after) ∧
        (buildAll workshop.recorded directory units).run (state, []) = (result, after, made) ∧
        Keeps (schedule workshop.send.isSome directory units artifacts)
          (List.zipWith (product workshop.send.isSome directory) units artifacts) made result) ∧
      (∀ directory, Function.Injective (installPath directory)) ∧
      ∀ directory count, installPath (directory ++ String.ofList (List.replicate count '/')) =
        installPath directory := by
  refine ⟨?_, installPath_injective, installPath_append_slashes⟩
  intro σ ε τ κ _ workshop directory units state
  rcases planned_buildAll workshop directory units state [] with
    ⟨_, _, made, result, after, ⟨artifacts, sameLength, rfl, rfl⟩, ran, told, kept⟩
  exact ⟨artifacts, made, result, after, sameLength, ran, told, kept⟩

end SymbolBindings.Examples
