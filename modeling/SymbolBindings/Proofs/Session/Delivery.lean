import SymbolBindings.Proofs.FileTree.Creation
import SymbolBindings.Proofs.Generate.Offering
import SymbolBindings.Proofs.Session.Steps

/-! # Delivery

Where the declarations of a run go, and what arrives there. Whether a session delivers many small
blocks or few large ones, what has arrived and what is still in the batch together are what was
offered, and nothing of it is lost or mixed with messages when the run ends, however it ends.
-/

namespace SymbolBindings

/-! ## Destinations -/

inductive Destination
  /-- The stream of results. -/
  | stream
  | file (place : Place)
  | device (device : FileTree.Device)
  deriving DecidableEq, Repr

namespace Destination

def isPrinted : Destination → Bool
  | .stream | .device .prints => true
  | _ => false

/-- What becomes of the files when these octets arrive. -/
def Leaves (destination : Destination) (before : FileTree) (octets : List UInt8)
    (after : FileTree) : Prop :=
  match destination with
  | .file place => FileTree.WithFile before place octets after
  | .stream | .device _ => after = before

/-- A full device takes nothing. -/
def Takes (destination : Destination) (octets : List UInt8) : Prop :=
  destination = .device .full → octets = []

instance (destination : Destination) (octets : List UInt8) : Decidable (destination.Takes octets) :=
  inferInstanceAs (Decidable (_ → _))

theorem takes_nil (destination : Destination) : destination.Takes [] :=
  fun _ => rfl

theorem takes_append_iff {destination : Destination} {left right : List UInt8} :
    destination.Takes (left ++ right) ↔ destination.Takes left ∧ destination.Takes right := by
  unfold Takes
  rw [← imp_and, List.append_eq_nil_iff]

end Destination

/-- Where the output that is asked for leads to, if it can be created. -/
inductive Machine.LeadsTo (machine : Machine) : Option String → Destination → Prop
  | stream : LeadsTo machine none .stream
  | file {path : String} {place : Place}
      (creatable : machine.files.placeToCreate machine.current path = .ok place)
      (regular : ∀ device, machine.files.find place ≠ some (.device device)) :
      LeadsTo machine (some path) (.file place)
  | device {path : String} {place : Place} {device : FileTree.Device}
      (creatable : machine.files.placeToCreate machine.current path = .ok place)
      (found : machine.files.find place = some (.device device)) :
      LeadsTo machine (some path) (.device device)

theorem Machine.exists_leadsTo_iff {machine : Machine} {output : Option String} :
    (∃ destination, machine.LeadsTo output destination) ↔
      ∀ path, output = some path → (machine.createFile path).1 = .ok () := by
  constructor
  · rintro ⟨destination, leads⟩ path rfl
    unfold createFile
    cases leads with
    | file creatable regular =>
        rcases FileTree.createFile_of_placeToCreate creatable with
          ⟨device, found, -⟩ | ⟨-, created, made, -⟩
        · exact absurd found (regular device)
        · rw [made]
    | device creatable found =>
        rcases FileTree.createFile_of_placeToCreate creatable with
          ⟨device, -, made⟩ | ⟨regular, -⟩
        · rw [made]
        · exact absurd found (regular _)
  · intro created
    cases output with
    | none => exact ⟨.stream, .stream⟩
    | some path =>
        have made := created path rfl
        cases creatable : machine.files.placeToCreate machine.current path with
        | error fault =>
            rw [createFile, FileTree.createFile, creatable] at made
            cases made
        | ok place =>
            by_cases special : ∃ device, machine.files.find place = some (.device device)
            · rcases special with ⟨device, found⟩
              exact ⟨.device device, .device creatable found⟩
            · exact ⟨.file place, .file creatable fun device found => special ⟨device, found⟩⟩

/-! ## Arriving -/

/-- Messages were told after `before`, and between them a text with these octets. -/
inductive Told (before : String) : List UInt8 → String → Prop
  | nothing : Told before [] before
  | message {octets : List UInt8} {after text : String} (told : Told before octets after)
      (isMessage : IsMessage text) : Told before octets (after ++ text)
  | delivered {octets : List UInt8} {after : String} (told : Told before octets after)
      (text : String) : Told before (octets ++ Text.octets text) (after ++ text)

/-- The octets have arrived at the destination, and apart from messages nothing has arrived
anywhere else. -/
structure Arrived (before : Machine) (destination : Destination) (octets : List UInt8)
    (after : Machine) : Prop where
  current : after.current = before.current
  printed : after.printed = before.printed ++ if destination.isPrinted then octets else []
  files : destination.Leaves before.files octets after.files
  told : destination = .device .tells → Told before.told octets after.told
  taken : destination.Takes octets

variable {before after : Machine} {destination : Destination} {output : Option String}
  {octets : List UInt8}

theorem Machine.Hears.told (heard : before.Hears after) : Told before.told [] after.told := by
  induction heard with
  | nothing => exact .nothing
  | message heard isMessage induction => exact induction.message isMessage

/-- Messages do not get in the way. -/
theorem Arrived.hears {later : Machine} (arrived : Arrived before destination octets after)
    (heard : after.Hears later) : Arrived before destination octets later := by
  induction heard with
  | nothing => exact arrived
  | message heard isMessage induction =>
      exact { induction with told := fun toStream => (induction.told toStream).message isMessage }

/-- What is due and what stays in a batch are texts if all that came into it are. -/
theorem Batch.isText_add {batch : Batch} {block : List UInt8}
    (collected : Text.IsText batch.octets) (text : Text.IsText block) :
    (∀ portion ∈ (batch.add block).1, Text.IsText portion) ∧
      Text.IsText (batch.add block).2.octets := by
  unfold add
  split
  · exact ⟨by simp [collected, text], Text.isText_nil⟩
  · split
    · exact ⟨nofun, octets_collect batch block ▸ collected.append text⟩
    · exact ⟨by simp [collected], octets_collect empty block ▸ Text.isText_nil.append text⟩

namespace Session

/-- How a part of a delivery of `total` ends: with what arrived and what is left making up all of
it, or before that, if the destination does not take it. -/
inductive Delivers (before : Machine) (destination : Destination) (left : α → List UInt8)
    (total : List UInt8) : Except SystemFault α × Machine → Prop
  | done {value : α} {octets : List UInt8} {after : Machine}
      (arrived : Arrived before destination octets after) (text : Text.IsText (left value))
      (all : octets ++ left value = total) : Delivers before destination left total (.ok value, after)
  | stopped {fault : SystemFault} {octets : List UInt8} {after : Machine}
      (arrived : Arrived before destination octets after) (tight : ¬destination.Takes total) :
      Delivers before destination left total (.error fault, after)

theorem Delivers.bind {first : ExceptT SystemFault (StateM Machine) α}
    {next : α → ExceptT SystemFault (StateM Machine) β} {left : α → List UInt8}
    {leftAfter : β → List UInt8} {total more : List UInt8}
    (delivers : Delivers before destination left total (first.run after))
    (goesOn : ∀ value octets later, Arrived before destination octets later →
      Text.IsText (left value) → octets ++ left value = total →
      Delivers before destination leftAfter (total ++ more) ((next value).run later)) :
    Delivers before destination leftAfter (total ++ more) ((first >>= next).run after) := by
  rcases ran : first.run after with ⟨_ | value, later⟩
  · rw [ran] at delivers
    rw [step_bind_of_error ran]
    cases delivers with
    | stopped arrived tight =>
        exact .stopped arrived fun takes => tight (Destination.takes_append_iff.mp takes).1
  · rw [ran] at delivers
    rw [step_bind_of_ok ran]
    cases delivers with
    | done arrived text all => exact goesOn value _ later arrived text all

/-! ## One portion -/

end Session

theorem Machine.extendFile_of_file {machine : Machine} {path : String} {place : Place}
    {octets more : List UInt8} {executable : Bool} {extended : FileTree}
    (grown : machine.files.extendFile machine.current path more = .ok extended)
    (located : extended.locate machine.current path = .ok (place, .file octets executable)) :
    machine.extendFile path more = (.ok (), { machine with files := extended }) := by
  have regular : extended.deviceAt machine.current path = none := by
    rw [FileTree.deviceAt, located]
  rw [extendFile, grown]
  simp only [regular]

/-- What a device makes of octets, if there are any. -/
def Machine.writeDevice (machine : Machine) (octets : List UInt8) :
    FileTree.Device → Except SystemFault Unit × Machine
  | .discards => (.ok (), machine)
  | .full => (.error .noSpace, machine)
  | .prints => (.ok (), machine.print octets)
  | .tells => (.ok (), machine.tell ((Text.decode octets).toOption.getD ""))

theorem Machine.extendFile_of_device {machine : Machine} {path : String} {place : Place}
    {device : FileTree.Device}
    (located : machine.files.locate machine.current path = .ok (place, .device device))
    {octets : List UInt8} (something : octets ≠ []) :
    machine.extendFile path octets = machine.writeDevice octets device := by
  have special : machine.files.deviceAt machine.current path = some device := by
    rw [FileTree.deviceAt, located]
  have grown : machine.files.extendFile machine.current path octets =
      if device = .full then .error .noSpace else .ok machine.files := by
    rw [FileTree.extendFile, located]
    cases device with
    | full => exact if_neg something
    | _ => rfl
  rw [extendFile, grown]
  cases device with
  | full => rfl
  | _ =>
      simp only [reduceCtorEq, if_false, special]
      rfl

namespace Session

section Leading

variable (leads : before.LeadsTo output destination)
include leads

theorem delivers_deliver (arrived : Arrived before destination octets after) (verbose : Bool)
    {more : List UInt8} (text : Text.IsText more) :
    Delivers before destination (fun _ => []) (octets ++ more)
      ((deliver ⟨Machine.system, verbose⟩ output more).run after) := by
  unfold deliver
  split
  case isTrue empty =>
    subst empty
    exact .done arrived Text.isText_nil rfl
  case isFalse something =>
    have files := arrived.files
    cases leads with
    | stream =>
        have printed := (congrArg (· ++ more) arrived.printed).trans (List.append_assoc _ _ _)
        have arrivedMore : Arrived before .stream (octets ++ more) (after.print more) :=
          ⟨arrived.current, printed, files, by simp, by simp [Destination.Takes]⟩
        exact .done arrivedMore Text.isText_nil (List.append_nil _)
    | @file path place creatable regular =>
        have creatableHere := creatable
        rw [← arrived.current] at creatableHere
        rcases files.extendFile creatableHere more with ⟨extended, grown, filled⟩
        rcases filled.locate creatableHere with ⟨executable, located⟩
        have arrivedMore : Arrived before (.file place) (octets ++ more)
            { after with files := extended } :=
          ⟨arrived.current, arrived.printed, filled, by simp, by simp [Destination.Takes]⟩
        change Delivers before (.file place) _ _ (after.extendFile path more)
        rw [Machine.extendFile_of_file grown located]
        exact .done arrivedMore Text.isText_nil (List.append_nil _)
    | @device path place device creatable found =>
        have located : after.files.locate after.current path = .ok (place, .device device) := by
          rw [arrived.current, show after.files = before.files from files]
          exact FileTree.locate_of_placeOf (FileTree.placeOf_of_placeToCreate creatable).1 found
        change Delivers before (.device device) _ _ (after.extendFile path more)
        rw [Machine.extendFile_of_device located something]
        cases device with
        | discards =>
            have arrivedMore : Arrived before (.device .discards) (octets ++ more) after :=
              ⟨arrived.current, arrived.printed, files, by simp, by simp [Destination.Takes]⟩
            exact .done arrivedMore Text.isText_nil (List.append_nil _)
        | full =>
            exact .stopped arrived fun takes => something (List.append_eq_nil_iff.mp (takes rfl)).2
        | prints =>
            have printed := (congrArg (· ++ more) arrived.printed).trans (List.append_assoc _ _ _)
            have arrivedMore : Arrived before (.device .prints) (octets ++ more)
                (after.print more) :=
              ⟨arrived.current, printed, files, by simp, by simp [Destination.Takes]⟩
            exact .done arrivedMore Text.isText_nil (List.append_nil _)
        | tells =>
            rcases text with ⟨text, rfl⟩
            have read : Text.decode (Text.octets text) = .ok text := Text.decode_eq_ok_iff.mpr rfl
            have arrivedMore : Arrived before (.device .tells) (octets ++ Text.octets text)
                (after.tell text) :=
              ⟨arrived.current, arrived.printed, files,
                fun toStream => (arrived.told toStream).delivered text,
                by simp [Destination.Takes]⟩
            unfold Machine.writeDevice
            rw [read]
            exact .done arrivedMore Text.isText_nil (List.append_nil _)

/-! ## Many portions -/

theorem delivers_deliverAll (arrived : Arrived before destination octets after) (verbose : Bool)
    {portions : List (List UInt8)} (texts : ∀ portion ∈ portions, Text.IsText portion) :
    Delivers before destination (fun _ => []) (octets ++ portions.flatten)
      ((portions.forM (deliver ⟨Machine.system, verbose⟩ output)).run after) := by
  induction portions generalizing octets after with
  | nil => exact .done arrived Text.isText_nil rfl
  | cons portion rest induction =>
      rcases List.forall_mem_cons.mp texts with ⟨text, restTexts⟩
      rw [List.flatten_cons, ← List.append_assoc]
      apply Delivers.bind (delivers_deliver leads arrived verbose text)
      intro _ received later arrivedLater _ all
      rw [← all, List.append_nil]
      exact induction arrivedLater restTexts

/-- What has arrived and what is in the batch are what was there and what was offered since. -/
theorem delivers_relay (arrived : Arrived before destination octets after) (verbose : Bool)
    {batch : Batch} (collected : Text.IsText batch.octets) {events : List Generate.Event}
    (texts : ∀ event ∈ events, Text.IsText event.octets) :
    Delivers before destination Batch.octets
      (octets ++ batch.octets ++ events.flatMap Generate.Event.octets)
      ((relay ⟨Machine.system, verbose⟩ output batch events).run after) := by
  induction events generalizing octets after batch with
  | nil => exact .done arrived collected (List.append_nil _).symm
  | cons event rest induction =>
      rcases List.forall_mem_cons.mp texts with ⟨text, restTexts⟩
      cases event with
      | noted line =>
          rcases onlyTells_note verbose line after with ⟨_, later, noted, heard⟩
          rw [relay, step_bind_of_ok (step_lift_of_eq noted)]
          exact induction (arrived.hears heard) collected restTexts
      | offered block =>
          have due := batch.due_append_octets_add block
          rcases Batch.isText_add collected text with ⟨dueTexts, leftText⟩
          rw [relay, List.flatMap_cons, List.append_assoc, ← List.append_assoc batch.octets]
          change Delivers _ _ _ (octets ++ (batch.octets ++ block ++ _)) _
          rw [← due, List.append_assoc, ← List.append_assoc octets]
          apply Delivers.bind (delivers_deliverAll leads arrived verbose dueTexts)
          intro _ received later arrivedLater _ all
          rw [← all, List.append_nil, ← List.append_assoc]
          exact induction arrivedLater leftText restTexts

/-! ## Whole runs -/

theorem arrived_conclude (arrived : Arrived before destination [] after) (verbose : Bool)
    {outcome : Generate.Outcome} (recorded : Generate.Recorded outcome.events outcome.sink) :
    ∃ result received later,
      conclude ⟨Machine.system, verbose⟩ output outcome after = (result, later) ∧
        Arrived before destination received later ∧
        if destination.Takes outcome.sink.written then
          result = outcome.result ∧ received = outcome.sink.written
        else result.isOk = false := by
  have nothing : Text.IsText Batch.empty.octets := Text.isText_nil
  have relays := delivers_relay leads arrived verbose nothing recorded.texts
  rw [recorded.written] at relays
  change Delivers before destination Batch.octets outcome.sink.written _ at relays
  unfold conclude
  rcases relayed : (relay ⟨Machine.system, verbose⟩ output .empty outcome.events).run after with
    ⟨fault | batch, between⟩
  · rw [relayed] at relays
    cases relays with
    | stopped arrivedLater tight =>
        refine ⟨_, _, _, bind_of_eq relayed _, arrivedLater, ?_⟩
        rw [if_neg tight]
        rfl
  · rw [relayed] at relays
    cases relays with
    | @done _ received _ arrivedBetween text all =>
        have last := delivers_deliver leads arrivedBetween verbose text
        rw [all] at last
        rcases ended : (deliver ⟨Machine.system, verbose⟩ output batch.octets).run between with
          ⟨fault | _, later⟩
        · rw [ended] at last
          cases last with
          | stopped arrivedLater tight =>
              refine ⟨_, _, _, (bind_of_eq relayed _).trans (bind_of_eq ended _), arrivedLater, ?_⟩
              rw [if_neg tight]
              cases outcome.result <;> rfl
        · rw [ended] at last
          cases last with
          | done arrivedLater _ whole =>
              rw [List.append_nil] at whole
              subst whole
              refine ⟨_, _, _, (bind_of_eq relayed _).trans (bind_of_eq ended _), arrivedLater, ?_⟩
              rw [if_pos arrivedLater.taken]
              refine ⟨?_, rfl⟩
              cases outcome.result <;> rfl

end Leading

end Session

end SymbolBindings
