import SymbolBindings.Proofs.CommandLine.Spelling
import SymbolBindings.Proofs.Session.Delivery

/-! # Generating in a session

A session that is asked for declarations delivers what a run over the same table writes into a sink
with room for everything, and its exit code tells how that run ends.
-/

namespace SymbolBindings

/-! ## Settings -/

namespace Session

variable (verbose : Bool)

theorem onlyTells_settingsAt (path : String) :
    OnlyTells (settingsAt ⟨Machine.system, verbose⟩ path) :=
  .of_asking (fun machine =>
    Settings.ofFile path (machine.files.openFile machine.current path)) fun _ => rfl

theorem onlyTells_layerAt (path : String) : OnlyTells (layerAt ⟨Machine.system, verbose⟩ path) := by
  have asks : OnlyTells (Machine.system.isPresent path) :=
    .of_asking (·.isPresent path) fun _ => rfl
  unfold layerAt
  apply asks.bind
  intro present
  split
  · apply (onlyTells_settingsAt verbose path).bind
    intro read
    cases read with
    | ok settings => exact .pure _
    | error trouble => exact (onlyTells_note verbose _).bind fun _ => .pure _
  · exact .pure _

theorem onlyTells_layeredSettings (global : Option String) (project : String) :
    OnlyTells (layeredSettings ⟨Machine.system, verbose⟩ global project) := by
  unfold layeredSettings
  cases global with
  | none => exact (onlyTells_layerAt verbose project).bind fun _ => .pure _
  | some path =>
      exact (onlyTells_layerAt verbose path).bind fun _ =>
        (onlyTells_layerAt verbose project).bind fun _ => .pure _

theorem onlyTells_home : OnlyTells Machine.system.home := by
  have asks : OnlyTells (Machine.system.environment "HOME") :=
    .of_asking (·.environment.lookup "HOME") fun _ => rfl
  have asksAccount : OnlyTells Machine.system.accountHome :=
    .of_asking (·.accountHome) fun _ => rfl
  unfold System.home
  apply asks.bind
  intro directory
  cases directory with
  | none => exact asksAccount
  | some directory =>
      change OnlyTells (if directory = "" then _ else _)
      split
      · exact asksAccount
      · exact .pure _

theorem onlyTells_settings (named : Option String) :
    OnlyTells (settings ⟨Machine.system, verbose⟩ named).run := by
  unfold settings
  cases named with
  | some path => exact onlyTells_settingsAt verbose path
  | none =>
      have asks : OnlyTells (attempt Trouble.noCurrentDirectory
          Machine.system.currentDirectory).run :=
        .of_asking (fun machine => .ok (Machine.pathOf machine.current)) fun _ => rfl
      exact asks.step_bind fun current =>
        (OnlyTells.step_lift onlyTells_home).step_bind fun home =>
          OnlyTells.step_lift (onlyTells_layeredSettings verbose _ _)

/-! ## The run -/

variable {before machine : Machine} {destination : Destination} {request : GenerateRequest}

theorem arrived_createOutput {output : Option String} (leads : before.LeadsTo output destination)
    (heard : before.Hears machine) :
    ∃ created,
      (createOutput ⟨Machine.system, verbose⟩ output).run machine = (.ok (), created) ∧
        Arrived before destination [] created := by
  rcases heard.same with ⟨files, current, printed⟩
  have nothing : machine.printed =
      before.printed ++ if destination.isPrinted then [] else [] := by
    rw [ite_self, List.append_nil]
    exact printed
  have creates {path : String} {made : FileTree}
      (done : before.files.createFile before.current path = .ok made) :
      (createOutput ⟨Machine.system, verbose⟩ (some path)).run machine =
        (.ok (), { machine with files := made }) := by
    have doneHere : Machine.createFile path machine =
        (.ok (), { machine with files := made }) := by
      rw [Machine.createFile, files, current, done]
    exact attempt_of_eq doneHere _
  cases leads with
  | stream =>
      exact ⟨machine, rfl, current, nothing, files, fun _ => heard.told, Destination.takes_nil _⟩
  | @file path place creatable regular =>
      rcases FileTree.createFile_of_placeToCreate creatable with
        ⟨device, found, -⟩ | ⟨-, made, done, filled⟩
      · exact absurd found (regular device)
      · exact ⟨_, creates done, current, nothing, filled, fun _ => heard.told,
          Destination.takes_nil _⟩
  | @device path place device creatable found =>
      rcases FileTree.createFile_of_placeToCreate creatable with
        ⟨device, -, done⟩ | ⟨regular, -⟩
      · exact ⟨_, creates done, current, nothing, rfl, fun _ => heard.told,
          Destination.takes_nil _⟩
      · exact absurd found (regular device)

/-- What the user is told in the end changes nothing about how the run ended. -/
theorem generate_of_concluded {created later : Machine} {settings : GenerateSettings}
    {result : Except Failure Generate.Summary}
    (creates : (createOutput ⟨Machine.system, verbose⟩ request.output).run machine =
      (.ok (), created))
    (concluded : conclude ⟨Machine.system, verbose⟩ request.output
      (Generate.runAt (request.options settings) request.table
        (created.files.openFile created.current request.table) .unbounded) created =
      (result, later)) :
    ∃ ended last,
      (generate ⟨Machine.system, verbose⟩ request settings).run machine = (ended, last) ∧
        later.Hears last ∧ ended.isOk = result.isOk := by
  have opens : Machine.system.openFile request.table created =
    (created.files.openFile created.current request.table, created) := rfl
  cases result with
  | error failure =>
      refine ⟨.error (.table request.table failure), later, ?_, .nothing, rfl⟩
      rw [generate, step_bind_of_ok creates, step_bind_of_ok (step_lift_of_eq opens)]
      exact step_bind_of_ok (step_lift_of_eq concluded) _
  | ok summary =>
      rcases onlyTells_notes verbose summary.notes later with ⟨_, last, noted, heard⟩
      refine ⟨.ok (), last, ?_, heard, rfl⟩
      rw [generate, step_bind_of_ok creates, step_bind_of_ok (step_lift_of_eq opens)]
      exact (step_bind_of_ok (step_lift_of_eq concluded) _).trans (step_lift_of_eq noted)

/-- The table is opened after the output was created. -/
theorem arrived_generate (leads : before.LeadsTo request.output destination)
    (heard : before.Hears machine) (settings : GenerateSettings) :
    ∃ created result received later outcome,
      Arrived before destination [] created ∧
        (generate ⟨Machine.system, verbose⟩ request settings).run machine = (result, later) ∧
        Arrived before destination received later ∧
        outcome = Generate.runAt (request.options settings) request.table
          (created.files.openFile created.current request.table) .unbounded ∧
        if destination.Takes outcome.sink.written then
          result.isOk = outcome.result.isOk ∧ received = outcome.sink.written
        else result.isOk = false := by
  rcases arrived_createOutput verbose leads heard with ⟨created, creates, arrived⟩
  have recorded := Generate.recorded_runAt (request.options settings) request.table
    (created.files.openFile created.current request.table)
  rcases arrived_conclude leads arrived verbose recorded with
    ⟨result, received, later, concluded, arrivedLater, told⟩
  rcases generate_of_concluded verbose creates concluded with
    ⟨ended, last, generated, heardLast, same⟩
  refine ⟨created, ended, received, last, _, arrived, generated, arrivedLater.hears heardLast,
    rfl, ?_⟩
  rw [same]
  split
  case isTrue takes =>
    rw [if_pos takes] at told
    exact ⟨congrArg Except.isOk told.1, told.2⟩
  case isFalse tight =>
    rw [if_neg tight] at told
    exact told

theorem perform_of_settings {after : Machine} {invocation : Invocation} {settings : Settings}
    (asked : invocation.task = .generate request)
    (loaded : (Session.settings ⟨Machine.system, verbose⟩ invocation.settings).run machine =
      (.ok settings, after)) :
    (perform ⟨Machine.system, verbose⟩ invocation).run machine =
      (generate ⟨Machine.system, verbose⟩ request settings.generate).run after := by
  rw [perform, step_bind_of_ok loaded, asked]

end Session

/-! ## Exit codes -/

namespace Machine

variable {machine after : Machine} {words : List String}

theorem invoke_of_perform {invocation : Invocation} {result : Except Trouble Unit}
    (performed : (Session.perform ⟨system, invocation.verbose⟩ invocation).run machine =
      (result, after)) :
    ∃ later,
      system.invoke invocation false machine = (if result.isOk then 0 else 1, later) ∧
        after.Hears later := by
  unfold System.invoke
  cases result with
  | ok => exact ⟨after, bind_of_eq performed _, .nothing⟩
  | error trouble =>
      exact ⟨_, bind_of_eq performed _, .message .nothing (.report trouble)⟩

theorem run_of_read {invocation : Invocation}
    (read : CommandLine.read (machine.environment.lookup "SYMGEN_CONFIG") words =
      .invocation invocation) :
    machine.run words = system.invoke invocation false machine := by
  have asks : system.environment "SYMGEN_CONFIG" machine =
    (machine.environment.lookup "SYMGEN_CONFIG", machine) := rfl
  rw [run, System.run, bind_of_eq asks, read]

/-- The words ask for declarations, and the settings for making them can be loaded. -/
def Asks (machine : Machine) (words : List String) (request : GenerateRequest)
    (settings : Settings) : Prop :=
  ∃ invocation,
    CommandLine.read (machine.environment.lookup "SYMGEN_CONFIG") words = .invocation invocation ∧
      invocation.task = .generate request ∧
      ((Session.settings ⟨system, invocation.verbose⟩ invocation.settings).run machine).1 =
        .ok settings

variable {request : GenerateRequest} {settings : Settings} {destination : Destination}

/-- Whatever is asked for, there are words that ask for it. -/
theorem asks_words (table : request.table ≠ "") (output : request.output ≠ some "")
    (named : machine.environment.lookup "SYMGEN_CONFIG" ≠ some "")
    (loaded : ((Session.settings ⟨system, false⟩
      (machine.environment.lookup "SYMGEN_CONFIG")).run machine).1 = .ok settings) :
    machine.Asks (CommandLine.words request) request settings :=
  ⟨_, CommandLine.read_words table output named, rfl, loaded⟩

theorem arrived_run (asks : machine.Asks words request settings)
    (leads : machine.LeadsTo request.output destination) :
    ∃ created received outcome,
      Arrived machine destination [] created ∧
        Arrived machine destination received (machine.run words).2 ∧
        outcome = Generate.runAt (request.options settings.generate) request.table
          (created.files.openFile created.current request.table) .unbounded ∧
        if destination.Takes outcome.sink.written then
          (machine.run words).1 = (if outcome.result.isOk then 0 else 1) ∧
            received = outcome.sink.written
        else (machine.run words).1 = 1 := by
  rcases asks with ⟨invocation, read, asked, loaded⟩
  rcases Session.onlyTells_settings invocation.verbose invocation.settings machine with
    ⟨result, between, done, heard⟩
  rw [done] at loaded
  cases (show result = .ok settings from loaded)
  rcases Session.arrived_generate invocation.verbose leads heard settings.generate with
    ⟨created, result, received, later, outcome, arrived, generated, arrivedLater, same, told⟩
  rw [← Session.perform_of_settings _ asked done] at generated
  rcases invoke_of_perform generated with ⟨last, invoked, heardLast⟩
  rw [run_of_read read, invoked]
  refine ⟨created, received, outcome, arrived, arrivedLater.hears heardLast, same, ?_⟩
  split
  case isTrue takes =>
    rw [if_pos takes] at told
    exact ⟨by rw [told.1], told.2⟩
  case isFalse tight =>
    rw [if_neg tight] at told
    simp only [told, Bool.false_eq_true, if_false]

end Machine

/-! ## What is opened -/

/-- The output that is asked for is not the table. -/
def Machine.Separates (machine : Machine) (output : Option String) (table : String) : Prop :=
  ∀ path place, output = some path →
    machine.files.placeOf machine.current path = .ok place →
    machine.files.placeOf machine.current table ≠ .ok place

/-- A table that is not the output opens as if there were no output, or not at all. -/
theorem Arrived.openFile {before after : Machine} {output : Option String}
    {destination : Destination} {octets : List UInt8} {table : String}
    (arrived : Arrived before destination octets after)
    (leads : before.LeadsTo output destination) (apart : before.Separates output table) :
    after.files.openFile after.current table = before.files.openFile before.current table ∨
      (∃ fault, after.files.openFile after.current table = .error fault) ∧
        ∃ fault, before.files.openFile before.current table = .error fault := by
  have files := arrived.files
  rw [arrived.current]
  cases leads with
  | @file path place creatable regular =>
      rcases FileTree.placeOf_of_placeToCreate creatable with ⟨leads, free, -⟩
      exact files.openFile free (apart path place rfl leads)
  | _ =>
      rw [show after.files = before.files from files]
      exact .inl rfl

namespace Machine

/-- A machine with a table, a file of older declarations and a device without space. -/
def withTable (table : String) : Machine where
  files :=
    { nodes :=
        [(["t.csv"], .file (Text.octets table) false),
          (["out.rs"], .file (Text.octets "pub static old: i32;\n") false),
          (["dev"], .directory), (["dev", "full"], .device .full)] }
  current := []
  environment := []
  accountHome := none
  respond _ := ⟨some 0⟩
  calls := []
  printed := []
  told := ""

/-- A machine whose table has a row to refuse after one to declare. -/
def withRefusedRow : Machine :=
  withTable "name,entry,status,type\nm_a,Variable,+,int\n,,,\n"

end Machine

end SymbolBindings
