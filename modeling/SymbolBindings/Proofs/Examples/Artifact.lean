import SymbolBindings.Proofs.FileTree.Walking
import SymbolBindings.Proofs.PathName.Argument
import SymbolBindings.Proofs.Session.Launching

/-! # Artifacts

The path of an artifact is absolute, so that it means the same in the workspace, where the artifact
is built, and in the directory of the tools that send it. What is installed is what was built if the
path is text: the tools are given it as an argument.
-/

namespace SymbolBindings

open PathName (isAbsolute asDirectory endsWithSlash steps)
open PathText (isEmpty letters ofLetters ofText shown)
open SystemText (IsText)

/-! ## Paths of artifacts -/

namespace ExampleBuilder

/-- Where the build tool leaves an example, as seen from the workspace. -/
def inWorkspace (target unit : String) : SystemText :=
  ofText "target/" ++ asDirectory (ofText target) ++ ofText "release/examples/" ++ ofText unit

theorem isAbsolute_inWorkspace (target unit : String) :
    isAbsolute (inWorkspace target unit) = false := by
  rw [inWorkspace, PathText.append_assoc, PathText.append_assoc,
    PathName.isAbsolute_append (by decide)]
  decide

theorem isEmpty_inWorkspace (target unit : String) : isEmpty (inWorkspace target unit) = false := by
  have some : isEmpty (ofText "target/" : SystemText) = false := by decide
  simp only [inWorkspace, PathText.isEmpty_append, some, Bool.false_and]

variable {builder : ExampleBuilder SystemText}

theorem isAbsolute_artifact (absolute : isAbsolute builder.workspace = true) (unit : String) :
    isAbsolute (builder.artifact unit) = true :=
  PathName.isAbsolute_joinAll absolute _

section Relative

variable {unit : String} (relativeTarget : isAbsolute builder.target = false)
  (relativeUnit : isAbsolute unit = false)
include relativeTarget relativeUnit

theorem artifact_eq :
    builder.artifact unit = asDirectory builder.workspace ++ inWorkspace builder.target unit := by
  rw [← SystemText.isAbsolute_ofText] at relativeTarget relativeUnit
  have target (base : SystemText) : asDirectory (PathName.join base (ofText "target")) =
      asDirectory base ++ ofText "target/" :=
    PathName.asDirectory_join (by decide) (by decide) (by decide) base
  have release (base : SystemText) : asDirectory (PathName.join base (ofText "release")) =
      asDirectory base ++ ofText "release/" :=
    PathName.asDirectory_join (by decide) (by decide) (by decide) base
  have examples (base : SystemText) : asDirectory (PathName.join base (ofText "examples")) =
      asDirectory base ++ ofText "examples/" :=
    PathName.asDirectory_join (by decide) (by decide) (by decide) base
  have ends : isEmpty (ofText "target/" : SystemText) = false := by decide
  have closed : endsWithSlash (asDirectory builder.workspace ++ ofText "target/") = true := by
    rw [PathName.endsWithSlash_append ends]
    decide
  have folded : (ofText "release/examples/" : SystemText) =
      ofText "release/" ++ ofText "examples/" := by decide
  simp only [artifact, PathName.joinAll, List.map_cons, List.map_nil, List.foldl_cons,
    List.foldl_nil]
  rw [PathName.join_of_relative relativeUnit, examples, release,
    PathName.join_of_relative relativeTarget, target, PathName.asDirectory_append closed]
  simp only [inWorkspace, folded, PathText.append_assoc]

/-- The artifact is reached from the workspace through the directories of the target. -/
theorem steps_artifact :
    steps (builder.artifact unit) =
      steps builder.workspace ++ ofText "target" ::
        (steps (ofText builder.target) ++
          ofText "release" :: ofText "examples" :: steps (ofText unit)) := by
  rw [← SystemText.isAbsolute_ofText] at relativeTarget relativeUnit
  have relative : ∀ addition ∈
      (["target", builder.target, "release", "examples", unit].map ofText : List SystemText),
      isAbsolute addition = false := by
    simp only [List.map_cons, List.map_nil, List.forall_mem_cons, relativeTarget, relativeUnit]
    decide
  have named : steps (ofText "target" : SystemText) = [ofText "target"] ∧
      steps (ofText "release" : SystemText) = [ofText "release"] ∧
      steps (ofText "examples" : SystemText) = [ofText "examples"] := by decide
  rw [artifact, PathName.steps_joinAll relative]
  simp [named]

end Relative

/-- The workspace makes no difference to an artifact if its target or its name is an absolute
path. -/
theorem isText_artifact_iff {unit : String} :
    (builder.artifact unit).IsText ↔
      isAbsolute builder.target = true ∨ isAbsolute unit = true ∨ builder.workspace.IsText := by
  have texts : ∀ addition ∈
      (["target", builder.target, "release", "examples", unit].map ofText : List SystemText),
      addition.IsText := by
    intro addition member
    rcases List.mem_map.mp member with ⟨text, -, rfl⟩
    exact SystemText.isText_ofText text
  by_cases standsAlone : isAbsolute builder.target = true ∨ isAbsolute unit = true
  case pos =>
    have absolute : ∃ addition ∈
        (["target", builder.target, "release", "examples", unit].map ofText : List SystemText),
        isAbsolute addition = true := by
      simp only [List.mem_map, List.mem_cons, List.not_mem_nil, or_false, exists_exists_and_eq_and,
        SystemText.isAbsolute_ofText]
      rcases standsAlone with target | name
      · exact ⟨builder.target, .inr (.inl rfl), target⟩
      · exact ⟨unit, by simp, name⟩
    have isText : (builder.artifact unit).IsText := by
      rw [artifact, PathName.joinAll_eq_of_isAbsolute absolute builder.workspace (ofText "")]
      exact SystemText.isText_joinAll (SystemText.isText_ofText "") texts
    rw [← or_assoc]
    exact iff_of_true isText (.inl standsAlone)
  case neg =>
    rw [← or_assoc, or_iff_right standsAlone]
    rw [not_or, Bool.not_eq_true, Bool.not_eq_true] at standsAlone
    constructor
    · intro isText
      rw [SystemText.isText_iff_steps] at isText ⊢
      intro step member
      apply isText
      rw [steps_artifact standsAlone.1 standsAlone.2]
      exact List.mem_append_left _ member
    · intro isText
      exact SystemText.isText_joinAll isText texts

end ExampleBuilder

/-! ## Builders -/

namespace Machine

variable {σ α : Type} [PathText σ α]

section Directory

variable [DecidableEq α]

theorem isAbsolute_pathOf (place : Place σ) : isAbsolute (pathOf place) = true := by
  rw [pathOf, isAbsolute, PathText.letters_ofLetters, List.head?_cons, beq_self_eq_true]

/-- Every absolute path is that of a directory to be in. -/
theorem exists_pathOf_iff {path : σ} :
    (∃ place : Place σ, pathOf place = path) ↔ isAbsolute path = true := by
  constructor
  · rintro ⟨place, rfl⟩
    exact isAbsolute_pathOf place
  · intro absolute
    rcases PathName.isAbsolute_iff.mp absolute with ⟨rest, rfl⟩
    refine ⟨[rest], PathText.letters_injective ?_⟩
    simp [pathOf]

end Directory

variable [DecidableEq σ] [DecidableEq α] {machine : Machine σ} {command : Command σ} {call : Call σ}

/-- A command gets its arguments as they are, in the directory that its path leads to. -/
theorem call_of_callOf {directory : σ} (called : machine.callOf command = .ok call)
    (placed : command.directory = some directory) :
    call.arguments = command.arguments ∧
      machine.files.placeOf machine.current directory = .ok call.directory := by
  unfold callOf at called
  split at called
  case isTrue => cases called
  case isFalse =>
    simp only [Machine.call, placed, workingDirectory, bind, except_bind_eq_ok_iff] at called
    rcases called with ⟨place, inDirectory, program, -, limited⟩
    rcases inDirectory with ⟨⟨found, node⟩, located, isDirectory⟩
    have same : found = place := by
      split at isDirectory
      case h_1 there isThere =>
        rw [(Prod.mk.inj isThere).1]
        exact Except.ok.inj isDirectory
      case h_2 => cases isDirectory
    subst same
    split at limited
    case isTrue => cases limited
    case isFalse =>
      cases limited
      exact ⟨rfl, FileTree.placeOf_of_locate located⟩

end Machine

/-- The root of a workspace is text if its path is and, for a relative one, the current
directory's. -/
theorem PathName.LeadsAlike.isText_iff {current workspace root : SystemText}
    (alike : LeadsAlike current workspace root) :
    root.IsText ↔ workspace.IsText ∧ (isAbsolute workspace = true ∨ current.IsText) := by
  rw [SystemText.isText_iff_steps, alike.walked, List.forall_mem_append,
    ← SystemText.isText_iff_steps, and_comm]
  cases isAbsolute workspace with
  | true => simp
  | false =>
      rw [if_neg Bool.false_ne_true, ← SystemText.isText_iff_steps,
        or_iff_right Bool.false_ne_true]

namespace Session

variable {σ α : Type} [PathText σ α] [DecidableEq σ] [DecidableEq α] (verbose : Bool)

/-- The workspace is meant from the current directory. -/
theorem exampleBuilder_run (tool workspace : σ) (package target : String) (machine : Machine σ) :
    ((Machine.session σ verbose).exampleBuilder tool workspace package target).run machine =
      (((PathName.absolute (Machine.pathOf machine.current) workspace).mapError
        (.noWorkspace (shown workspace))).map fun root => ⟨tool, root, package, target⟩,
        machine) := by
  have asked : absoluteWorkspace (Machine.session σ verbose) workspace machine =
      (PathName.absolute (Machine.pathOf machine.current) workspace, machine) := by
    unfold absoluteWorkspace
    split
    case isTrue standsAlone =>
      have anywhere (here : σ) : PathName.absolute here workspace =
          PathName.absolute (Machine.pathOf machine.current) workspace := by
        rcases standsAlone with empty | absolute
        · simp only [PathName.absolute, empty, if_true]
        · exact PathName.absolute_of_isAbsolute absolute here _
      rw [anywhere]
      rfl
    case isFalse => rfl
  have attempted := attempt_of_eq asked (.noWorkspace (shown workspace))
  cases made : PathName.absolute (Machine.pathOf machine.current) workspace with
  | error fault =>
      rw [made] at attempted
      exact step_bind_of_error attempted _
  | ok root =>
      rw [made] at attempted
      exact step_bind_of_ok attempted _

end Session

/-! ## Runs -/

namespace Examples

variable {σ α : Type} [PathText σ α] [DecidableEq α]

/-- The commands that build an example and install it. -/
def commands (builder : ExampleBuilder σ) (transfer : DeviceTransfer σ) (directory unit : String) :
    List (Command σ) :=
  [builder.command unit, transfer.command (builder.artifact unit) (installPath directory unit)]

def installed (builder : ExampleBuilder σ) (directory unit : String) : Built σ :=
  ⟨unit, builder.artifact unit, some (installPath directory unit)⟩

end Examples

namespace Session

open Examples (buildAll install installPath)

variable {σ α : Type} [PathText σ α] [DecidableEq σ] [DecidableEq α] (verbose : Bool)
  (builder : ExampleBuilder σ) (transfer : DeviceTransfer σ) (directory : String)

theorem launches_buildExample (unit : String) :
    Launches [builder.command unit] (builder.artifact unit)
      ((Machine.session σ verbose).buildExample builder unit) :=
  ((launches_runCommand verbose (builder.command unit)).adapt (.notBuilt unit)).bind_pure
    fun _ => builder.artifact unit

theorem launches_sendExample (artifact : σ) (remote : String) :
    Launches [transfer.command artifact remote] ()
      ((Machine.session σ verbose).sendExample transfer artifact remote) :=
  (launches_runCommand verbose (transfer.command artifact remote)).adapt
    (.notCopied (shown artifact) remote)

theorem launches_install (unit : String) (artifact : σ) :
    Launches [transfer.command artifact (installPath directory unit)]
      (some (installPath directory unit))
      (install ((Machine.session σ verbose).workshop builder (some transfer)) directory unit
        artifact) := by
  simp only [install, workshop, Option.map_some]
  apply launches_after_note
  exact (launches_sendExample verbose transfer artifact (installPath directory unit)).bind_pure
    fun _ => some (installPath directory unit)

/-- Each example is built, and what was built is sent, before the next one is built. -/
theorem launches_buildAll (units : List String) :
    Launches (units.flatMap (Examples.commands builder transfer directory))
      (units.map (Examples.installed builder directory))
      (buildAll ((Machine.session σ verbose).workshop builder (some transfer)) directory
        units) := by
  induction units with
  | nil => exact .pure []
  | cons unit rest induction =>
      rw [List.flatMap_cons, List.map_cons, buildAll]
      simp only [workshop] at induction ⊢
      apply launches_after_note
      apply (launches_buildExample verbose builder unit).bind
      apply (launches_install verbose builder transfer directory unit (builder.artifact unit)).bind
      exact induction.bind_pure (Examples.installed builder directory unit :: ·)

end Session

/-! ## What is installed -/

namespace Examples

/-- What the commands that build and send an example mean by its artifact. -/
structure Portable (builder : ExampleBuilder SystemText) (transfer : DeviceTransfer SystemText)
    (directory unit : String) : Prop where
  absolute : isAbsolute (builder.artifact unit) = true
  built : (builder.command unit).directory = some builder.workspace
  /-- The file to send is named after the word that asks to send one, in text. -/
  sent : let send := transfer.command (builder.artifact unit) (installPath directory unit)
    send.arguments.drop 5 =
        ["send", shown (builder.artifact unit), installPath directory unit] ∧
      send.directory = some transfer.toolsDirectory
  /-- The tool gets an absolute path with as many steps, and if it is not the artifact's, one of
  the steps is another. -/
  argument : let argument : SystemText := ofText (shown (builder.artifact unit))
    isAbsolute argument = true ∧
      steps argument = (steps (builder.artifact unit)).map SystemText.asArgument ∧
      (steps argument = steps (builder.artifact unit) ↔ argument = builder.artifact unit)
  located (tree : FileTree SystemText) (here there : Place SystemText) :
    tree.locate here (builder.artifact unit) = tree.locate there (builder.artifact unit)
  inWorkspace (relativeTarget : isAbsolute builder.target = false)
    (relativeUnit : isAbsolute unit = false) :
    builder.artifact unit =
        asDirectory builder.workspace ++ ExampleBuilder.inWorkspace builder.target unit ∧
      steps (builder.artifact unit) =
        steps builder.workspace ++ ofText "target" ::
          (steps (ofText builder.target) ++
            ofText "release" :: ofText "examples" :: steps (ofText unit))
  /-- Any directory finds there what the directory of the build finds in its own `target`. -/
  found (relativeTarget : isAbsolute builder.target = false)
    (relativeUnit : isAbsolute unit = false) {machine : Machine SystemText}
    {build : Machine.Call SystemText}
    (called : machine.callOf (builder.command unit) = .ok build)
    (fits : FileTree.checkPath (builder.artifact unit) = .ok ()) (there : Place SystemText) :
    machine.files.locate there (builder.artifact unit) =
      machine.files.locate build.directory (ExampleBuilder.inWorkspace builder.target unit)

theorem portable_of_isAbsolute (builder : ExampleBuilder SystemText)
    (absolute : isAbsolute builder.workspace = true) (transfer : DeviceTransfer SystemText)
    (directory unit : String) : Portable builder transfer directory unit where
  absolute := ExampleBuilder.isAbsolute_artifact absolute unit
  built := rfl
  sent := ⟨rfl, rfl⟩
  argument :=
    ⟨SystemText.isAbsolute_asArgument (ExampleBuilder.isAbsolute_artifact absolute unit),
      SystemText.steps_asArgument (builder.artifact unit),
      SystemText.steps_asArgument_eq_iff.trans SystemText.asArgument_eq_iff.symm⟩
  located := FileTree.locate_of_isAbsolute (ExampleBuilder.isAbsolute_artifact absolute unit)
  inWorkspace relativeTarget relativeUnit :=
    ⟨ExampleBuilder.artifact_eq relativeTarget relativeUnit,
      ExampleBuilder.steps_artifact relativeTarget relativeUnit⟩
  found := by
    intro relativeTarget relativeUnit machine build called fits there
    have leads := (Machine.call_of_callOf called rfl).2
    rw [FileTree.locate_of_isAbsolute (ExampleBuilder.isAbsolute_artifact absolute unit)
      machine.files there machine.current]
    rw [ExampleBuilder.artifact_eq relativeTarget relativeUnit] at fits ⊢
    exact FileTree.locate_asDirectory_append leads fits
      (ExampleBuilder.isEmpty_inWorkspace builder.target unit)
      (ExampleBuilder.isAbsolute_inWorkspace builder.target unit)

end Examples

namespace Session

/-- Whatever directory a session works in, the builder for a workspace has the workspace's absolute
path, and to build and install examples is to build each of them in that directory and to send the
file that was built there: its path, as far as it is text. That is the path itself if the workspace
and, for a relative one, the current directory are text, or if the workspace is not part of it. -/
theorem buildAll_sends_what_was_built_iff {current workspace : SystemText}
    (inside : isAbsolute current = true) (named : isEmpty workspace = false) (verbose : Bool)
    (tool : SystemText) (package target directory : String)
    (transfer : DeviceTransfer SystemText) :
    ∃ root, PathName.absolute current workspace = .ok root ∧
      PathName.LeadsAlike current workspace root ∧
      let session := Machine.session SystemText verbose
      let builder : ExampleBuilder SystemText := ⟨tool, root, package, target⟩
      (∃ place : Place SystemText, Machine.pathOf place = current) ∧
        (∀ machine : Machine SystemText, Machine.pathOf machine.current = current →
          (session.exampleBuilder tool workspace package target).run machine =
            (.ok builder, machine)) ∧
        (∀ unit, Examples.Portable builder transfer directory unit) ∧
        (∀ unit, ofText (shown (builder.artifact unit)) = builder.artifact unit ↔
          isAbsolute target = true ∨ isAbsolute unit = true ∨
            workspace.IsText ∧ (isAbsolute workspace = true ∨ current.IsText)) ∧
        ∀ units, Launches (units.flatMap (Examples.commands builder transfer directory))
          (units.map (Examples.installed builder directory))
          (Examples.buildAll (session.workshop builder (some transfer)) directory units) := by
  rcases PathName.exists_absolute inside named with ⟨root, made, alike⟩
  refine ⟨root, made, alike, Machine.exists_pathOf_iff.mpr inside, ?_, ?_, ?_, ?_⟩
  · intro machine works
    rw [exampleBuilder_run, works, made]
    rfl
  · intro unit
    exact Examples.portable_of_isAbsolute ⟨tool, root, package, target⟩ alike.absolute transfer
      directory unit
  · intro unit
    rw [← alike.isText_iff]
    exact SystemText.asArgument_eq_iff.trans ExampleBuilder.isText_artifact_iff
  · exact launches_buildAll verbose ⟨tool, root, package, target⟩ transfer directory

/-- A place whose names are text. -/
def placeOf (names : List String) : Place SystemText :=
  names.map ofText

/-- A machine with a workspace of this name in the current directory, an example in it, and tools
beside the current directory. -/
def besideTools (name : SystemText) : Machine SystemText where
  files :=
    let inside (names : List String) : Place SystemText := ofText "work" :: name :: placeOf names
    { nodes :=
        [(placeOf ["bin"], .directory), (placeOf ["bin", "cargo"], .file [] true),
          (placeOf ["tools"], .directory), (placeOf ["work"], .directory), (inside [], .directory),
          (inside ["target"], .directory), (inside ["target", "arm"], .directory),
          (inside ["target", "arm", "release"], .directory),
          (inside ["target", "arm", "release", "examples"], .directory),
          (inside ["target", "arm", "release", "examples", "gpio"], .file [0x66] true)] }
  current := placeOf ["work"]
  environment := []
  accountHome := none
  respond _ := ⟨some 0⟩
  calls := []
  printed := []
  told := ""

/-- The workspace is given with a blank step and slashes at its end, and the tools work in another
directory. -/
theorem buildAll_sends_what_was_built_elsewhere :
    let session := Machine.session SystemText false
    let machine := besideTools (ofText "fw")
    let builder : ExampleBuilder SystemText :=
      ⟨ofText "/bin/cargo", ofText "/work/fw/", "flipperzero", "arm"⟩
    let transfer : DeviceTransfer SystemText := ⟨ofText "/bin/cargo", ofText "../tools"⟩
    let artifact := "/work/fw/target/arm/release/examples/gpio"
    isAbsolute (ofText "/work" : SystemText) = true ∧
      isEmpty (ofText "./fw//" : SystemText) = false ∧
      Machine.pathOf machine.current = ofText "/work" ∧
      (session.exampleBuilder (ofText "/bin/cargo") (ofText "./fw//") "flipperzero" "arm").run
        machine = (.ok builder, machine) ∧
      builder.artifact "gpio" = ofText artifact ∧
      ofText (shown (builder.artifact "gpio")) = builder.artifact "gpio" ∧
      machine.callOf (builder.command "gpio") =
        .ok ⟨placeOf ["bin", "cargo"], placeOf ["work", "fw"], ["build", "--package",
          "flipperzero", "--example", "gpio", "--all-features", "--release"]⟩ ∧
      machine.callOf (transfer.command (ofText artifact) "/ext/gpio.fap") =
        .ok ⟨placeOf ["bin", "cargo"], placeOf ["tools"], ["run", "--release", "--bin",
          "storage", "--", "send", artifact, "/ext/gpio.fap"]⟩ ∧
      machine.files.locate (placeOf ["tools"]) (ofText artifact) =
        .ok (placeOf ["work", "fw", "target", "arm", "release", "examples", "gpio"],
          .file [0x66] true) ∧
      Launches [builder.command "gpio", transfer.command (ofText artifact) "/ext/gpio.fap"]
        [⟨"gpio", ofText artifact, some "/ext/gpio.fap"⟩]
        (Examples.buildAll (session.workshop builder (some transfer)) "/ext/" ["gpio"]) := by
  have inside : isAbsolute (ofText "/work" : SystemText) = true := by decide
  have named : isEmpty (ofText "./fw//" : SystemText) = false := by decide
  intro session machine builder transfer artifact
  rcases buildAll_sends_what_was_built_iff inside named false (ofText "/bin/cargo") "flipperzero"
    "arm" "/ext/" transfer with ⟨root, made, -, -, started, portable, sent, launches⟩
  have rooted : PathName.absolute (ofText "/work") (ofText "./fw//" : SystemText) =
      .ok (ofText "/work/fw/") := by decide
  cases Except.ok.inj (made.symm.trans rooted)
  have works : Machine.pathOf machine.current = ofText "/work" := by decide
  have left : builder.artifact "gpio" = ofText artifact := by decide
  have texts : IsText (ofText "./fw//") ∧ IsText (ofText "/work") :=
    ⟨SystemText.isText_ofText "./fw//", SystemText.isText_ofText "/work"⟩
  have called : machine.callOf (builder.command "gpio") =
      .ok ⟨placeOf ["bin", "cargo"], placeOf ["work", "fw"], ["build", "--package", "flipperzero",
        "--example", "gpio", "--all-features", "--release"]⟩ := by decide +kernel
  have calledTool : machine.callOf (transfer.command (ofText artifact) "/ext/gpio.fap") =
      .ok ⟨placeOf ["bin", "cargo"], placeOf ["tools"], ["run", "--release", "--bin", "storage",
        "--", "send", artifact, "/ext/gpio.fap"]⟩ := by decide +kernel
  have located : machine.files.locate (placeOf ["tools"]) (ofText artifact) =
      .ok (placeOf ["work", "fw", "target", "arm", "release", "examples", "gpio"],
        .file [0x66] true) := by
    rw [← left]
    exact ((portable "gpio").found rfl rfl called (by decide) (placeOf ["tools"])).trans
      (by decide +kernel)
  exact ⟨inside, named, works, started machine works, left,
    (sent "gpio").mpr (.inr (.inr ⟨texts.1, .inr texts.2⟩)), called, calledTool, located,
    launches ["gpio"]⟩

/-- The name of the workspace ends with an octet that starts no character. What was built is there,
but the tool is told to send another file, which is not. -/
theorem buildAll_sends_another_path :
    let session := Machine.session SystemText false
    let name : SystemText := ⟨[0x63, 0x61, 0x66, 0xE9]⟩
    let workspace := ofText "/work/" ++ name
    let machine := besideTools name
    let builder : ExampleBuilder SystemText :=
      ⟨ofText "/bin/cargo", workspace, "flipperzero", "arm"⟩
    let transfer : DeviceTransfer SystemText := ⟨ofText "/bin/cargo", ofText "../tools"⟩
    let argument := "/work/caf\uFFFD/target/arm/release/examples/gpio"
    (session.exampleBuilder (ofText "/bin/cargo") workspace "flipperzero" "arm").run machine =
        (.ok builder, machine) ∧
      machine.files.locate (placeOf ["tools"]) (builder.artifact "gpio") =
        .ok (ofText "work" :: name :: placeOf ["target", "arm", "release", "examples", "gpio"],
          .file [0x66] true) ∧
      machine.callOf (transfer.command (builder.artifact "gpio") "/ext/gpio.fap") =
        .ok ⟨placeOf ["bin", "cargo"], placeOf ["tools"], ["run", "--release", "--bin",
          "storage", "--", "send", argument, "/ext/gpio.fap"]⟩ ∧
      ofText argument ≠ builder.artifact "gpio" ∧
      machine.files.locate (placeOf ["tools"]) (ofText argument) = .error .notFound := by
  intro session name workspace machine builder transfer argument
  refine ⟨?_, by decide +kernel, by decide +kernel, by decide, by decide +kernel⟩
  rw [exampleBuilder_run]
  rfl

end Session

end SymbolBindings
