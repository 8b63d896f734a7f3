import SymbolBindings.Proofs.Session.Steps
import SymbolBindings.Proofs.Settings.Merging

/-! # Layers of settings

What the settings of a project make of those of the user. Of a setting that may be left open, the
project's document decides, and the user's where that leaves it open. Stripping and the names of
examples have no value for being left open: the project cannot set them to nothing.
-/

namespace SymbolBindings

namespace Settings

/-! ## Keys -/

/-- A setting as documents have it. -/
structure Key (α : Type) where
  heading : String
  name : String
  /-- Its place where a section gives the settings without their keys. -/
  position : Nat
  valueOf : Toml.Item → Option α

namespace Key

def leading : Key String := ⟨"generate", "match_prefix", 0, textOf⟩

def strip : Key Bool := ⟨"generate", "strip_prefix", 1, truthOf⟩

def policy : Key Policy := ⟨"generate", "unknown_entry", 2, policyOf⟩

def package : Key String := ⟨"examples", "package", 0, textOf⟩

def target : Key String := ⟨"examples", "target", 1, textOf⟩

def installDirectory : Key String := ⟨"examples", "install_dir", 2, textOf⟩

def toolsDirectory : Key String := ⟨"examples", "tools_dir", 3, textOf⟩

def names : Key (List String) := ⟨"examples", "names", 4, textsOf⟩

variable {α : Type} (key : Key α)

/-- The item by which a document sets the key, if it does. -/
def itemIn (entries : Toml.Entries) : Option Toml.Item :=
  (entries.lookup key.heading).bind (member key.name key.position)

def valueIn (entries : Toml.Entries) : Option α :=
  (key.itemIn entries).bind key.valueOf

/-- What the upper document sets the key to or, only if it does not, the lower one. -/
def prevailing (lower upper : Toml.Entries) : Option α :=
  ((key.itemIn upper).or (key.itemIn lower)).bind key.valueOf

/-- The document leaves the key open, or sets it to a value of the right sort. -/
def Reads (entries : Toml.Entries) (value : Option α) : Prop :=
  optional key.valueOf (key.itemIn entries) = some value

variable {key} {entries lower upper : Toml.Entries} {value below above : Option α}

theorem reads_of_section {content : Toml.Item} (found : entries.lookup key.heading = some content)
    (read : optional key.valueOf (member key.name key.position content) = some value) :
    key.Reads entries value := by
  rw [Reads, itemIn, found]
  exact read

theorem reads_of_missing (missing : entries.lookup key.heading = none) :
    key.Reads entries none := by
  rw [Reads, itemIn, missing]
  rfl

theorem Reads.cases (reads : key.Reads entries value) :
    (key.itemIn entries = none ∧ value = none) ∨
      ∃ item, key.itemIn entries = some item ∧ key.valueOf item = value ∧ value.isSome = true := by
  unfold Reads at reads
  cases found : key.itemIn entries with
  | none =>
      rw [found] at reads
      exact .inl ⟨rfl, (Option.some.inj reads).symm⟩
  | some item =>
      rw [found] at reads
      rcases Option.map_eq_some_iff.mp reads with ⟨content, valued, rfl⟩
      exact .inr ⟨item, rfl, valued, rfl⟩

theorem Reads.valueIn_eq (reads : key.Reads entries value) : key.valueIn entries = value := by
  unfold valueIn
  rcases reads.cases with ⟨unset, rfl⟩ | ⟨item, set, valued, -⟩
  · rw [unset]
    rfl
  · rw [set]
    exact valued

theorem Reads.prevailing_eq (reads : key.Reads lower below) (readsAbove : key.Reads upper above) :
    key.prevailing lower upper = above.or below := by
  unfold prevailing
  rcases readsAbove.cases with ⟨unset, rfl⟩ | ⟨item, set, valued, present⟩
  · rw [unset, Option.none_or, Option.none_or]
    exact reads.valueIn_eq
  · rw [set, Option.some_or, Option.or_of_isSome present]
    exact valued

end Key

/-! ## Documents -/

structure GenerateReadFrom (entries : Toml.Entries) (settings : GenerateSettings) : Prop where
  leading : Key.leading.Reads entries settings.leading
  strip : ∃ value, Key.strip.Reads entries value ∧ settings.strip = value.getD false
  policy : Key.policy.Reads entries settings.policy

structure ExamplesReadFrom (entries : Toml.Entries) (settings : ExampleSettings) : Prop where
  package : Key.package.Reads entries settings.package
  target : Key.target.Reads entries settings.target
  installDirectory : Key.installDirectory.Reads entries settings.installDirectory
  toolsDirectory : Key.toolsDirectory.Reads entries settings.toolsDirectory
  names : ∃ value, Key.names.Reads entries value ∧ settings.names = value.getD []

theorem generateReadFrom_of_section {entries : Toml.Entries} {content : Toml.Item}
    {settings : GenerateSettings} (found : entries.lookup "generate" = some content)
    (read : generateOf content = some settings) : GenerateReadFrom entries settings := by
  unfold generateOf at read
  split at read
  case isTrue =>
    simp only [Option.bind_eq_bind, Option.bind_eq_some_iff] at read
    rcases read with ⟨leading, leadingRead, strip, stripRead, policy, policyRead, made⟩
    cases made
    exact
      { leading := Key.reads_of_section found leadingRead
        strip := ⟨strip, Key.reads_of_section found stripRead, rfl⟩
        policy := Key.reads_of_section found policyRead }
  case isFalse => cases read

theorem examplesReadFrom_of_section {entries : Toml.Entries} {content : Toml.Item}
    {settings : ExampleSettings} (found : entries.lookup "examples" = some content)
    (read : examplesOf content = some settings) : ExamplesReadFrom entries settings := by
  unfold examplesOf at read
  split at read
  case isTrue =>
    simp only [Option.bind_eq_bind, Option.bind_eq_some_iff] at read
    rcases read with ⟨package, packageRead, target, targetRead, installDirectory,
      installDirectoryRead, toolsDirectory, toolsDirectoryRead, names, namesRead, made⟩
    cases made
    exact
      { package := Key.reads_of_section found packageRead
        target := Key.reads_of_section found targetRead
        installDirectory := Key.reads_of_section found installDirectoryRead
        toolsDirectory := Key.reads_of_section found toolsDirectoryRead
        names := ⟨names, Key.reads_of_section found namesRead, rfl⟩ }
  case isFalse => cases read

theorem readFrom_of_ofEntries {entries : Toml.Entries} {settings : Settings}
    (read : ofEntries entries = some settings) :
    GenerateReadFrom entries settings.generate ∧ ExamplesReadFrom entries settings.examples := by
  simp only [ofEntries, Option.bind_eq_bind, Option.bind_eq_some_iff] at read
  rcases read with ⟨generate, generateRead, examples, examplesRead, made⟩
  cases made
  constructor
  · cases found : entries.lookup "generate" with
    | none =>
        rw [found] at generateRead
        cases generateRead
        exact
          { leading := Key.reads_of_missing found
            strip := ⟨none, Key.reads_of_missing found, rfl⟩
            policy := Key.reads_of_missing found }
    | some content =>
        rw [found] at generateRead
        rcases Option.map_eq_some_iff.mp generateRead with ⟨settings, sectionRead, rfl⟩
        exact generateReadFrom_of_section found sectionRead
  · cases found : entries.lookup "examples" with
    | none =>
        rw [found] at examplesRead
        cases examplesRead
        exact
          { package := Key.reads_of_missing found
            target := Key.reads_of_missing found
            installDirectory := Key.reads_of_missing found
            toolsDirectory := Key.reads_of_missing found
            names := ⟨none, Key.reads_of_missing found, rfl⟩ }
    | some content =>
        rw [found] at examplesRead
        rcases Option.map_eq_some_iff.mp examplesRead with ⟨settings, sectionRead, rfl⟩
        exact examplesReadFrom_of_section found sectionRead

/-! ## Merging -/

/-- The settings that may be left open are as the upper document says or, where that leaves them
open, as the lower one does. Stripping is asked for by either, and of the lists of names the upper
one counts unless it is empty. -/
structure Layered (lower upper : Toml.Entries) (settings : Settings) : Prop where
  leading : settings.generate.leading = Key.leading.prevailing lower upper
  strip : settings.generate.strip = true ↔
    Key.strip.valueIn lower = some true ∨ Key.strip.valueIn upper = some true
  policy : settings.generate.policy = Key.policy.prevailing lower upper
  package : settings.examples.package = Key.package.prevailing lower upper
  target : settings.examples.target = Key.target.prevailing lower upper
  installDirectory :
    settings.examples.installDirectory = Key.installDirectory.prevailing lower upper
  toolsDirectory : settings.examples.toolsDirectory = Key.toolsDirectory.prevailing lower upper
  names : settings.examples.names =
    if Key.names.valueIn upper = some [] then (Key.names.valueIn lower).getD []
    else (Key.names.prevailing lower upper).getD []

/-- What the upper document says of stripping and of names holds, too. -/
structure Overridden (lower upper : Toml.Entries) (settings : Settings) : Prop
    extends Layered lower upper settings where
  stripOverridden : settings.generate.strip = (Key.strip.prevailing lower upper).getD false
  namesOverridden : settings.examples.names = (Key.names.prevailing lower upper).getD []

/-- The upper document does not want names stripped that the lower one wants stripped. -/
def TakesBackStrip (lower upper : Toml.Entries) : Prop :=
  Key.strip.valueIn lower = some true ∧ Key.strip.valueIn upper = some false

/-- The upper document wants no names where the lower one lists some. -/
def TakesBackNames (lower upper : Toml.Entries) : Prop :=
  (Key.names.valueIn lower).getD [] ≠ [] ∧ Key.names.valueIn upper = some []

theorem layered_merge {lower upper : Toml.Entries} {below above : Settings}
    (readBelow : ofEntries lower = some below) (readAbove : ofEntries upper = some above) :
    Layered lower upper (below.merge above) := by
  rcases readFrom_of_ofEntries readBelow with ⟨generateBelow, examplesBelow⟩
  rcases readFrom_of_ofEntries readAbove with ⟨generateAbove, examplesAbove⟩
  rcases generateBelow.strip with ⟨stripBelow, readsBelow, sameBelow⟩
  rcases generateAbove.strip with ⟨stripAbove, readsAbove, sameAbove⟩
  rcases examplesBelow.names with ⟨namesBelow, readsNamesBelow, sameNamesBelow⟩
  rcases examplesAbove.names with ⟨namesAbove, readsNamesAbove, sameNamesAbove⟩
  exact
    { leading := (generateBelow.leading.prevailing_eq generateAbove.leading).symm
      policy := (generateBelow.policy.prevailing_eq generateAbove.policy).symm
      package := (examplesBelow.package.prevailing_eq examplesAbove.package).symm
      target := (examplesBelow.target.prevailing_eq examplesAbove.target).symm
      installDirectory :=
        (examplesBelow.installDirectory.prevailing_eq examplesAbove.installDirectory).symm
      toolsDirectory :=
        (examplesBelow.toolsDirectory.prevailing_eq examplesAbove.toolsDirectory).symm
      strip := by
        change (below.generate.strip || above.generate.strip) = true ↔ _
        have asked (value : Option Bool) : value.getD false = true ↔ value = some true := by
          cases value <;> simp
        rw [readsBelow.valueIn_eq, readsAbove.valueIn_eq, sameBelow, sameAbove, Bool.or_eq_true,
          asked, asked]
      names := by
        change (if above.examples.names.isEmpty then below.examples.names
          else above.examples.names) = _
        rw [readsNamesBelow.valueIn_eq, readsNamesAbove.valueIn_eq,
          readsNamesBelow.prevailing_eq readsNamesAbove, sameNamesBelow, sameNamesAbove]
        rcases namesAbove with _ | _ | ⟨first, rest⟩ <;> simp }

theorem strip_merge_iff {lower upper : Toml.Entries} {below above : Settings}
    (readBelow : ofEntries lower = some below) (readAbove : ofEntries upper = some above) :
    (below.merge above).generate.strip = (Key.strip.prevailing lower upper).getD false ↔
      ¬TakesBackStrip lower upper := by
  rcases (readFrom_of_ofEntries readBelow).1.strip with ⟨stripBelow, readsBelow, sameBelow⟩
  rcases (readFrom_of_ofEntries readAbove).1.strip with ⟨stripAbove, readsAbove, sameAbove⟩
  change (below.generate.strip || above.generate.strip) = _ ↔ _
  rw [TakesBackStrip, readsBelow.prevailing_eq readsAbove, readsBelow.valueIn_eq,
    readsAbove.valueIn_eq, sameBelow, sameAbove]
  rcases stripBelow with _ | _ | _ <;> rcases stripAbove with _ | _ | _ <;> simp

theorem names_merge_iff {lower upper : Toml.Entries} {below above : Settings}
    (readBelow : ofEntries lower = some below) (readAbove : ofEntries upper = some above) :
    (below.merge above).examples.names = (Key.names.prevailing lower upper).getD [] ↔
      ¬TakesBackNames lower upper := by
  rcases (readFrom_of_ofEntries readBelow).2.names with ⟨namesBelow, readsBelow, sameBelow⟩
  rcases (readFrom_of_ofEntries readAbove).2.names with ⟨namesAbove, readsAbove, sameAbove⟩
  change (if above.examples.names.isEmpty then below.examples.names
    else above.examples.names) = _ ↔ _
  rw [TakesBackNames, readsBelow.prevailing_eq readsAbove, readsBelow.valueIn_eq,
    readsAbove.valueIn_eq, sameBelow, sameAbove]
  rcases namesAbove with _ | _ | ⟨first, rest⟩ <;> simp

/-- The upper document has the last word unless it takes back what the lower one asks for. -/
theorem overridden_merge_iff {lower upper : Toml.Entries} {below above : Settings}
    (readBelow : ofEntries lower = some below) (readAbove : ofEntries upper = some above) :
    Overridden lower upper (below.merge above) ↔
      ¬TakesBackStrip lower upper ∧ ¬TakesBackNames lower upper := by
  rw [← strip_merge_iff readBelow readAbove, ← names_merge_iff readBelow readAbove]
  constructor
  · intro overridden
    exact ⟨overridden.stripOverridden, overridden.namesOverridden⟩
  · rintro ⟨strip, names⟩
    exact ⟨layered_merge readBelow readAbove, strip, names⟩

/-! ## Files -/

/-- The entries of the document at a path, if there is one. -/
def entriesAt (machine : Machine) (path : String) : Option Toml.Entries :=
  match machine.files.openFile machine.current path with
  | .ok ⟨octets, none⟩ => (Text.decode octets).toOption.bind Toml.read
  | _ => none

theorem ofFile_eq_ok_iff {path : String} {opened : Except SystemFault Source}
    {settings : Settings} :
    ofFile path opened = .ok settings ↔
      ∃ octets document, opened = .ok ⟨octets, none⟩ ∧ Text.decode octets = .ok document ∧
        ofDocument document = some settings := by
  rcases opened with fault | ⟨octets, _ | fault⟩
  · simp [ofFile]
  · unfold ofFile
    cases decoded : Text.decode octets with
    | error read => simp [decoded]
    | ok document =>
        cases read : ofDocument document with
        | none => simp [decoded, read]
        | some found => simp [decoded, read]
  · simp [ofFile]

theorem entriesAt_of_loaded {machine : Machine} {path : String} {settings : Settings}
    (loaded : ofFile path (machine.files.openFile machine.current path) = .ok settings) :
    ∃ entries, entriesAt machine path = some entries ∧ ofEntries entries = some settings := by
  rcases ofFile_eq_ok_iff.mp loaded with ⟨octets, document, opened, decoded, read⟩
  rcases Option.bind_eq_some_iff.mp read with ⟨entries, found, read⟩
  refine ⟨entries, ?_, read⟩
  rw [entriesAt, opened]
  simp only [decoded]
  exact found

end Settings

/-! ## Sessions -/

theorem Machine.isPresent_of_openFile {machine : Machine} {path : String} {source : Source}
    (opened : machine.files.openFile machine.current path = .ok source) :
    machine.isPresent path = true := by
  unfold isPresent
  unfold FileTree.openFile at opened
  cases located : machine.files.locate machine.current path with
  | error fault =>
      rw [located] at opened
      cases opened
  | ok found => rfl

/-- A machine with a document for each layer and nothing else. -/
def Machine.holding (below above : String) : Machine where
  files :=
    (FileTree.empty.put ["global.toml"] (.file (Text.octets below) false)).put ["project.toml"]
      (.file (Text.octets above) false)
  current := []
  environment := []
  accountHome := none
  respond _ := ⟨some 0⟩
  calls := []
  printed := []
  told := ""

namespace Session

variable {machine : Machine} {verbose : Bool} {global project : String} {below above : Settings}

theorem layerAt_of_loaded {path : String} {settings : Settings}
    (loaded : settingsAt ⟨Machine.system, verbose⟩ path machine = (.ok settings, machine)) :
    layerAt ⟨Machine.system, verbose⟩ path machine = (settings, machine) := by
  have read : Settings.ofFile path (machine.files.openFile machine.current path) = .ok settings :=
    congrArg Prod.fst loaded
  rcases Settings.ofFile_eq_ok_iff.mp read with ⟨octets, document, opened, -, -⟩
  have present : Machine.system.isPresent path machine = (true, machine) :=
    congrArg (·, machine) (Machine.isPresent_of_openFile opened)
  rw [layerAt, bind_of_eq present, if_pos rfl, bind_of_eq loaded]
  rfl

theorem layeredSettings_of_loaded
    (loadsBelow : settingsAt ⟨Machine.system, verbose⟩ global machine = (.ok below, machine))
    (loadsAbove : settingsAt ⟨Machine.system, verbose⟩ project machine = (.ok above, machine)) :
    layeredSettings ⟨Machine.system, verbose⟩ (some global) project machine =
      (below.merge above, machine) := by
  simp only [layeredSettings, bind_of_eq (layerAt_of_loaded loadsBelow),
    bind_of_eq (layerAt_of_loaded loadsAbove), Settings.unset_merge]
  rfl

/-- Of two layers that can be read, the project's overrides the user's in every setting unless it
takes back stripping or the names of examples. -/
theorem layeredSettings_overrides_iff
    (loadsBelow : settingsAt ⟨Machine.system, verbose⟩ global machine = (.ok below, machine))
    (loadsAbove : settingsAt ⟨Machine.system, verbose⟩ project machine = (.ok above, machine)) :
    ∃ lower upper settings,
      Settings.entriesAt machine global = some lower ∧
        Settings.entriesAt machine project = some upper ∧
        layeredSettings ⟨Machine.system, verbose⟩ (some global) project machine =
          (settings, machine) ∧
        Settings.Layered lower upper settings ∧
        (Settings.Overridden lower upper settings ↔
          ¬Settings.TakesBackStrip lower upper ∧ ¬Settings.TakesBackNames lower upper) := by
  rcases Settings.entriesAt_of_loaded (congrArg Prod.fst loadsBelow) with
    ⟨lower, foundLower, readBelow⟩
  rcases Settings.entriesAt_of_loaded (congrArg Prod.fst loadsAbove) with
    ⟨upper, foundUpper, readAbove⟩
  exact ⟨lower, upper, below.merge above, foundLower, foundUpper,
    layeredSettings_of_loaded loadsBelow loadsAbove,
    Settings.layered_merge readBelow readAbove,
    Settings.overridden_merge_iff readBelow readAbove⟩

/-- The project adds to what the user sets. -/
theorem layeredSettings_overrides_start :
    settingsAt ⟨Machine.system, false⟩ "/global.toml"
        (.holding "[generate]\nstrip_prefix = true" "[generate]\nmatch_prefix = \"f_\"") =
        (.ok ⟨⟨none, true, none⟩, .unset⟩,
          .holding "[generate]\nstrip_prefix = true" "[generate]\nmatch_prefix = \"f_\"") ∧
      settingsAt ⟨Machine.system, false⟩ "/project.toml"
        (.holding "[generate]\nstrip_prefix = true" "[generate]\nmatch_prefix = \"f_\"") =
        (.ok ⟨⟨some "f_", false, none⟩, .unset⟩,
          .holding "[generate]\nstrip_prefix = true" "[generate]\nmatch_prefix = \"f_\"") ∧
      Settings.entriesAt
          (.holding "[generate]\nstrip_prefix = true" "[generate]\nmatch_prefix = \"f_\"")
          "/global.toml" =
        some [("generate", .table .header [("strip_prefix", .boolean true)])] ∧
      Settings.entriesAt
          (.holding "[generate]\nstrip_prefix = true" "[generate]\nmatch_prefix = \"f_\"")
          "/project.toml" =
        some [("generate", .table .header [("match_prefix", .text "f_")])] ∧
      Settings.Overridden
        [("generate", .table .header [("strip_prefix", .boolean true)])]
        [("generate", .table .header [("match_prefix", .text "f_")])]
        (layeredSettings ⟨Machine.system, false⟩ (some "/global.toml") "/project.toml"
          (.holding "[generate]\nstrip_prefix = true"
            "[generate]\nmatch_prefix = \"f_\"")).1 := by
  have loadsBelow : settingsAt ⟨Machine.system, false⟩ "/global.toml"
      (.holding "[generate]\nstrip_prefix = true" "[generate]\nmatch_prefix = \"f_\"") =
      (.ok ⟨⟨none, true, none⟩, .unset⟩, _) := rfl
  have loadsAbove : settingsAt ⟨Machine.system, false⟩ "/project.toml"
      (.holding "[generate]\nstrip_prefix = true" "[generate]\nmatch_prefix = \"f_\"") =
      (.ok ⟨⟨some "f_", false, none⟩, .unset⟩, _) := rfl
  have lowerRead : Settings.entriesAt
      (.holding "[generate]\nstrip_prefix = true" "[generate]\nmatch_prefix = \"f_\"")
      "/global.toml" =
      some [("generate", .table .header [("strip_prefix", .boolean true)])] := rfl
  have upperRead : Settings.entriesAt
      (.holding "[generate]\nstrip_prefix = true" "[generate]\nmatch_prefix = \"f_\"")
      "/project.toml" =
      some [("generate", .table .header [("match_prefix", .text "f_")])] := rfl
  rcases layeredSettings_overrides_iff loadsBelow loadsAbove with
    ⟨lower, upper, settings, foundLower, foundUpper, merged, -, overrides⟩
  refine ⟨loadsBelow, loadsAbove, lowerRead, upperRead, ?_⟩
  rw [lowerRead] at foundLower
  rw [upperRead] at foundUpper
  cases foundLower
  cases foundUpper
  rw [merged]
  refine overrides.mpr ⟨?_, ?_⟩
  · rintro ⟨-, taken⟩
    exact absurd taken (by decide)
  · rintro ⟨-, taken⟩
    exact absurd taken (by decide)

/-- A project can neither stop the stripping that the user asks for nor empty the user's list. -/
theorem layeredSettings_keeps_what_is_taken_back :
    ∃ lower upper,
      Settings.entriesAt
          (.holding
            "[generate]\nstrip_prefix = true\n[examples]\nnames = [\"gpio\"]\n"
            "[generate]\nstrip_prefix = false\n[examples]\nnames = []\n")
          "/global.toml" = some lower ∧
        Settings.entriesAt
          (.holding
            "[generate]\nstrip_prefix = true\n[examples]\nnames = [\"gpio\"]\n"
            "[generate]\nstrip_prefix = false\n[examples]\nnames = []\n")
          "/project.toml" = some upper ∧
        (settingsAt ⟨Machine.system, false⟩ "/global.toml"
          (.holding
            "[generate]\nstrip_prefix = true\n[examples]\nnames = [\"gpio\"]\n"
            "[generate]\nstrip_prefix = false\n[examples]\nnames = []\n")).1 =
          .ok ⟨⟨none, true, none⟩, ⟨none, none, none, none, ["gpio"]⟩⟩ ∧
        (settingsAt ⟨Machine.system, false⟩ "/project.toml"
          (.holding
            "[generate]\nstrip_prefix = true\n[examples]\nnames = [\"gpio\"]\n"
            "[generate]\nstrip_prefix = false\n[examples]\nnames = []\n")).1 =
          .ok .unset ∧
        Settings.Key.strip.prevailing lower upper = some false ∧
        Settings.Key.names.prevailing lower upper = some [] ∧
        (layeredSettings ⟨Machine.system, false⟩ (some "/global.toml") "/project.toml"
          (.holding
            "[generate]\nstrip_prefix = true\n[examples]\nnames = [\"gpio\"]\n"
            "[generate]\nstrip_prefix = false\n[examples]\nnames = []\n")).1 =
          ⟨⟨none, true, none⟩, ⟨none, none, none, none, ["gpio"]⟩⟩ ∧
        ¬Settings.Overridden lower upper
          ⟨⟨none, true, none⟩, ⟨none, none, none, none, ["gpio"]⟩⟩ := by
  refine ⟨_, _, rfl, rfl, rfl, rfl, rfl, rfl, rfl, ?_⟩
  intro overridden
  exact absurd overridden.stripOverridden (by decide)

end Session

end SymbolBindings
