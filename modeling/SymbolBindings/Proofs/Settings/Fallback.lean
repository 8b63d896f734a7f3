import SymbolBindings.Proofs.Settings.Layers

/-! # Layers that cannot be used

A layer whose file is missing, cannot be read or holds no settings leaves everything open, as if it
had not been asked for. The other layer is kept whole.
-/

namespace SymbolBindings

namespace Settings

/-- There are no settings to be had from the file at a path. -/
inductive Unusable (machine : Machine) (path : String) : Prop
  | missing (absent : machine.isPresent path = false)
  | unopened {fault : SystemFault}
      (opened : machine.files.openFile machine.current path = .error fault)
  | unread {octets : List UInt8} {fault : SystemFault}
      (opened : machine.files.openFile machine.current path = .ok ⟨octets, some fault⟩)
  | noText {octets : List UInt8} {offset : Nat}
      (opened : machine.files.openFile machine.current path = .ok ⟨octets, none⟩)
      (illFormed : Text.decode octets = .error offset)
  | malformed {octets : List UInt8} {document : String}
      (opened : machine.files.openFile machine.current path = .ok ⟨octets, none⟩)
      (decoded : Text.decode octets = .ok document) (refused : ofDocument document = none)

/-- The settings that the file at a path contributes. -/
def layerOf (machine : Machine) (path : String) : Settings :=
  match ofFile path (machine.files.openFile machine.current path) with
  | .ok settings => settings
  | .error _ => .unset

variable {machine : Machine} {path : String}

theorem Unusable.not_loaded (unusable : Unusable machine path) (settings : Settings) :
    ofFile path (machine.files.openFile machine.current path) ≠ .ok settings := by
  intro loaded
  rcases ofFile_eq_ok_iff.mp loaded with ⟨octets, document, opened, decoded, read⟩
  cases unusable with
  | missing absent =>
      rw [Machine.isPresent_of_openFile opened] at absent
      cases absent
  | unopened failed => cases opened.symm.trans failed
  | unread failed => cases opened.symm.trans failed
  | noText same illFormed =>
      cases opened.symm.trans same
      cases decoded.symm.trans illFormed
  | malformed same sameText refused =>
      cases opened.symm.trans same
      cases decoded.symm.trans sameText
      cases read.symm.trans refused

theorem Unusable.layerOf_eq (unusable : Unusable machine path) : layerOf machine path = .unset := by
  cases read : ofFile path (machine.files.openFile machine.current path) with
  | ok settings => exact absurd read (unusable.not_loaded settings)
  | error trouble => simp only [layerOf, read]

theorem layerOf_of_hears {after : Machine} (heard : machine.Hears after) (path : String) :
    layerOf after path = layerOf machine path := by
  rcases heard.same with ⟨files, current, -⟩
  rw [layerOf, layerOf, files, current]

end Settings

namespace Session

variable {machine : Machine} (verbose : Bool)

/-- A layer is what its file contributes. If that is nothing, the user may be told so. -/
theorem layerAt_eq (machine : Machine) (path : String) :
    ∃ after, layerAt ⟨Machine.system, verbose⟩ path machine =
        (Settings.layerOf machine path, after) ∧ machine.Hears after := by
  cases read : Settings.ofFile path (machine.files.openFile machine.current path) with
  | ok settings =>
      have loaded : settingsAt ⟨Machine.system, verbose⟩ path machine =
          (.ok settings, machine) := congrArg (·, machine) read
      refine ⟨machine, ?_, .nothing⟩
      rw [layerAt_of_loaded loaded]
      simp only [Settings.layerOf, read]
  | error trouble =>
      have failed : settingsAt ⟨Machine.system, verbose⟩ path machine =
          (.error trouble, machine) := congrArg (·, machine) read
      have unset : Settings.layerOf machine path = .unset := by simp only [Settings.layerOf, read]
      rw [unset]
      cases present : machine.isPresent path with
      | false =>
          have absent : Machine.system.isPresent path machine = (false, machine) :=
            congrArg (·, machine) present
          refine ⟨machine, ?_, .nothing⟩
          rw [layerAt, bind_of_eq absent]
          rfl
      | true =>
          have there : Machine.system.isPresent path machine = (true, machine) :=
            congrArg (·, machine) present
          rcases onlyTells_note verbose (Settings.fallbackWarning path trouble) machine with
            ⟨_, after, told, heard⟩
          refine ⟨after, ?_, heard⟩
          rw [layerAt, bind_of_eq there, if_pos rfl, bind_of_eq failed]
          exact bind_of_eq told _

/-- The settings of two layers, neither of which has to be there. -/
theorem layeredSettings_eq (machine : Machine) (global : Option String) (project : String) :
    (layeredSettings ⟨Machine.system, verbose⟩ global project machine).1 =
      (global.elim .unset (Settings.layerOf machine)).merge (Settings.layerOf machine project) := by
  cases global with
  | none =>
      rcases layerAt_eq verbose machine project with ⟨after, upper, -⟩
      simp only [layeredSettings, pure_bind, bind_of_eq upper, Settings.unset_merge]
      exact (Settings.unset_merge _).symm
  | some path =>
      rcases layerAt_eq verbose machine path with ⟨between, lower, heard⟩
      rcases layerAt_eq verbose between project with ⟨after, upper, -⟩
      simp only [layeredSettings, bind_of_eq lower, bind_of_eq upper, Settings.unset_merge,
        Settings.layerOf_of_hears heard]
      rfl

/-- Layers of settings are merged from whichever end, ones that leave everything open count for
nothing, and a layer counts no more for being put on again. So the settings of any number of layers
are those that were set last. Whatever is wrong with the file of a layer, the settings are as if
there were none, and those of the other layer are kept. -/
theorem layers_accumulate :
    (∀ bottom middle top : Settings,
      (bottom.merge middle).merge top = bottom.merge (middle.merge top)) ∧
    (∀ settings : Settings,
      Settings.unset.merge settings = settings ∧ settings.merge .unset = settings) ∧
    (∀ lower upper : Settings, (lower.merge upper).merge upper = lower.merge upper) ∧
    (∀ layers : List Settings,
      Settings.Accumulated layers (layers.foldl Settings.merge .unset)) ∧
    ∀ (machine : Machine) (verbose : Bool) (path : String), Settings.Unusable machine path →
      (∀ project,
        (layeredSettings ⟨Machine.system, verbose⟩ (some path) project machine).1 =
            (layeredSettings ⟨Machine.system, verbose⟩ none project machine).1 ∧
          (layeredSettings ⟨Machine.system, verbose⟩ (some path) project machine).1 =
            Settings.layerOf machine project) ∧
      ∀ global missing, machine.isPresent missing = false →
        (layeredSettings ⟨Machine.system, verbose⟩ global path machine).1 =
            (layeredSettings ⟨Machine.system, verbose⟩ global missing machine).1 ∧
          (layeredSettings ⟨Machine.system, verbose⟩ global path machine).1 =
            global.elim .unset (Settings.layerOf machine) := by
  refine ⟨Settings.merge_assoc,
    fun settings => ⟨settings.unset_merge, settings.merge_unset⟩, Settings.merge_merge_self,
    Settings.accumulated_mergeAll, ?_⟩
  intro machine verbose path unusable
  constructor
  · intro project
    rw [layeredSettings_eq, layeredSettings_eq]
    constructor
    · rw [Option.elim_some, unusable.layerOf_eq, Option.elim_none]
    · rw [Option.elim_some, unusable.layerOf_eq, Settings.unset_merge]
  · intro global missing absent
    have alsoUnusable : Settings.Unusable machine missing := .missing absent
    rw [layeredSettings_eq, layeredSettings_eq]
    constructor
    · rw [unusable.layerOf_eq, alsoUnusable.layerOf_eq]
    · rw [unusable.layerOf_eq, Settings.merge_unset]

/-- A project's file that breaks off in a heading leaves the user's settings as they are, like one
that is not there. -/
theorem layers_accumulate_below_malformed :
    let machine := Machine.holding "[generate]\nstrip_prefix = true\nmatch_prefix = \"f_\"" "[gen"
    Settings.Unusable machine "/project.toml" ∧ machine.isPresent "/other.toml" = false ∧
      (layeredSettings ⟨Machine.system, false⟩ (some "/global.toml") "/project.toml" machine).1 =
        (layeredSettings ⟨Machine.system, false⟩ (some "/global.toml") "/other.toml" machine).1 ∧
      (layeredSettings ⟨Machine.system, false⟩ (some "/global.toml") "/project.toml" machine).1 =
        ⟨⟨some "f_", true, none⟩, .unset⟩ := by
  intro machine
  have malformed : Settings.Unusable machine "/project.toml" := .malformed rfl rfl rfl
  have absent : machine.isPresent "/other.toml" = false := rfl
  rcases layers_accumulate with ⟨-, -, -, -, falls⟩
  rcases (falls machine false "/project.toml" malformed).2 (some "/global.toml") "/other.toml"
    absent with ⟨same, kept⟩
  exact ⟨malformed, absent, same, kept⟩

end Session

end SymbolBindings
