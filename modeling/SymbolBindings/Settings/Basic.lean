import SymbolBindings.Generate.Policy

/-!
Settings: what the user has written down for all runs. Every setting may be left open, and settings
of one layer can be put over those of another.
-/

namespace SymbolBindings

/-- For generating declarations. -/
structure GenerateSettings where
  /-- What the names of declared symbols start with. -/
  leading : Option String
  /-- Whether declared names leave that start out. -/
  strip : Bool
  policy : Option Policy
  deriving DecidableEq, Repr

/-- For building and installing examples. -/
structure ExampleSettings where
  package : Option String
  target : Option String
  /-- Where examples are installed on the device. -/
  installDirectory : Option String
  /-- Where the tools for the device are. -/
  toolsDirectory : Option String
  /-- The examples to build when none are asked for. -/
  names : List String
  deriving DecidableEq, Repr

structure Settings where
  generate : GenerateSettings
  examples : ExampleSettings
  deriving DecidableEq, Repr

/-! ## What holds where nothing is set -/

namespace ExampleSettings

def defaultPackage : String := "flipperzero"

def defaultTarget : String := "thumbv7em-none-eabihf"

def defaultInstallDirectory : String := "/ext/apps/Examples"

def defaultToolsDirectory : String := "../tools"

def defaultNames : List String :=
  ["dialog", "example_images", "gpio", "gui", "hello-rust", "notification", "storage"]

def packageInUse (settings : ExampleSettings) : String :=
  settings.package.getD defaultPackage

def targetInUse (settings : ExampleSettings) : String :=
  settings.target.getD defaultTarget

def installDirectoryInUse (settings : ExampleSettings) : String :=
  settings.installDirectory.getD defaultInstallDirectory

def toolsDirectoryInUse (settings : ExampleSettings) : String :=
  settings.toolsDirectory.getD defaultToolsDirectory

/-- An empty list of names sets nothing. -/
def namesInUse (settings : ExampleSettings) : List String :=
  if settings.names.isEmpty then defaultNames else settings.names

end ExampleSettings

/-! ## Layers -/

def GenerateSettings.unset : GenerateSettings :=
  ⟨none, false, none⟩

def ExampleSettings.unset : ExampleSettings :=
  ⟨none, none, none, none, []⟩

/-- Settings that leave everything open. -/
def Settings.unset : Settings :=
  ⟨.unset, .unset⟩

/-- Puts `upper` over `lower`. Stripping is never taken back by an upper layer. -/
def GenerateSettings.merge (lower upper : GenerateSettings) : GenerateSettings :=
  { leading := upper.leading.or lower.leading
    strip := lower.strip || upper.strip
    policy := upper.policy.or lower.policy }

def ExampleSettings.merge (lower upper : ExampleSettings) : ExampleSettings :=
  { package := upper.package.or lower.package
    target := upper.target.or lower.target
    installDirectory := upper.installDirectory.or lower.installDirectory
    toolsDirectory := upper.toolsDirectory.or lower.toolsDirectory
    names := if upper.names.isEmpty then lower.names else upper.names }

/-- Puts the settings `upper` over the settings `lower`: what `upper` sets holds, and what it leaves
open is as in `lower`. -/
def Settings.merge (lower upper : Settings) : Settings :=
  ⟨lower.generate.merge upper.generate, lower.examples.merge upper.examples⟩

example (settings : Settings) : settings.merge .unset = settings := by
  simp [Settings.merge, Settings.unset, GenerateSettings.merge, GenerateSettings.unset,
    ExampleSettings.merge, ExampleSettings.unset]

end SymbolBindings
