import SymbolBindings.Session.Basic
import SymbolBindings.Settings.Document
import SymbolBindings.Text.Utf8

/-!
The settings of a session: those of one file, or those of a project put over those of the user. Of
the two layers, one that is missing leaves everything open, and so does one that cannot be read,
about which the user is warned.
-/

namespace SymbolBindings

namespace Settings

/-- The settings in the file at `path`, which could be opened or not. -/
def ofFile (path : String) (opened : Except SystemFault Source) : Except Trouble Settings :=
  match opened with
  | .error fault => .error (.settingsUnread path fault)
  | .ok ⟨_, some fault⟩ => .error (.settingsUnread path fault)
  | .ok ⟨octets, none⟩ =>
    match Text.decode octets with
    | .error _ => .error (.settingsUnread path .illFormedText)
    | .ok document =>
      match ofDocument document with
      | none => .error (.settingsRefused path)
      | some settings => .ok settings

/-- Where a directory keeps settings. -/
def pathBelow (directory : String) : String :=
  PathName.joinAll directory [".symgen", "config.toml"]

def fallbackWarning (path : String) (trouble : Trouble) : Log.Line :=
  Log.warning ("Failed to load config from " ++ path ++ ": " ++ trouble.message)

end Settings

namespace Session

variable {m : Type → Type} [Monad m]

def settingsAt (session : Session m) (path : String) : m (Except Trouble Settings) := do
  return Settings.ofFile path (← session.system.openFile path)

/-- A layer of settings. -/
def layerAt (session : Session m) (path : String) : m Settings := do
  if ← session.system.isPresent path then
    match ← session.settingsAt path with
    | .ok settings => return settings
    | .error trouble => do
      session.note (Settings.fallbackWarning path trouble)
      return .unset
  else return .unset

/-- The user's layer, if there is a path to it, below the project's. -/
def layeredSettings (session : Session m) (global : Option String) (project : String) :
    m Settings := do
  let lower ←
    match global with
    | none => pure .unset
    | some path => session.layerAt path
  let upper ← session.layerAt project
  return (Settings.merge .unset lower).merge upper

/-- The settings to work with. A file named on purpose stands alone and must be in order. -/
def settings (session : Session m) (named : Option String) : Step m Settings := do
  match named with
  | some path => ExceptT.mk (session.settingsAt path)
  | none => do
    let current ← attempt .noCurrentDirectory session.system.currentDirectory
    let home ← session.system.home
    session.layeredSettings (home.map Settings.pathBelow) (Settings.pathBelow current)

end Session

end SymbolBindings
