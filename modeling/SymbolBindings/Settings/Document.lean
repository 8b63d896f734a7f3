import SymbolBindings.Settings.Basic
import SymbolBindings.Toml.Reader

/-!
The settings that a document holds. Keys that name no setting are passed over; an item of the wrong
sort refuses the whole document.
-/

namespace SymbolBindings.Settings

/-! ## Sections -/

/-- Whether an item can stand for a section: a table, an array that gives the settings in their
order without their keys, or a moment, which sets nothing. -/
def isSection : Toml.Item → Bool
  | .table _ _ => true
  | .array _ => true
  | .moment _ => true
  | _ => false

/-- The item a section has for a setting, by its key or by its position. -/
def member (key : String) (position : Nat) : Toml.Item → Option Toml.Item
  | .table _ entries => entries.lookup key
  | .array items => items[position]?
  | _ => none

/-! ## Values -/

def textOf : Toml.Item → Option String
  | .text value => some value
  | _ => none

def truthOf : Toml.Item → Option Bool
  | .boolean value => some value
  | _ => none

/-- Only an array written as such lists texts. -/
def textsOf : Toml.Item → Option (List String)
  | .array items => items.mapM textOf
  | _ => none

/-- The words of settings are in lower case. -/
def policyOfWord (word : String) : Option Policy :=
  if word = Policy.skip.text then some .skip
  else if word = Policy.error.text then some .error
  else none

def isEmpty : Toml.Item → Bool
  | .array items => items.isEmpty
  | .table _ entries => entries.isEmpty
  | _ => false

/-- A policy is a word, or a table with that word as its only key and nothing under it. -/
def policyOf : Toml.Item → Option Policy
  | .text word => policyOfWord word
  | .table _ [(word, content)] => if isEmpty content then policyOfWord word else none
  | _ => none

/-- A value that may be absent but must not be of the wrong sort. -/
def optional (valueOf : Toml.Item → Option α) : Option Toml.Item → Option (Option α)
  | none => some none
  | some item => (valueOf item).map some

/-! ## Documents -/

def generateOf (item : Toml.Item) : Option GenerateSettings :=
  if isSection item then do
    let leading ← optional textOf (member "match_prefix" 0 item)
    let strip ← optional truthOf (member "strip_prefix" 1 item)
    let policy ← optional policyOf (member "unknown_entry" 2 item)
    return ⟨leading, strip.getD false, policy⟩
  else none

def examplesOf (item : Toml.Item) : Option ExampleSettings :=
  if isSection item then do
    let package ← optional textOf (member "package" 0 item)
    let target ← optional textOf (member "target" 1 item)
    let installDirectory ← optional textOf (member "install_dir" 2 item)
    let toolsDirectory ← optional textOf (member "tools_dir" 3 item)
    let names ← optional textsOf (member "names" 4 item)
    return ⟨package, target, installDirectory, toolsDirectory, names.getD []⟩
  else none

def ofEntries (entries : Toml.Entries) : Option Settings := do
  let generate ← optional generateOf (entries.lookup "generate")
  let examples ← optional examplesOf (entries.lookup "examples")
  return ⟨generate.getD .unset, examples.getD .unset⟩

/-- The settings that the text of a document holds, unless it is refused. -/
def ofDocument (document : String) : Option Settings :=
  (Toml.read document).bind ofEntries

example :
    ofDocument "[generate]\nmatch_prefix = \"furi_\"\nother = 1" =
      some ⟨⟨some "furi_", false, none⟩, .unset⟩ := by decide

end SymbolBindings.Settings
