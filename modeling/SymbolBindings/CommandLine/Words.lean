import SymbolBindings.Generate.Policy

/-!
The words of a command line. It has two levels: the words before the name of a command and those
after it. Each level knows its flags, by long words and by letters; some of them take a value.
-/

namespace SymbolBindings.CommandLine

inductive Level
  /-- Before the name of a command. -/
  | root
  | generate
  | examples
  | completions
  deriving DecidableEq, Repr

/-- A flag that stands alone. -/
inductive Switch
  | verbose
  | plain
  | strip
  | install
  | help
  | version
  deriving DecidableEq, Repr

/-- A flag that takes a value. -/
inductive Key
  | settings
  | leading
  | policy
  | output
  | workspace
  deriving DecidableEq, Repr

inductive Flag
  | switch (switch : Switch)
  | key (key : Key)
  deriving DecidableEq, Repr

def Level.ofCommand (word : String) : Option Level :=
  if word = "generate" then some .generate
  else if word = "examples" then some .examples
  else if word = "completions" then some .completions
  else none

/-- How a flag is spelled after two hyphens. -/
def Flag.word : Flag → String
  | switch .verbose => "verbose"
  | switch .plain => "no-color"
  | switch .strip => "strip-prefix"
  | switch .install => "install"
  | switch .help => "help"
  | switch .version => "version"
  | key .settings => "config"
  | key .leading => "match-prefix"
  | key .policy => "unknown-entry"
  | key .output => "output"
  | key .workspace => "workspace"

/-- The letter of a flag after one hyphen, if it has one. -/
def Flag.letter : Flag → Option Char
  | switch .verbose => some 'v'
  | switch .strip => some 'S'
  | switch .install => some 'i'
  | switch .help => some 'h'
  | switch .version => some 'V'
  | key .leading => some 'm'
  | key .output => some 'o'
  | _ => none

/-- The flags that both levels know. -/
def sharedFlags : List Flag :=
  [.switch .verbose, .switch .plain, .key .settings, .switch .help]

def Level.flags : Level → List Flag
  | root => .switch .version :: sharedFlags
  | generate => .key .leading :: .switch .strip :: .key .policy :: .key .output :: sharedFlags
  | examples => .switch .install :: .key .workspace :: sharedFlags
  | completions => sharedFlags

def Level.flagOfWord (level : Level) (word : String) : Option Flag :=
  level.flags.find? fun flag => flag.word == word

def Level.flagOfLetter (level : Level) (letter : Char) : Option Flag :=
  level.flags.find? fun flag => flag.letter == some letter

def shells : List String :=
  ["bash", "elvish", "fish", "powershell", "zsh"]

/-- Whether a value suits its flag: a path must not be empty, and a policy must be one. -/
def Key.suits (value : String) : Key → Bool
  | settings => value != ""
  | leading => true
  | policy => (Policy.ofWord value).isSome
  | output => value != ""
  | workspace => value != ""

/-- Whether a plain word suits its level when `count` plain words stand before it. -/
def Level.suits (count : Nat) (word : String) : Level → Bool
  | root => false
  | generate => count == 0 && word != ""
  | examples => true
  | completions => count == 0 && shells.contains word

example : Level.generate.flagOfLetter 'S' = some (.switch .strip) := by decide

example : Level.root.flagOfLetter 'S' = none := by decide

end SymbolBindings.CommandLine
