import SymbolBindings.CommandLine.Request
import SymbolBindings.CommandLine.Words

/-!
Reading a command line, word by word. What is wrong with one ends the reading, and so do the
switches that ask for help or for the version; whichever comes first decides.
-/

namespace SymbolBindings.CommandLine

/-- Why reading ends before the last word. -/
inductive Stop
  | refused
  | help
  | version
  deriving DecidableEq, Repr

/-- What the words of one level gave. -/
structure Given where
  switches : List Switch
  values : List (Key × String)
  plainWords : List String
  deriving Repr

namespace Given

def nothing : Given :=
  ⟨[], [], []⟩

/-- A switch may be given once. -/
def withSwitch (given : Given) : Switch → Except Stop Given
  | .help => .error .help
  | .version => .error .version
  | switch =>
    if given.switches.contains switch then .error .refused
    else .ok { given with switches := switch :: given.switches }

/-- A key may be given once, with a value that suits it. -/
def withValue (given : Given) (key : Key) (value : String) : Except Stop Given :=
  if (given.values.lookup key).isSome ∨ ¬ key.suits value then .error .refused
  else .ok { given with values := (key, value) :: given.values }

def withPlainWord (level : Level) (given : Given) (word : String) : Except Stop Given :=
  if level.suits given.plainWords.length word then
    .ok { given with plainWords := given.plainWords ++ [word] }
  else .error .refused

def has (given : Given) (switch : Switch) : Bool :=
  given.switches.contains switch

def value (given : Given) (key : Key) : Option String :=
  given.values.lookup key

end Given

/-! ## One word -/

/-- A long flag: a word, which may have its value after an equals sign. A key without a value waits
for the next word. -/
def readLong (level : Level) (given : Given) (text : List Char) :
    Except Stop (Given × Option Key) :=
  let word := String.ofList (text.takeWhile (· != '='))
  match level.flagOfWord word, text.dropWhile (· != '=') with
  | some (.switch switch), [] => do return (← given.withSwitch switch, none)
  | some (.key key), [] => return (given, some key)
  | some (.key key), _ :: value => do
    return (← given.withValue key (String.ofList value), none)
  | _, _ => throw .refused

/-- A cluster of letters. The first key takes all that follows it for its value, without an equals
sign at the start, and waits for the next word if nothing follows. -/
def readLetters (level : Level) (given : Given) : List Char → Except Stop (Given × Option Key)
  | [] => return (given, none)
  | letter :: rest =>
    match level.flagOfLetter letter, rest with
    | some (.switch switch), rest => do readLetters level (← given.withSwitch switch) rest
    | some (.key key), [] => return (given, some key)
    | some (.key key), '=' :: value => do
      return (← given.withValue key (String.ofList value), none)
    | some (.key key), value => do return (← given.withValue key (String.ofList value), none)
    | none, _ => throw .refused

/-- A word with a hyphen before more is a flag or a group of them; a lone hyphen is plain. -/
inductive Shape
  /-- Two hyphens and nothing else: all words after them are plain. -/
  | divider
  | long (text : List Char)
  | letters (text : List Char)
  | plain

def shape (word : String) : Shape :=
  match word.toList with
  | ['-', '-'] => .divider
  | '-' :: '-' :: text => .long text
  | '-' :: letter :: text => .letters (letter :: text)
  | _ => .plain

/-! ## The words of a level -/

def readPlain (level : Level) (given : Given) (words : List String) : Except Stop Given :=
  words.foldlM (Given.withPlainWord level) given

/-- Reads the words of a level while `pending` may wait for its value, which cannot be a flag. The
root has no plain words: reading stops at the first, and it is left with the words after it. -/
def readLevel (level : Level) :
    Given → Option Key → List String → Except Stop (Given × List String)
  | given, none, [] => return (given, [])
  | _, some _, [] => throw .refused
  | given, pending, word :: rest =>
    match shape word, pending with
    | .plain, some key => do readLevel level (← given.withValue key word) none rest
    | .plain, none =>
      if level = .root then return (given, word :: rest)
      else do readLevel level (← given.withPlainWord level word) none rest
    | _, some _ => throw .refused
    | .divider, none => do return (← readPlain level given rest, [])
    | .long text, none => do
      let (given, pending) ← readLong level given text
      readLevel level given pending rest
    | .letters text, none => do
      let (given, pending) ← readLetters level given text
      readLevel level given pending rest

/-! ## The whole command line -/

/-- What a command asks for, by the words after its name. -/
def taskOf (level : Level) (given : Given) : Option Task :=
  match level, given.plainWords with
  | .generate, [table] =>
    some <| .generate
      { table
        leading := given.value .leading
        strip := given.has .strip
        policy := (given.value .policy).bind Policy.ofWord
        output := given.value .output }
  | .examples, names =>
    some <| .examples
      { names
        install := given.has .install
        workspace := (given.value .workspace).getD "." }
  | .completions, [shell] => some (.completions shell)
  | _, _ => none

/-- The file to take settings from: named after the command, before it, or by the environment. The
environment is consulted at each level that names none, and must not name an empty path then. -/
def settingsFile (outer inner environment : Option String) : Except Stop (Option String) :=
  if environment = some "" ∧ (outer = none ∨ inner = none) then throw .refused
  else return (inner.or outer).or environment

/-- Asking for help by its own command. -/
def helpOn : List String → Stop
  | [] => .help
  | [word] => if word = "help" ∨ (Level.ofCommand word).isSome then .help else .refused
  | _ => .refused

def invocation (environment : Option String) (words : List String) : Except Stop Invocation := do
  let (outer, rest) ← readLevel .root .nothing none words
  match rest with
  | [] => throw .refused
  | command :: rest =>
    match Level.ofCommand command with
    | none => throw (if command = "help" then helpOn rest else .refused)
    | some level => do
      let (inner, _) ← readLevel level .nothing none rest
      let settings ← settingsFile (outer.value .settings) (inner.value .settings) environment
      match taskOf level inner with
      | none => throw .refused
      | some task =>
        return {
          verbose := outer.has .verbose || inner.has .verbose
          plain := outer.has .plain || inner.has .plain
          settings, task }

/-- What the words after the program's name ask for. The environment may name a file to take
settings from. -/
def read (environment : Option String) (words : List String) : Reading :=
  match invocation environment words with
  | .ok invocation => .invocation invocation
  | .error .help => .help
  | .error .version => .version
  | .error .refused => .refused

example :
    read none ["-v", "generate", "-Smfuri_", "t.csv"] =
      .invocation ⟨true, false, none, .generate ⟨"t.csv", some "furi_", true, none, none⟩⟩ := by
  decide

example : read none ["generate", "t.csv", "-m", "-S"] = .refused := by decide

end SymbolBindings.CommandLine
