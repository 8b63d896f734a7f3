import SymbolBindings.Declaration.Emitter
import SymbolBindings.Generate.Matcher
import SymbolBindings.Generate.Policy
import SymbolBindings.Log
import SymbolBindings.Symbol.Table
import SymbolBindings.Text.Optional
import SymbolBindings.Text.Quoted

/-!
Generating: one pass over a symbol table that writes a declaration for every exported symbol the
matcher selects. Declarations are written as soon as they are made, so that what was written stays
when a later row ends the run.
-/

namespace SymbolBindings

namespace Generate

structure Options where
  matcher : Matcher
  policy : Policy
  deriving DecidableEq, Repr

/-- What a completed run counted. -/
structure Summary where
  emitted : Nat
  /-- Rows the firmware does not export. -/
  hidden : Nat
  /-- Exported rows whose names were not selected. -/
  unmatched : Nat
  /-- Selected rows that are neither variables nor functions. -/
  unsupported : Nat
  /-- The base names that were passed through unresolved, in ascending order without repetition. -/
  unresolved : List String
  deriving DecidableEq, Repr

/-! ## Sets of names -/

/-- Puts a name into an ascending list, once. -/
def insertName (name : String) : List String → List String
  | [] => [name]
  | first :: rest =>
    if name < first then name :: first :: rest
    else if name = first then first :: rest
    else first :: insertName name rest

def insertNames (names set : List String) : List String :=
  names.foldl (fun set name => insertName name set) set

example : insertNames ["b", "a", "b"] [] = ["a", "b"] := by decide

/-! ## One row after another -/

/-- What others can notice of a run while it goes on. -/
inductive Event
  /-- A block was offered to the sink, whether or not it took all of it. -/
  | offered (block : List UInt8)
  | noted (line : Log.Line)
  deriving DecidableEq, Repr

namespace Event

def line? : Event → Option Log.Line
  | offered _ => none
  | noted line => some line

end Event

/-- Where a run stands between two items. -/
structure Progress where
  /-- Items met so far, failures too. -/
  seen : Nat
  /-- Exported rows met so far. -/
  exported : Nat
  emitted : Nat
  unmatched : Nat
  unsupported : Nat
  unresolved : List String
  sink : Sink
  /-- The latest event first. -/
  events : List Event
  deriving Repr

namespace Progress

def start (sink : Sink) : Progress :=
  ⟨0, 0, 0, 0, 0, [], sink, []⟩

def summary (progress : Progress) : Summary :=
  { emitted := progress.emitted
    hidden := progress.seen - progress.exported
    unmatched := progress.unmatched
    unsupported := progress.unsupported
    unresolved := progress.unresolved }

end Progress

def skipNote (name entry : String) (line : Option Nat) : Log.Line :=
  Log.debug ("Skipping `" ++ name ++ "`: unsupported entry kind `" ++ entry ++ "` (line " ++
    Text.optionalNumber line ++ ")")

/-- What a sink is offered of a declaration. -/
def offers (declaration : Declaration) : List Event :=
  match declaration.block with
  | .ok block => [.offered (Text.octets block)]
  | .error _ => []

/-- Writes a declaration and takes down what it left unresolved. -/
def declare (declaration : Declaration) (progress : Progress) : Except Failure Unit × Progress :=
  let progress :=
    { progress with
      unresolved := insertNames declaration.unresolved progress.unresolved
      events := offers declaration ++ progress.events }
  match progress.sink.perform (.declaration declaration) with
  | (.error failure, sink) => (.error failure, { progress with sink })
  | (.ok (), sink) => (.ok (), { progress with sink, emitted := progress.emitted + 1 })

/-- An exported symbol. Its name is tested before its kind, so a symbol that is not selected is
never unsupported. -/
def exportedSymbol (options : Options) (symbol : Symbol) (progress : Progress) :
    Except Failure Unit × Progress :=
  match options.matcher.declaredName symbol.name with
  | none => (.ok (), { progress with unmatched := progress.unmatched + 1 })
  | some name =>
    match Declaration.ofSymbol symbol name, options.policy with
    | .ok declaration, _ => declare declaration progress
    | .error (.unsupportedKind name entry line), .skip =>
      (.ok (),
        { progress with
          unsupported := progress.unsupported + 1
          events := .noted (skipNote name entry line) :: progress.events })
    | .error failure, _ => (.error failure, progress)

/-- Takes one item of a table. A failed row ends the run, exported or not: nobody knows which. -/
def takeItem (options : Options) (item : Item) (progress : Progress) :
    Except Failure Unit × Progress :=
  let progress := { progress with seen := progress.seen + 1 }
  match item with
  | .error failure => (.error failure, progress)
  | .ok symbol =>
    if symbol.exported then
      exportedSymbol options symbol { progress with exported := progress.exported + 1 }
    else (.ok (), progress)

/-- Takes items up to the first that ends the run. -/
def takeItems (options : Options) : List Item → Progress → Except Failure Unit × Progress
  | [], progress => (.ok (), progress)
  | item :: rest, progress =>
    match takeItem options item progress with
    | (.error failure, progress) => (.error failure, progress)
    | (.ok (), progress) => takeItems options rest progress

/-! ## Whole runs -/

structure Outcome where
  result : Except Failure Summary
  sink : Sink
  /-- What happened, in order. -/
  events : List Event
  deriving Repr

/-- What the user is told during the run. -/
def Outcome.log (outcome : Outcome) : List Log.Line :=
  outcome.events.filterMap Event.line?

/-- Takes all items and flushes the sink. -/
def runItems (options : Options) (items : List Item) (sink : Sink) : Outcome :=
  match takeItems options items (.start sink) with
  | (.error failure, progress) => ⟨.error failure, progress.sink, progress.events.reverse⟩
  | (.ok (), progress) =>
    match progress.sink.flush with
    | .error fault => ⟨.error (.system fault), progress.sink, progress.events.reverse⟩
    | .ok () => ⟨.ok progress.summary, progress.sink, progress.events.reverse⟩

def inertNotes (matcher : Matcher) : List Event :=
  if matcher.stripIsInert then
    [.noted (Log.debug "--strip-prefix has no effect without --match-prefix")]
  else []

def columnsNote (header : List String) : Log.Line :=
  Log.debug ("symbol table columns: " ++ Text.quotedList header)

/-- Reads the table of a source and takes its items. -/
def run (options : Options) (source : Source) (sink : Sink) : Outcome :=
  match Table.read source with
  | .error failure => ⟨.error failure, sink, inertNotes options.matcher⟩
  | .ok table =>
    let outcome := runItems options table.items sink
    { outcome with
      events :=
        inertNotes options.matcher ++ .noted (columnsNote table.header) :: outcome.events }

def loadingNote (path : String) : Log.Line :=
  Log.debug ("Loading symbol table " ++ path)

/-- A run over the table at `path`, which could be opened or not. -/
def runAt (options : Options) (path : String) (opened : Except SystemFault Source) (sink : Sink) :
    Outcome :=
  let outcome : Outcome :=
    match opened with
    | .error fault => ⟨.error (.system fault), sink, []⟩
    | .ok source => run options source sink
  { outcome with events := .noted (loadingNote path) :: outcome.events }

end Generate

end SymbolBindings
