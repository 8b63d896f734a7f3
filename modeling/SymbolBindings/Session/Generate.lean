import SymbolBindings.Batch
import SymbolBindings.CommandLine.Request
import SymbolBindings.Generate.Run
import SymbolBindings.Session.Basic
import SymbolBindings.Settings.Basic

/-!
Generating declarations in a session. The output is created before the table is opened, declarations
are delivered in batches, and what was written before a failure is delivered like the rest.
-/

namespace SymbolBindings

/-- Flags come before settings, except that either can ask for stripping. -/
def GenerateRequest.options (request : GenerateRequest) (settings : GenerateSettings) :
    Generate.Options :=
  { matcher :=
      { leading := request.leading.or settings.leading
        strip := request.strip || settings.strip }
    policy := (request.policy.or settings.policy).getD .skip }

namespace Generate

/-- What the user is told of a completed run. -/
def Summary.notes (summary : Summary) : List Log.Line :=
  Log.info ("Emitted " ++ toString summary.emitted ++ " declarations (" ++
      toString summary.hidden ++ " private, " ++ toString summary.unmatched ++ " unmatched, " ++
      toString summary.unsupported ++ " unsupported skipped)") ::
    if summary.unresolved.isEmpty then []
    else
      Log.info (toString summary.unresolved.length ++
          " type names were passed through unresolved and must be declared elsewhere") ::
        summary.unresolved.map fun name => Log.debug ("  opaque: " ++ name)

end Generate

namespace Session

variable {m : Type → Type} [Monad m]

/-- Makes room for the declarations. -/
def createOutput (session : Session m) : Option String → Step m Unit
  | none => return ()
  | some path => attempt (.outputRefused path) (session.system.createFile path)

/-- Delivers octets to the output, if there are any. -/
def deliver (session : Session m) (output : Option String) (octets : List UInt8) :
    ExceptT SystemFault m Unit :=
  if octets = [] then return ()
  else
    match output with
    | none => session.system.print octets
    | some path => session.system.extendFile path octets

/-- Lets the user and the output have their parts of a run, in order, and gives the batch that is
not yet delivered. The first fault of the output is the end: later events do not happen. -/
def relay (session : Session m) (output : Option String) (batch : Batch) :
    List Generate.Event → ExceptT SystemFault m Batch
  | [] => return batch
  | .noted line :: rest => do
    session.note line
    session.relay output batch rest
  | .offered block :: rest => do
    (batch.add block).1.forM (session.deliver output)
    session.relay output (batch.add block).2 rest

/-- A run's own failure comes before that of delivering its last batch. -/
def delivered (result : Except Failure Generate.Summary) (delivery : Except SystemFault Unit) :
    Except Failure Generate.Summary := do
  let summary ← result
  delivery.mapError .system
  return summary

/-- Relays a run and delivers what is left. -/
def conclude (session : Session m) (output : Option String) (outcome : Generate.Outcome) :
    m (Except Failure Generate.Summary) := do
  match ← (session.relay output .empty outcome.events).run with
  | .error fault => return .error (.system fault)
  | .ok batch => return delivered outcome.result (← (session.deliver output batch.octets).run)

def generate (session : Session m) (request : GenerateRequest) (settings : GenerateSettings) :
    Step m Unit := do
  session.createOutput request.output
  let opened ← session.system.openFile request.table
  let outcome :=
    Generate.runAt (request.options settings) request.table opened Sink.unbounded
  match ← session.conclude request.output outcome with
  | .ok summary => session.notes summary.notes
  | .error failure => throw (.table request.table failure)

end Session

end SymbolBindings
