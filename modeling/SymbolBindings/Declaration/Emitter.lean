import SymbolBindings.Declaration.Basic
import SymbolBindings.Sink

/-!
Emission: writing declarations to a sink, one block at a time. A declaration that is refused is
refused before anything of it is written.
-/

namespace SymbolBindings

/-- What can be asked of an emitter. -/
inductive Emission
  | declaration (subject : Declaration)
  /-- Write as a variable, whatever the declaration says it is. -/
  | object (subject : Declaration)
  /-- Write as a function, whatever the declaration says it is. -/
  | function (subject : Declaration)
  | flush
  deriving Repr

namespace Emission

/-- The text the emission asks to write. A flush asks for none. -/
def block : Emission → Except Failure String
  | declaration subject => subject.block
  | object subject => subject.objectBlock
  | function subject => subject.functionBlock
  | flush => .ok ""

end Emission

namespace Sink

/-- Writes a block, unless there is none to write. -/
def emitBlock (sink : Sink) : Except Failure String → Except Failure Unit × Sink
  | .error failure => (.error failure, sink)
  | .ok block =>
    let (result, sink) := sink.write block
    (result.mapError .system, sink)

def perform (sink : Sink) : Emission → Except Failure Unit × Sink
  | .flush => (sink.flush.mapError .system, sink)
  | emission => sink.emitBlock emission.block

/-- Performs the emissions in order, whether or not earlier ones failed. -/
def performAll (sink : Sink) : List Emission → List (Except Failure Unit) × Sink
  | [] => ([], sink)
  | emission :: rest =>
    let (result, sink) := sink.perform emission
    let (results, sink) := sink.performAll rest
    (result :: results, sink)

end Sink

end SymbolBindings
