import SymbolBindings.SystemFault
import SymbolBindings.Text.Utf8

/-!
Sinks: where declarations are written to. A sink may have room for only so many octets; it then
takes what fits and refuses the rest, so what was written is always the start of what was offered.
-/

namespace SymbolBindings

/-- What a sink without room does with an offer. -/
inductive Overflow
  | fails (fault : SystemFault)
  /-- It takes nothing and reports no fault of its own. -/
  | takesNothing
  deriving DecidableEq, Repr

structure Sink where
  /-- The octets that still fit, unless everything does. -/
  room : Option Nat
  overflow : Overflow
  /-- The fault that flushing meets, if any. -/
  flushFault : Option SystemFault
  /-- What was taken, the latest piece first. -/
  pieces : List (List UInt8)
  deriving Repr

namespace Sink

/-- Takes everything and never fails. -/
def unbounded : Sink :=
  ⟨none, .takesNothing, none, []⟩

/-- Takes `capacity` octets. -/
def bounded (capacity : Nat) (overflow : Overflow) : Sink :=
  ⟨some capacity, overflow, none, []⟩

/-- The octets taken so far, in order. -/
def written (sink : Sink) : List UInt8 :=
  sink.pieces.reverse.flatten

/-- How many of `count` offered octets the sink takes. -/
def fitting (sink : Sink) (count : Nat) : Nat :=
  match sink.room with
  | none => count
  | some room => min room count

/-- The sink after it took a piece. -/
def take (sink : Sink) (piece : List UInt8) : Sink :=
  { sink with
    room := sink.room.map (· - piece.length)
    pieces := piece :: sink.pieces }

@[simp] theorem written_unbounded : unbounded.written = [] := rfl

@[simp] theorem written_bounded (capacity : Nat) (overflow : Overflow) :
    (bounded capacity overflow).written = [] := rfl

@[simp] theorem written_take (sink : Sink) (piece : List UInt8) :
    (sink.take piece).written = sink.written ++ piece := by
  simp [take, written]

/-- The fault a writer reports when the sink has no room. -/
def overflowFault (sink : Sink) : SystemFault :=
  match sink.overflow with
  | .fails fault => fault
  | .takesNothing => .nothingTaken

/-- Writes as much as fits. Whatever is left over finds a sink without room. -/
def writeAll (sink : Sink) (offered : List UInt8) : Except SystemFault Unit × Sink :=
  (if sink.fitting offered.length = offered.length then .ok () else .error sink.overflowFault,
    sink.take (offered.take (sink.fitting offered.length)))

theorem written_writeAll (sink : Sink) (offered : List UInt8) :
    (sink.writeAll offered).2.written =
      sink.written ++ offered.take (sink.fitting offered.length) := by
  simp [writeAll]

def write (sink : Sink) (text : String) : Except SystemFault Unit × Sink :=
  sink.writeAll (Text.octets text)

def flush (sink : Sink) : Except SystemFault Unit :=
  match sink.flushFault with
  | none => .ok ()
  | some fault => .error fault

example : ((bounded 3 .takesNothing).write "pub").1 = .ok () := by rfl

example : ((bounded 2 .takesNothing).write "pub").1 = .error .nothingTaken := by rfl

end Sink

end SymbolBindings
