/-!
Batches: octets on their way to an output are collected, so that small blocks are delivered
together. Nothing is lost on the way and nothing overtakes.
-/

namespace SymbolBindings

structure Batch where
  /-- The collected blocks, the latest first. -/
  blocks : List (List UInt8)
  /-- The octets in all of them. -/
  size : Nat
  deriving DecidableEq, Repr

namespace Batch

/-- How many octets a batch can hold. -/
def capacity : Nat := 8192

def empty : Batch :=
  ⟨[], 0⟩

def octets (batch : Batch) : List UInt8 :=
  batch.blocks.reverse.flatten

def collect (batch : Batch) (block : List UInt8) : Batch :=
  ⟨block :: batch.blocks, batch.size + block.length⟩

@[simp] theorem octets_empty : empty.octets = [] := rfl

@[simp] theorem octets_collect (batch : Batch) (block : List UInt8) :
    (batch.collect block).octets = batch.octets ++ block := by
  simp [collect, octets]

/-- What is due for delivery when a block arrives, and the batch from then on. A block that does not
fit sends what was collected ahead, and one that would fill a batch alone is not collected. -/
def add (batch : Batch) (block : List UInt8) : List (List UInt8) × Batch :=
  if capacity ≤ block.length then ([batch.octets, block], empty)
  else if batch.size + block.length ≤ capacity then ([], batch.collect block)
  else ([batch.octets], empty.collect block)

theorem due_append_octets_add (batch : Batch) (block : List UInt8) :
    (batch.add block).1.flatten ++ (batch.add block).2.octets = batch.octets ++ block := by
  unfold add
  split
  · simp
  · split <;> simp

/-- A batch may be full to the last octet before anything is due. -/
example :
    let half := List.replicate 4096 0x61
    (((empty.add half).2.add half).1, ((empty.add half).2.add half).2.size) = ([], 8192) := by
  decide +kernel

end Batch

end SymbolBindings
