/-
This file holds the free list: the free blocks of a heap, linked through their headers
into one circle. The circle is kept in address order, so going round it the address
falls at one place only. It is anchored by a sentinel, a header of size zero that is
never handed out, and it is searched from a rover, the node where the last search or
insertion stopped.
-/

import NextFit.Memory.Basic
import NextFit.Units

namespace NextFit

/-- A circle of free blocks. The blocks themselves are in memory. -/
structure FreeList where
  /-- The header that anchors the circle. -/
  sentinel : Address
  /-- The node after which the next search begins. -/
  rover : Address
  deriving DecidableEq, Repr

/-- A free block: where its header stands and how many units it has. -/
structure FreeBlock where
  /-- Where the header of the block stands. -/
  header : Address
  /-- The size of the block, its header included. -/
  units : Word
  deriving DecidableEq, Repr

/-- The size of a free block in bytes. -/
def FreeBlock.bytes (block : FreeBlock) : Except Fault Word :=
  bytesOf block.units

/-! ### Work on memory -/

/-- Work on memory that may stop at a fault. What was written before the fault stays. -/
abbrev Surgery := EStateM Fault Memory

/-- Asks a question about the memory and leaves the memory as it is. -/
def Surgery.ask {α : Type} (question : Memory → Except Fault α) : Surgery α := fun memory =>
  match question memory with
  | .ok answer => .ok answer memory
  | .error fault => .error fault memory

/-! ### The empty list -/

/-- Starts a list whose only node is the sentinel at the given address. -/
def FreeList.create (sentinel : Address) : Surgery FreeList := do
  modify (·.setHeader sentinel { next := sentinel, size := 0 })
  return { sentinel, rover := sentinel }

end NextFit
