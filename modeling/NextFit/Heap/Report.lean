/-
This file answers questions about a heap that change nothing.
-/

import NextFit.FreeList.Text
import NextFit.Grower.FixedBuffer
import NextFit.Grower.PageHeap
import NextFit.Heap.Basic

namespace NextFit

namespace Heap

variable {G : Type}

/-- The free blocks in list order, if there is a list. -/
def freeBlocks (heap : Heap G) : Except Fault (Option (List FreeBlock)) :=
  match heap.free with
  | none => .ok none
  | some list => return some (← list.blocks heap.memory)

/-- Surveys the free list. Without a list there is nothing to count. -/
def survey (heap : Heap G) : Except Fault Survey :=
  match heap.free with
  | none => .ok {}
  | some list => list.survey heap.memory

/-- The text of the free list. -/
def dump (heap : Heap G) : Except Fault String :=
  match heap.free with
  | none => .ok "FreeList(uninitialized)"
  | some list => list.text heap.memory

/-- The bytes that the caller of a live payload may use, which may be more than were asked
for. -/
def usableSize (heap : Heap G) (payload : Address) : Except Fault Word := do
  bytesOf (← minus (heap.memory.size (headerBelow payload)) 1)

/-- The most bytes that can be allocated from a fresh heap over a fixed buffer: the whole
buffer without the unit of the sentinel and the header of the block. -/
def maxAllocation (heap : Heap FixedBuffer) : Except Fault Word :=
  bytesOf (if heap.grower.capacity < 2 then 0 else heap.grower.capacity - 2)

/-- A heap over pages that grows by at least one page at a time. -/
def ofSystem {S : Type} (system : S) : Heap (PageHeap S) :=
  { grower := { minPages := 1, system } }

end Heap

end NextFit
