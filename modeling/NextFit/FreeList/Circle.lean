/-
This file walks the circle of a free list once, from the sentinel back to the
sentinel, and lists what stands on it.
-/

import NextFit.FreeList.Basic

namespace NextFit

/-- As many headers as the address space has units. A walk over more of them has met one
twice. -/
def longestWalk : Nat := UInt64.size / 16

namespace FreeList

/-- The nodes from the current one up to the sentinel, which is not among them. -/
def walk (memory : Memory) (sentinel : Address) : Nat → Address → Except Fault (List Address)
  | 0, _ => .error .endlessWalk
  | fuel + 1, current =>
    if current = sentinel then .ok []
    else return current :: (← walk memory sentinel fuel (memory.next current))

/-- The nodes of the circle in list order, the sentinel left out. -/
def nodes (list : FreeList) (memory : Memory) : Except Fault (List Address) :=
  walk memory list.sentinel longestWalk (memory.next list.sentinel)

/-- The free blocks in list order. -/
def blocks (list : FreeList) (memory : Memory) : Except Fault (List FreeBlock) := do
  return (← list.nodes memory).map fun header => { header, units := memory.size header }

/-- The number of free blocks. -/
def length (list : FreeList) (memory : Memory) : Except Fault Nat := do
  return (← list.nodes memory).length

/-- Whether there is no free block. -/
def isEmpty (list : FreeList) (memory : Memory) : Bool :=
  memory.next list.sentinel == list.sentinel

end FreeList

end NextFit
