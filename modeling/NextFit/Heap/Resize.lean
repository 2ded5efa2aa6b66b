/-
This file resizes blocks. A block that is large enough and well aligned stays where it
is and gives up the units it no longer needs; any other one moves.
-/

import NextFit.Heap.Allocate
import NextFit.Heap.Release

namespace NextFit

namespace Heap

variable {G E : Type} [Grower G E]

open NextFit.Action

/-- Cuts a live block down to its first units and puts the others on the free list. -/
def shrink (header : Address) (units : Word) : Action G E Unit := do
  let surplus ← ofExcept (minus (← headerAt header).size units)
  if surplus ≠ 0 ∧ (← get).heap.free.isSome then
    writeHeader header (.tagged units)
    addFree (Address.above header units) surplus
    record (.shrank header units)

/-- Whether a payload whose block has some units can stay where it is with the needed ones. -/
def staysAt (payload : Address) (units needed alignment : Word) : Except Fault Bool :=
  if needed ≤ units then isAligned payload alignment else .ok false

/-- Moves the contents of a block to a new one for at least the given number of bytes, and
frees the old one. Without room for the new one nothing changes. -/
def move (payload : Address) (units newSize alignment : Word) : Action G E (Option Address) := do
  let some moved ← allocateAligned newSize alignment
    | return none
  let usable ← ofExcept do bytesOf (← minus units 1)
  onMemory (modify (·.copy payload moved (min usable newSize).toNat))
  release (some payload)
  return some moved

/-- Resizes the block of a payload to at least the given number of bytes at a multiple of the
alignment. Without a payload this is an allocation, and a new size of zero frees the
block. -/
def resizeAligned (payload : Option Address) (newSize alignment : Word) :
    Action G E (Option Address) := do
  let some payload := payload
    | allocateAligned newSize alignment
  if newSize = 0 then
    release (some payload)
    return none
  else
    let some needed ← ofExcept (blockUnits newSize)
      | return none
    let units := (← headerAt (headerBelow payload)).size
    if ← ofExcept (staysAt payload units needed alignment) then
      shrink (headerBelow payload) needed
      return some payload
    else
      move payload units newSize alignment

/-- Resizes the block of a payload to at least the given number of bytes. -/
def resize (payload : Option Address) (newSize : Word) : Action G E (Option Address) :=
  resizeAligned payload newSize headerAlignment

end Heap

end NextFit
