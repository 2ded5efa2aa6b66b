/-
This file hands out blocks. A request for nothing is refused, and so is one whose block
would not fit in a word and one for which the grower has no memory.
-/

import NextFit.Heap.Growth

namespace NextFit

namespace Heap

variable {G E : Type} [Grower G E]

open NextFit.Action

/-! ### Plain requests -/

/-- Allocates at least the given number of bytes and answers with the payload, which is aligned
as headers are. -/
def allocate (size : Word) : Action G E (Option Address) := do
  if size = 0 then
    record .refusedEmpty
    return none
  else
    let some units ← ofExcept (blockUnits size)
      | record (.tooLarge size)
        return none
    let some header ← obtain units
      | return none
    onMemory (modify (·.setNext header liveTag))
    record (.allocated size units (payloadAbove header) none)
    return some (payloadAbove header)

/-- Allocates at least the given number of bytes and sets these bytes to zero. -/
def allocateZeroed (size : Word) : Action G E (Option Address) := do
  let some payload ← allocate size
    | return none
  onMemory (modify (·.zero payload size.toNat))
  return some payload

/-! ### Aligned requests -/

/-- The units of the block for an aligned request, and the units that are enough to carve it
out of any block: all payloads are aligned as headers are, so the spare units are the
units between two multiples of the alignment, less one. There is no answer if either does
not fit in a word. -/
def alignedUnits (size : Word) (alignment : Alignment) : Except Fault (Option (Word × Word)) := do
  let some units ← blockUnits size
    | return none
  return (plus? units (alignment.value / unitBytes - 1)).map fun total => (units, total)

/-- Carves a block of the wanted units out of a larger one, so that its payload is aligned,
and puts the units on either side of it back on the free list. -/
def carve (header : Address) (total wanted : Word) (alignment : Alignment) :
    Action G E Address := do
  let lead := (← ofExcept (alignment.padding (payloadAbove header))) / unitBytes
  let trail ← ofExcept do minus (← minus total lead) wanted
  let carved := Address.above header lead
  writeHeader carved (.tagged wanted)
  addSpare header lead
  addSpare (Address.above carved wanted) trail
  return carved

/-- Allocates at least the given number of bytes at a multiple of the alignment, which must be
a power of two. An alignment beyond that of headers takes a larger block and puts its spare
units back on the free list. -/
def allocateAligned (size alignment : Word) : Action G E (Option Address) := do
  let power ← ofExcept (Alignment.ofWord alignment)
  if alignment ≤ headerAlignment then
    allocate size
  else if size = 0 then
    record .refusedEmpty
    return none
  else
    let some (units, total) ← ofExcept (alignedUnits size power)
      | record (.tooLargeAligned size alignment)
        return none
    let some block ← obtain total
      | return none
    let header ← carve block total units power
    record (.allocated size units (payloadAbove header) (some alignment))
    return some (payloadAbove header)

end Heap

end NextFit
