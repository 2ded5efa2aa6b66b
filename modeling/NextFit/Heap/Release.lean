/-
This file frees blocks.
-/

import NextFit.Heap.Basic

namespace NextFit

namespace Heap

variable {G E : Type}

open NextFit.Action

/-- Puts the block of a payload back on the free list. No payload at all is no block. The
header must carry the tag of a block that is handed out. -/
def release (payload : Option Address) : Action G E Unit := do
  let some payload := payload
    | return
  let some list := (← get).heap.free
    | throw (.freedBeforeStart payload)
  let header ← headerAt (headerBelow payload)
  if header.isTagged then
    record (.freeing payload header.size)
    setFree (← onMemory (list.insert (headerBelow payload)))
  else
    throw (.notAllocated payload)

end Heap

end NextFit
