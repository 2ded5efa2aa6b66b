/-
This file serves requests that come as layouts: a size together with an alignment. A
caller names the layout again whenever it resizes or frees the block.
-/

import NextFit.Heap.Resize

namespace NextFit

/-- A size and an alignment for which rounding the size up stays within the addresses that a
signed word can count. -/
structure Layout where
  /-- The size in bytes. -/
  size : Word
  /-- The alignment. -/
  alignment : Alignment
  /-- The size can be rounded up. -/
  fits : size.toNat + alignment.value.toNat ≤ UInt64.size / 2

namespace Layout

/-- What is said of a size and an alignment that make no layout. -/
def rejection : String :=
  "invalid parameters to Layout::from_size_align"

/-- The layout of a size and an alignment, if they make one. -/
def ofSizeAlign? (size alignment : Word) : Option Layout := do
  let alignment ← Alignment.ofWord? alignment
  if fits : size.toNat + alignment.value.toNat ≤ UInt64.size / 2 then
    some { size, alignment, fits }
  else
    none

end Layout

namespace Heap

variable {G E : Type} [Grower G E]

open NextFit.Action

/-- Allocates a block for the layout. -/
def allocateFor (layout : Layout) : Action G E (Option Address) :=
  allocateAligned layout.size layout.alignment.value

/-- Allocates a block for the layout and sets its bytes to zero. -/
def allocateZeroedFor (layout : Layout) : Action G E (Option Address) := do
  let some payload ← allocateFor layout
    | return none
  onMemory (modify (·.zero payload layout.size.toNat))
  return some payload

/-- Frees a block that was allocated for the layout. -/
def releaseFor (payload : Option Address) (_layout : Layout) : Action G E Unit :=
  release payload

/-- Resizes a block that was allocated for the layout, keeping its alignment. -/
def resizeFor (payload : Option Address) (layout : Layout) (newSize : Word) :
    Action G E (Option Address) :=
  resizeAligned payload newSize layout.alignment.value

end Heap

end NextFit
