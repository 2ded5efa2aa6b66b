/-
This file names the faults: the ways in which a call is wrong, as opposed to a
request that is refused. A refused request has an ordinary answer, such as `none`;
a fault stops the call where it stands.
-/

import NextFit.Text.Hex

namespace NextFit

/-- What is wrong with a call that stops half way. -/
inductive Fault where
  /-- The alignment is not a power of two. -/
  | notPowerOfTwo (alignment : Word)
  /-- The next multiple of the alignment lies past the last word. -/
  | alignUpOverflow
  /-- Objects of no size were to be counted. -/
  | zeroObjectSize
  /-- A sum does not fit in a word. -/
  | addOverflow
  /-- A difference is negative. -/
  | subOverflow
  /-- A product does not fit in a word. -/
  | mulOverflow
  /-- A page heap was set up to grow by no pages at all. -/
  | zeroPages
  /-- A heap was asked to grow by nothing. -/
  | zeroGrowth
  /-- A free list was asked for a block of no units. -/
  | zeroRequest
  /-- A block of no units was put on a free list. -/
  | emptyBlock
  /-- The block is on the free list already. -/
  | alreadyFree (header : Address)
  /-- The payload was freed before the heap had handed out anything. -/
  | freedBeforeStart (payload : Address)
  /-- The payload was freed although its header has no tag. -/
  | notAllocated (payload : Address)
  /-- A growth succeeded with fewer units than were asked for. -/
  | shortGrowth
  /-- A walk met more headers than the address space holds. -/
  | endlessWalk
  /-- A heap grew more often than the address space holds units. -/
  | endlessGrowth
  deriving DecidableEq, Repr

/-- The message of a fault. -/
def Fault.message : Fault → String
  | .notPowerOfTwo alignment => s!"alignment {alignment} is not a power of two"
  | .alignUpOverflow => "align_up overflowed usize"
  | .zeroObjectSize => "object size must be non-zero"
  | .addOverflow => "attempt to add with overflow"
  | .subOverflow => "attempt to subtract with overflow"
  | .mulOverflow => "attempt to multiply with overflow"
  | .zeroPages => "MmapHeap needs to grow by at least one page"
  | .zeroGrowth => "Can't grow a heap by 0 units"
  | .zeroRequest => "Can't hand out a block of 0 units"
  | .emptyBlock => "Can't insert a block of size 0"
  | .alreadyFree header => "Block " ++ Address.text header ++ " is already free"
  | .freedBeforeStart payload =>
    "Freed " ++ Address.text payload ++ " before anything was allocated"
  | .notAllocated payload => "Freed " ++ Address.text payload ++ ", which is not allocated"
  | .shortGrowth => "Grower returned too little memory"
  | .endlessWalk => "the free list does not close"
  | .endlessGrowth => "the heap grows without end"

end NextFit
