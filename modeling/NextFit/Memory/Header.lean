/-
This file holds the header, the two words in which the allocator keeps its books.
While a block is free the first word links to the next free block; while it is handed
out the first word is the tag. The second word is the size of the block in units, the
header included. A unit inside a payload is two words as well, and its sixteen bytes
are the caller's.
-/

import NextFit.Memory.Bytes

namespace NextFit

/-- The two words of a unit, as a header reads them. -/
structure Header where
  /-- The link to the next free block, or the tag. -/
  next : Address := 0
  /-- The size of the block in units. -/
  size : Word := 0
  deriving DecidableEq, Inhabited, Repr

namespace Header

/-- The header of a block of the given size that is handed out. -/
def tagged (size : Word) : Header :=
  { next := liveTag, size }

/-- Whether the block is marked as handed out. -/
def isTagged (header : Header) : Bool :=
  header.next == liveTag

/-- The byte of a unit at an offset from 0 to 15. -/
def byte (header : Header) (offset : Nat) : UInt8 :=
  if offset < 8 then byteAt header.next offset else byteAt header.size (offset - 8)

/-- The unit with the byte at an offset from 0 to 15 replaced. -/
def withByte (header : Header) (offset : Nat) (value : UInt8) : Header :=
  if offset < 8 then { header with next := withByteAt header.next offset value }
  else { header with size := withByteAt header.size (offset - 8) value }

/-- A replaced byte reads back, and the other fifteen stay. -/
theorem byte_withByte (header : Header) {offset other : Nat} (within : offset < 16)
    (otherWithin : other < 16) (value : UInt8) :
    (header.withByte offset value).byte other =
      if other = offset then value else header.byte other := by
  unfold byte withByte
  by_cases low : offset < 8 <;> by_cases otherLow : other < 8
  · simp only [low, otherLow, if_true]
    exact byteAt_withByteAt _ low otherLow _
  · have apart : other ≠ offset := by omega
    simp only [low, otherLow, apart, if_true, if_false]
  · have apart : other ≠ offset := by omega
    simp only [low, otherLow, apart, if_true, if_false]
  · simp only [low, otherLow, if_false]
    rw [byteAt_withByteAt _ (by omega) (by omega)]
    have same : (other - 8 = offset - 8) = (other = offset) := propext (by omega)
    simp only [same]

end Header

end NextFit
