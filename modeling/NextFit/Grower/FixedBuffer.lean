/-
This file holds the grower over a fixed buffer. It hands out the buffer front to back,
exactly as many units as it is asked for, and refuses what does not fit in the rest.
Nothing is ever taken back.
-/

import NextFit.Grower.Basic
import NextFit.Units
import NextFit.Text.Record

namespace NextFit

/-- A buffer of units of which a front part has been handed out. -/
structure FixedBuffer where
  /-- Where the buffer begins. -/
  base : Address
  /-- The size of the buffer in units. -/
  capacity : Word
  /-- The units handed out so far. -/
  used : Word := 0
  /-- No more than the buffer has. -/
  used_le_capacity : used ≤ capacity := by exact UInt64.le_iff_toNat_le.mpr (Nat.zero_le _)

/-- A fixed buffer was asked for more than it has left. -/
structure Exhausted where
  /-- The units that were asked for. -/
  requested : Word
  /-- The units that were left. -/
  remaining : Word
  deriving DecidableEq, Repr

/-- The message of the error. -/
def Exhausted.message (error : Exhausted) : String :=
  "fixed heap exhausted: requested " ++ toString error.requested ++ " units, " ++
    toString error.remaining ++ " remaining"

/-- The error as a record. -/
def Exhausted.text (error : Exhausted) : String :=
  recordText "FixedHeapExhausted"
    [("requested", toString error.requested), ("remaining", toString error.remaining)]

namespace FixedBuffer

/-- The units that are left. -/
def remaining (buffer : FixedBuffer) : Word :=
  buffer.capacity - buffer.used

theorem toNat_remaining (buffer : FixedBuffer) :
    buffer.remaining.toNat = buffer.capacity.toNat - buffer.used.toNat :=
  UInt64.toNat_sub_of_le _ _ buffer.used_le_capacity

/-- What fits in the rest of the buffer keeps the used part within the buffer. -/
theorem used_add_le_capacity (buffer : FixedBuffer) {units : Word}
    (fits : units ≤ buffer.remaining) : buffer.used + units ≤ buffer.capacity := by
  have used := UInt64.le_iff_toNat_le.mp buffer.used_le_capacity
  have rest := UInt64.le_iff_toNat_le.mp fits
  have bound := buffer.capacity.toNat_lt
  rw [toNat_remaining] at rest
  rw [UInt64.le_iff_toNat_le, UInt64.toNat_add]
  omega

/-- Hands out the next units of the buffer, if it has as many left. -/
def grow (units : Word) : EStateM Fault FixedBuffer (Except Exhausted Region) := fun buffer =>
  if units = 0 then .error .zeroGrowth buffer
  else if fits : units ≤ buffer.remaining then
    .ok (.ok { start := buffer.base.above buffer.used, units })
      { buffer with
        used := buffer.used + units
        used_le_capacity := buffer.used_add_le_capacity fits }
  else .ok (.error { requested := units, remaining := buffer.remaining }) buffer

instance : Grower FixedBuffer Exhausted where
  grow := grow

/-- Whether an address falls inside the buffer. -/
def contains (buffer : FixedBuffer) (address : Address) : Except Fault Bool := do
  let stop ← plus buffer.base (← bytesOf buffer.capacity)
  return buffer.base ≤ address && address < stop

end FixedBuffer

end NextFit
