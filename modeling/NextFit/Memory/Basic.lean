/-
This file holds the memory that a heap works on: the whole address space, unit by unit,
of which every unit that was never written is zero. The same units are read as headers
by the allocator and as bytes by its callers.
-/

import NextFit.Memory.Header
import Std.Data.TreeMap.Lemmas

namespace NextFit

/-- The contents of the address space. A unit without an entry is zero. -/
structure Memory where
  /-- The units that were written, by their numbers. -/
  units : Std.TreeMap Nat Header := ∅
  deriving Inhabited

namespace Memory

/-! ### Headers -/

/-- The header at an address. -/
def header (memory : Memory) (address : Address) : Header :=
  memory.units.getD (unitOf address) {}

/-- The memory with a header written at an address. -/
def setHeader (memory : Memory) (address : Address) (header : Header) : Memory :=
  { units := memory.units.insert (unitOf address) header }

/-- The link of the header at an address. -/
def next (memory : Memory) (address : Address) : Address :=
  (memory.header address).next

/-- The size in the header at an address. -/
def size (memory : Memory) (address : Address) : Word :=
  (memory.header address).size

/-- The memory with the link of a header replaced. -/
def setNext (memory : Memory) (address next : Address) : Memory :=
  memory.setHeader address { memory.header address with next }

/-- The memory with the size of a header replaced. -/
def setSize (memory : Memory) (address : Address) (size : Word) : Memory :=
  memory.setHeader address { memory.header address with size }

/-- The address right after the block whose header stands at an address. -/
def blockEnd (memory : Memory) (address : Address) : Address :=
  address.above (memory.size address)

/-- A header that was written reads back, and so do those of all other units. -/
theorem header_setHeader (memory : Memory) (address other : Address) (header : Header) :
    (memory.setHeader address header).header other =
      if unitOf address = unitOf other then header else memory.header other := by
  simp only [Memory.header, setHeader, Std.TreeMap.getD_insert, Nat.compare_eq_eq]

/-- Addresses in one unit show the same header. -/
theorem header_congr (memory : Memory) {address other : Address}
    (same : unitOf address = unitOf other) : memory.header address = memory.header other := by
  unfold Memory.header
  rw [same]

theorem header_setNext (memory : Memory) (address other next : Address) :
    (memory.setNext address next).header other =
      if unitOf address = unitOf other then { memory.header other with next }
      else memory.header other := by
  rw [setNext, header_setHeader]
  split
  · next same => rw [memory.header_congr same]
  · rfl

theorem header_setSize (memory : Memory) (address other : Address) (size : Word) :
    (memory.setSize address size).header other =
      if unitOf address = unitOf other then { memory.header other with size }
      else memory.header other := by
  rw [setSize, header_setHeader]
  split
  · next same => rw [memory.header_congr same]
  · rfl

theorem next_setNext (memory : Memory) (address other next : Address) :
    (memory.setNext address next).next other =
      if unitOf address = unitOf other then next else memory.next other := by
  rw [Memory.next, header_setNext]
  split <;> rfl

theorem size_setNext (memory : Memory) (address other next : Address) :
    (memory.setNext address next).size other = memory.size other := by
  rw [size, header_setNext]
  split <;> rfl

theorem next_setSize (memory : Memory) (address other : Address) (size : Word) :
    (memory.setSize address size).next other = memory.next other := by
  rw [next, header_setSize]
  split <;> rfl

theorem size_setSize (memory : Memory) (address other : Address) (size : Word) :
    (memory.setSize address size).size other =
      if unitOf address = unitOf other then size else memory.size other := by
  rw [Memory.size, header_setSize]
  split <;> rfl

/-! ### Bytes -/

/-- The byte at an address. -/
def byte (memory : Memory) (address : Address) : UInt8 :=
  (memory.header address).byte (address.toNat % 16)

/-- The memory with one byte written. -/
def setByte (memory : Memory) (address : Address) (value : UInt8) : Memory :=
  memory.setHeader address ((memory.header address).withByte (address.toNat % 16) value)

/-- The bytes of a stretch of memory, from its lowest address up. -/
def read (memory : Memory) (address : Address) (length : Nat) : List UInt8 :=
  (List.range length).map fun offset => memory.byte (address + offset.toUInt64)

/-- The memory with bytes written one after another from an address up. -/
def write (memory : Memory) (address : Address) : List UInt8 → Memory
  | [] => memory
  | value :: rest => (memory.setByte address value).write (address + 1) rest

/-- The memory with a stretch of it set to zero. -/
def zero (memory : Memory) (address : Address) (length : Nat) : Memory :=
  memory.write address (List.replicate length 0)

/-- The memory with the bytes of one stretch written over another one. -/
def copy (memory : Memory) (source target : Address) (length : Nat) : Memory :=
  memory.write target (memory.read source length)

/-- A byte that was written reads back, and so do all others. -/
theorem byte_setByte (memory : Memory) (address other : Address) (value : UInt8) :
    (memory.setByte address value).byte other =
      if address = other then value else memory.byte other := by
  simp only [byte, setByte, header_setHeader]
  have bound : ∀ number : Nat, number % 16 < 16 := fun number => Nat.mod_lt _ (by decide)
  by_cases unit : unitOf address = unitOf other
  · rw [if_pos unit, Header.byte_withByte _ (bound _) (bound _)]
    have same : (other.toNat % 16 = address.toNat % 16) = (address = other) := by
      unfold unitOf at unit
      rw [← UInt64.toNat_inj]
      exact propext (by omega)
    simp only [same, memory.header_congr unit]
  · have apart : address ≠ other := fun equal => unit (congrArg unitOf equal)
    rw [if_neg unit, if_neg apart]

/-! ### Headers beside written bytes -/

theorem header_setByte (memory : Memory) {address other : Address} (value : UInt8)
    (apart : unitOf address ≠ unitOf other) :
    (memory.setByte address value).header other = memory.header other := by
  rw [setByte, header_setHeader, if_neg apart]

/-- Writing some bytes changes no unit in which none of them falls. -/
theorem header_write {memory : Memory} {address other : Address} {bytes : List UInt8}
    (fits : address.toNat + bytes.length ≤ UInt64.size)
    (apart : ∀ position, address.toNat ≤ position → position < address.toNat + bytes.length →
      position / 16 ≠ unitOf other) :
    (memory.write address bytes).header other = memory.header other := by
  have within : address.toNat + bytes.length ≤ 2 ^ 64 := fits
  clear fits
  induction bytes generalizing memory address with
  | nil => rfl
  | cons value rest inductionHypothesis =>
    rw [List.length_cons] at within apart
    have first : unitOf address ≠ unitOf other := apart address.toNat (Nat.le_refl _) (by omega)
    rw [write, ← header_setByte memory value first]
    cases rest with
    | nil => rfl
    | cons next rest =>
      rw [List.length_cons] at within apart
      have one : (1 : Address).toNat = 1 := rfl
      have second : (address + 1).toNat = address.toNat + 1 := by
        rw [UInt64.toNat_add, one, Nat.mod_eq_of_lt (by omega)]
      refine inductionHypothesis (fun position low high => ?_) ?_
      · rw [second, List.length_cons] at high
        rw [second] at low
        exact apart position (by omega) (by omega)
      · rw [second, List.length_cons]
        omega

end Memory

end NextFit
