/-
This file says what is read from memory after bytes were written to it. Bytes that were
written one after another, up to the end of the address space at most, read back, and so
do the bytes below them.
-/

import NextFit.Proofs.Stretch

namespace NextFit

namespace Memory

variable {memory other : Memory} {address : Address}

theorem length_read (memory : Memory) (address : Address) (length : Nat) :
    (memory.read address length).length = length := by
  rw [read, List.length_map, List.length_range]

/-- A stretch is read byte after byte. -/
theorem read_succ (memory : Memory) (address : Address) (length : Nat) :
    memory.read address (length + 1) = memory.byte address :: memory.read (address + 1) length := by
  have later : ∀ offset : Nat,
      address + (offset + 1).toUInt64 = address + 1 + offset.toUInt64 := by
    intro offset
    have sum : (offset + 1).toUInt64 = offset.toUInt64 + 1 := UInt64.ofNat_add offset 1
    rw [sum, UInt64.add_comm offset.toUInt64 1, UInt64.add_assoc]
  have first : address + (0 : Nat).toUInt64 = address := UInt64.add_zero address
  rw [read, List.range_succ_eq_map, List.map_cons, List.map_map, first]
  exact congrArg (memory.byte address :: ·)
    (List.map_congr_left fun offset _ => congrArg memory.byte (later offset))

/-- A shorter stretch reads as the front of a longer one. -/
theorem read_take (memory : Memory) (address : Address) {least length : Nat}
    (short : least ≤ length) :
    (memory.read address length).take least = memory.read address least := by
  rw [read, read, ← List.map_take, List.take_range, Nat.min_eq_left short]

/-- What is read from a stretch depends on its units only. -/
theorem read_congr {length : Nat} (same : ∀ offset < length,
      other.header (address + offset.toUInt64) = memory.header (address + offset.toUInt64)) :
    other.read address length = memory.read address length :=
  List.map_congr_left fun offset member =>
    congrArg (Header.byte · _) (same offset (List.mem_range.mp member))

/-- The next address, unless it lies past the last one. -/
theorem toNat_add_one {length : Nat} (fits : address.toNat + (length + 2) ≤ 2 ^ 64) :
    (address + 1).toNat = address.toNat + 1 := by
  have one : (1 : Address).toNat = 1 := rfl
  exact toNat_add_of_lt (by omega)

/-- Bytes below those that are written stay as they are. -/
theorem byte_write_of_lt {bytes : List UInt8} {lower : Address}
    (fits : address.toNat + bytes.length ≤ 2 ^ 64) (below : lower.toNat < address.toNat) :
    (memory.write address bytes).byte lower = memory.byte lower := by
  induction bytes generalizing memory address with
  | nil => rfl
  | cons value rest inductionHypothesis =>
    have apart : address ≠ lower := fun same => Nat.lt_irrefl _ (same ▸ below)
    have first : (memory.setByte address value).byte lower = memory.byte lower := by
      rw [byte_setByte, if_neg apart]
    rw [write, ← first]
    cases rest with
    | nil => rfl
    | cons next rest =>
      have step : (address + 1).toNat = address.toNat + 1 := toNat_add_one fits
      rw [List.length_cons] at fits
      exact inductionHypothesis (by omega) (by omega)

/-- What was written reads back. -/
theorem read_write {bytes : List UInt8} (fits : address.toNat + bytes.length ≤ 2 ^ 64) :
    (memory.write address bytes).read address bytes.length = bytes := by
  induction bytes generalizing memory address with
  | nil => rfl
  | cons value rest inductionHypothesis =>
    have first : (memory.setByte address value).byte address = value := by
      rw [byte_setByte, if_pos rfl]
    rw [List.length_cons, read_succ, write]
    cases rest with
    | nil => exact congrArg ([·]) first
    | cons next rest =>
      have step : (address + 1).toNat = address.toNat + 1 := toNat_add_one fits
      rw [List.length_cons] at fits
      rw [byte_write_of_lt (by omega) (by omega), first, inductionHypothesis (by omega)]

/-- What was copied to another stretch reads as it did before. -/
theorem read_copy {source target : Address} {length : Nat}
    (fits : target.toNat + length ≤ 2 ^ 64) :
    (memory.copy source target length).read target length = memory.read source length := by
  have count := memory.length_read source length
  have back : (memory.write target (memory.read source length)).read target
      (memory.read source length).length = memory.read source length :=
    read_write (count.symm ▸ fits)
  rwa [count] at back

end Memory

end NextFit
