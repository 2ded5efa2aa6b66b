/-
This file proves that a fixed buffer is a sound grower: it hands out its units from the
first one on, each of them once, and counts them.
-/

import NextFit.Grower.FixedBuffer
import NextFit.Proofs.Grower.Sound

namespace NextFit

namespace FixedBuffer

variable {buffer after : FixedBuffer} {regions : List Region} {requested : Word} {region : Region}

/-- A buffer of headers somewhere in memory of which nothing has been handed out yet. The end of
the buffer is an address as well. -/
structure Fresh (buffer : FixedBuffer) : Prop where
  aligned : 16 ∣ buffer.base.toNat
  notNull : buffer.base ≠ 0
  within : buffer.base.toNat + 16 * buffer.capacity.toNat < 2 ^ 64
  unused : buffer.used = 0

theorem Fresh.lies (fresh : buffer.Fresh) : Lies buffer.base buffer.capacity :=
  ⟨fresh.aligned, fresh.notNull, Nat.le_of_lt fresh.within⟩

theorem exists_grow (nonzero : requested ≠ 0) (fits : requested ≤ buffer.remaining) :
    ∃ after, Grower.grow requested buffer =
      .ok (.ok { start := buffer.base.above buffer.used, units := requested }) after :=
  ⟨_, (if_neg nonzero).trans (dif_pos fits)⟩

theorem grow_eq_error (nonzero : requested ≠ 0) (beyond : ¬requested ≤ buffer.remaining) :
    Grower.grow requested buffer =
      .ok (.error { requested, remaining := buffer.remaining }) buffer :=
  (if_neg nonzero).trans (dif_neg beyond)

/-- A growth that succeeds hands out the next units. -/
theorem grow_ok (granted : grow requested buffer = .ok (.ok region) after) :
    requested ≠ 0 ∧ requested ≤ buffer.remaining ∧
      region = { start := buffer.base.above buffer.used, units := requested } ∧
      after.base = buffer.base ∧ after.capacity = buffer.capacity ∧
      after.used = buffer.used + requested := by
  unfold grow at granted
  split at granted
  · cases granted
  · next nonzero =>
    split at granted
    · next fits =>
      cases granted
      exact ⟨nonzero, fits, rfl, rfl, rfl, rfl⟩
    · cases granted

/-- A growth that is refused changes nothing. -/
theorem grow_error {error : Exhausted}
    (refused : grow requested buffer = .ok (.error error) after) :
    after = buffer := by
  unfold grow at refused
  split at refused
  · cases refused
  · split at refused
    · cases refused
    · cases refused
      rfl

theorem grow_fault {fault : Fault} (faulted : grow requested buffer = .error fault after) :
    after = buffer := by
  unfold grow at faulted
  split at faulted
  · cases faulted
    rfl
  · split at faulted <;> cases faulted

/-- A fixed buffer stops at a fault only if it is asked for no units. -/
theorem faultless (buffer : FixedBuffer) (fault : Fault) : ¬Grower.Faults buffer fault := by
  rintro ⟨regions, grower, after, requested, -, nonzero, faulted⟩
  replace faulted : grow requested grower = .error fault after := faulted
  unfold grow at faulted
  rw [if_neg nonzero] at faulted
  split at faulted <;> cases faulted

/-- The next units of a buffer lie in memory, above the ones that were handed out. -/
theorem next_lies (lies : Lies buffer.base buffer.capacity) (nonzero : requested ≠ 0)
    (fits : requested ≤ buffer.remaining) :
    Lies (buffer.base.above buffer.used) requested ∧
      unitOf (buffer.base.above buffer.used) = unitOf buffer.base + buffer.used.toNat ∧
      (buffer.used + requested).toNat = buffer.used.toNat + requested.toNat := by
  have positive : 0 < requested.toNat := toNat_pos_of_ne_zero nonzero
  have used := UInt64.le_iff_toNat_le.mp buffer.used_le_capacity
  have rest := UInt64.le_iff_toNat_le.mp fits
  have bound := buffer.capacity.toNat_lt
  rw [toNat_remaining] at rest
  exact ⟨lies.above (by omega) (by omega), lies.unitOf_above (by omega),
    toNat_add_of_lt (by omega)⟩

/-- The regions of a buffer are the front of it, as far as it was used. -/
theorem owned_eq (fresh : buffer.Fresh) (reached : Grower.Reaches buffer regions after) :
    after.base = buffer.base ∧ after.capacity = buffer.capacity ∧
      owned regions = stretch buffer.base after.used := by
  induction reached with
  | fresh =>
    refine ⟨rfl, rfl, ?_⟩
    rw [fresh.unused]
    exact (Finset.Ico_self _).symm
  | granted _ granted inductionHypothesis =>
    obtain ⟨base, capacity, front⟩ := inductionHypothesis
    obtain ⟨nonzero, fits, rfl, baseAfter, capacityAfter, usedAfter⟩ := grow_ok granted
    refine ⟨baseAfter.trans base, capacityAfter.trans capacity, ?_⟩
    obtain ⟨lies, unit, sum⟩ :=
      next_lies (base ▸ capacity ▸ fresh.lies) nonzero fits
    rw [base] at unit ⊢
    ext place
    simp only [owned_cons, front, usedAfter, Finset.mem_union, Region.stretch, mem_stretch, unit,
      sum]
    omega
  | refused _ refused inductionHypothesis => exact grow_error refused ▸ inductionHypothesis
  | faulted _ faulted inductionHypothesis => exact grow_fault faulted ▸ inductionHypothesis

/-- A fixed buffer is sound. -/
theorem sound (fresh : buffer.Fresh) : Grower.Sound buffer := by
  refine ⟨fun {regions grower after requested region} reached granted => ?_⟩
  obtain ⟨base, capacity, front⟩ := owned_eq fresh reached
  obtain ⟨nonzero, fits, rfl, -, -, -⟩ := grow_ok granted
  obtain ⟨lies, unit, -⟩ := next_lies (base ▸ capacity ▸ fresh.lies) nonzero fits
  refine ⟨lies, UInt64.le_refl _, fun earlier member => ?_⟩
  have below : earlier.stretch ⊆ owned regions := fun place inside =>
    mem_covered.mpr ⟨_, List.mem_map_of_mem member, inside⟩
  rw [Finset.disjoint_left]
  intro place here there
  have front := front ▸ below there
  rw [Region.stretch, mem_stretch, unit, base] at here
  rw [mem_stretch] at front
  omega

/-- A fixed buffer that refuses stays as it is. -/
theorem steady (buffer : FixedBuffer) : Grower.Steady buffer id :=
  fun _ refused => grow_error refused

/-- A buffer has handed out as many units as it has counted. -/
theorem card_owned (fresh : buffer.Fresh) (reached : Grower.Reaches buffer regions after) :
    (owned regions).card = after.used.toNat := by
  rw [(owned_eq fresh reached).2.2, card_stretch]

/-- The first region of a buffer starts where the buffer does. -/
theorem first_start (fresh : buffer.Fresh) (reached : Grower.Reaches buffer regions after)
    {start : Address} (first : regions.getLast?.map Region.start = some start) :
    start = buffer.base := by
  induction reached with
  | fresh => cases first
  | @granted regions before after requested region reached granted inductionHypothesis =>
    cases regions with
    | cons later regions =>
      rw [List.getLast?_cons_cons] at first
      exact inductionHypothesis first
    | nil =>
      obtain ⟨base, -, front⟩ := owned_eq fresh reached
      obtain ⟨-, -, rfl, -⟩ := grow_ok granted
      -- Nothing has been handed out before, so that the region starts at the first unit.
      have none : before.used.toNat = 0 := by
        rw [← card_owned fresh reached]
        rfl
      have unused : before.used = 0 := UInt64.toNat_inj.mp none
      cases first
      show before.base.above before.used = buffer.base
      rw [unused, base, above_zero]
  | refused _ _ inductionHypothesis => exact inductionHypothesis first
  | faulted _ _ inductionHypothesis => exact inductionHypothesis first

/-- A buffer contains its own bytes and no others. -/
theorem contains_eq (within : buffer.base.toNat + 16 * buffer.capacity.toNat < 2 ^ 64)
    (address : Address) :
    buffer.contains address = .ok (decide (buffer.base.toNat ≤ address.toNat ∧
      address.toNat < buffer.base.toNat + 16 * buffer.capacity.toNat)) := by
  have unitSize : unitBytes.toNat = 16 := rfl
  have fits : buffer.capacity.toNat * unitBytes.toNat < 2 ^ 64 := by
    rw [unitSize]
    omega
  have bytes : (buffer.capacity * unitBytes).toNat = 16 * buffer.capacity.toNat := by
    rw [UInt64.toNat_mul, Nat.mod_eq_of_lt fits, unitSize, Nat.mul_comm]
  have small : buffer.base.toNat + (buffer.capacity * unitBytes).toNat < 2 ^ 64 := by omega
  have product : bytesOf buffer.capacity = .ok (buffer.capacity * unitBytes) := if_pos fits
  unfold contains
  simp only [product, plus_of_lt small, bind, Except.bind, pure, Except.pure,
    UInt64.le_iff_toNat_le, UInt64.lt_iff_toNat_lt, toNat_add_of_lt small, bytes, Bool.decide_and]

/-- However much of it was handed out, a buffer contains the same bytes. -/
theorem contains_reached (fresh : buffer.Fresh) (reached : Grower.Reaches buffer regions after)
    (address : Address) :
    after.contains address = .ok (decide (buffer.base.toNat ≤ address.toNat ∧
      address.toNat < buffer.base.toNat + 16 * buffer.capacity.toNat)) := by
  obtain ⟨base, capacity, -⟩ := owned_eq fresh reached
  have within := fresh.within
  rw [← base, ← capacity] at within ⊢
  exact contains_eq within address

/-- A buffer contains all that it has handed out. -/
theorem contains_of_owned (fresh : buffer.Fresh) (reached : Grower.Reaches buffer regions after)
    {address : Address} (inside : unitOf address ∈ owned regions) :
    after.contains address = .ok true := by
  obtain ⟨-, capacity, front⟩ := owned_eq fresh reached
  have used := UInt64.le_iff_toNat_le.mp after.used_le_capacity
  rw [capacity] at used
  rw [front, (fresh.lies.mono used).unitOf_mem_iff] at inside
  rw [contains_reached fresh reached, decide_eq_true (by omega)]

end FixedBuffer

/-- A buffer of 64 units in the second page. -/
def smallBuffer : FixedBuffer :=
  { base := 4096, capacity := 64 }

theorem smallBuffer_fresh : smallBuffer.Fresh :=
  ⟨by decide, by decide, by decide, rfl⟩

end NextFit
