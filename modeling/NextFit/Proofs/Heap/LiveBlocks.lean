/-
This file proves that a live block is what its owner asked for last, whatever has become of
its neighbours since: its header has the tag and the size for the request, the caller may
use the bytes up to the next multiple of a unit, the payload is aligned, and all of the
block is memory of the grower.
-/

import NextFit.Proofs.Heap.Usage

namespace NextFit

variable {G E : Type} [Grower G E] {fresh : G} {session : Session G E} {grants : List Grant}
  {grant : Grant}

theorem toNat_max_dvd {first second : Word} {value : Nat} (firstDivides : first.toNat ∣ value)
    (secondDivides : second.toNat ∣ value) : (max first second).toNat ∣ value := by
  have larger : max first second = if first ≤ second then second else first := rfl
  rw [larger]
  split
  · exact secondDivides
  · exact firstDivides

theorem Grant.Live.sixteen_dvd {memory : Memory} (live : grant.Live memory) :
    16 ∣ grant.payload.toNat := by
  have payload := live.lies.toNat_payload (two_le_unitsFor live.nonzero)
  have aligned := live.lies.aligned
  rw [Grant.header, payloadAbove_headerBelow] at payload
  rw [Grant.header] at aligned
  omega

/-- At any time every live block over a sound grower is as it was asked for, and lies in a region
that came from the grower. If the grower is a fixed buffer, the buffer contains all bytes of the
block, and none but its own. -/
theorem live_as_asked :
    (∀ {G E : Type} [Grower G E] {fresh : G} {grants : List Grant} {session : Session G E}
        {grant : Grant}, Grower.Sound fresh → Reached fresh grants session → grant ∈ grants →
      Grower.Reaches fresh (grown session.log) session.heap.grower ∧
      ∃ units usable, blockUnits grant.size = .ok (some units) ∧
        session.heap.memory.header (headerBelow grant.payload) =
          { next := liveTag, size := units } ∧
        session.heap.usableSize grant.payload = .ok usable ∧
        usable.toNat = (grant.size.toNat + 15) / 16 * 16 ∧
        (max grant.alignment headerAlignment).toNat ∣ grant.payload.toNat ∧
        ∀ address : Address, (headerBelow grant.payload).toNat ≤ address.toNat →
          address.toNat < (headerBelow grant.payload).toNat + 16 * units.toNat →
          ∃ region ∈ grown session.log, region.start.toNat ≤ address.toNat ∧
            address.toNat < region.start.toNat + 16 * region.units.toNat) ∧
    (∀ {fresh : FixedBuffer} {grants : List Grant} {session : Session FixedBuffer Exhausted},
        fresh.Fresh → Reached fresh grants session →
      (∀ address : Address, session.heap.grower.contains address =
        .ok (decide (fresh.base.toNat ≤ address.toNat ∧
          address.toNat < fresh.base.toNat + 16 * fresh.capacity.toNat))) ∧
      ∀ grant ∈ grants, ∀ address : Address, (headerBelow grant.payload).toNat ≤ address.toNat →
        address.toNat < (headerBelow grant.payload).toNat +
          16 * (session.heap.memory.size (headerBelow grant.payload)).toNat →
        session.heap.grower.contains address = .ok true) := by
  constructor
  · intro G E _ fresh grants session grant sound reached member
    have sustained := reached.sustained sound
    have live := sustained.live grant member
    obtain ⟨usable, computed, room⟩ := live.usableSize_eq
    refine ⟨sustained.kept.grower, unitsFor grant.size, usable, ?_, live.header_eq, computed, ?_,
      toNat_max_dvd live.aligned live.sixteen_dvd, fun address low high => ?_⟩
    · rw [blockUnits_eq, if_pos live.fits]
    · rw [room, toNat_unitsFor]
      omega
    · exact (sound.unitOf_mem_iff sustained.kept.grower).mp (sustained.kept.subset_owned
        (stretch_subset_lentTo member (live.lies.unitOf_mem_iff.mpr ⟨low, high⟩)))
  · intro fresh grants session bufferFresh reached
    have sustained := reached.sustained (FixedBuffer.sound bufferFresh)
    refine ⟨FixedBuffer.contains_reached bufferFresh sustained.kept.grower,
      fun grant member address low high => ?_⟩
    have live := sustained.live grant member
    have size : session.heap.memory.size (headerBelow grant.payload) = unitsFor grant.size :=
      congrArg Header.size live.header_eq
    rw [size] at high
    exact FixedBuffer.contains_of_owned bufferFresh sustained.kept.grower
      (sustained.kept.subset_owned (stretch_subset_lentTo member
        (live.lies.unitOf_mem_iff.mpr ⟨low, high⟩)))

/-- A block that was shrunk between two others, with the first byte after the buffer. -/
theorem live_as_asked_after_resize :
    ∃ (grants : List Grant) (session : Session FixedBuffer Exhausted),
      Reached smallBuffer grants session ∧ ⟨4128, 8, 16⟩ ∈ grants ∧
        (∃ usable, session.heap.usableSize 4128 = .ok usable ∧ usable.toNat = 16) ∧
        session.heap.grower.contains 4143 = .ok true ∧
        session.heap.grower.contains 5120 = .ok false := by
  obtain ⟨grants, session, reached, -, listed, size, -⟩ := exists_reached_smallBuffer
  obtain ⟨blocks, buffers⟩ := live_as_asked
  obtain ⟨-, units, usable, -, -, computed, room, -⟩ :=
    blocks (FixedBuffer.sound smallBuffer_fresh) reached listed
  obtain ⟨contains, inside⟩ := buffers smallBuffer_fresh reached
  exact ⟨grants, session, reached, listed, ⟨usable, computed, room⟩,
    inside _ listed 4143 (by decide) (size ▸ by decide), contains 5120⟩

end NextFit
