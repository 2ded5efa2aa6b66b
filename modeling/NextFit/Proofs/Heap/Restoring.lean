/-
This file proves that a heap keeps no trace of what its callers have done in the meantime.
The free units are those that came from the grower and are neither the sentinel nor in a
live block, and the free units alone determine the free list. So once the same blocks are
live again, in whatever order the others were handed out, moved and freed, the list is what
it was, with the memory merged into it that has come from the grower since.
-/

import NextFit.Proofs.FreeList.History
import NextFit.Proofs.Heap.Partition
import NextFit.Proofs.Heap.Uses

namespace NextFit

variable {G E : Type} [Grower G E] {fresh : G} {session after : Session G E}
  {list listAfter : FreeList} {blocks blocksAfter : List FreeBlock} {lent : Finset Nat}
  {grants grantsAfter : List Grant} {exchanges : List Exchange}

/-! ### Live blocks -/

/-- The payloads that are live, each with the units that the header of its block tells of. -/
def liveBlocks (memory : Memory) (grants : List Grant) : List (Address × Word) :=
  grants.map fun grant => (grant.payload, memory.size grant.header)

theorem mem_lentTo_iff_liveBlocks (sustained : Sustained fresh grants session) {unit : Nat} :
    unit ∈ lentTo grants ↔ ∃ block ∈ liveBlocks session.heap.memory grants,
      unit ∈ stretch (headerBelow block.1) block.2 := by
  rw [mem_lentTo, liveBlocks]
  simp only [List.mem_map, exists_exists_and_eq_and]
  refine exists_congr fun grant => and_congr_right fun member => ?_
  rw [← (sustained.live grant member).share_eq]
  rfl

/-- The live blocks determine what is lent. -/
theorem Sustained.lentTo_eq (sustained : Sustained fresh grants session)
    (sustainedAfter : Sustained fresh grantsAfter after)
    (same : ∀ block, block ∈ liveBlocks after.heap.memory grantsAfter ↔
      block ∈ liveBlocks session.heap.memory grants) :
    lentTo grantsAfter = lentTo grants := by
  ext unit
  simp only [mem_lentTo_iff_liveBlocks sustained, mem_lentTo_iff_liveBlocks sustainedAfter, same]

/-! ### Free units -/

/-- What was free at some time and what has come from the grower since is all that came from the
grower, but for the sentinel and what was lent then. -/
theorem Balanced.freeUnits_union (balanced : Balanced fresh session list blocks lent)
    (sound : Grower.Sound fresh)
    (grower : Grower.Reaches fresh (grown after.log) after.heap.grower)
    {events : List (Event E)} (log : after.log = session.log ++ events) :
    freeUnits blocks ∪ owned (grown events) =
      owned (grown after.log) \ insert (unitOf list.sentinel) lent := by
  have regions : grown after.log = grown events ++ grown session.log := by
    rw [log, grown_append_log]
  have disjoint := sound.pairwise_disjoint grower
  rw [regions, List.map_append, List.pairwise_append] at disjoint
  obtain ⟨-, -, apart⟩ := disjoint
  have fromThen : Disjoint (owned (grown events)) (owned (grown session.log)) :=
    disjoint_covered.mpr fun earlier member => Disjoint.symm <|
      disjoint_covered.mpr fun later listed => (apart later listed earlier member).symm
  have taken : insert (unitOf list.sentinel) lent ⊆ owned (grown session.log) := by
    rw [← balanced.covers, ← Finset.insert_union]
    exact Finset.subset_union_left
  rw [balanced.freeUnits_eq, log, owned_grown_append, Finset.union_sdiff_distrib,
    Finset.sdiff_eq_self_of_disjoint (fromThen.mono_right taken), Finset.union_comm]

/-- With the same units lent, what has come from the grower since is free as well. -/
theorem Balanced.freeUnits_later (balanced : Balanced fresh session list blocks lent)
    (balancedAfter : Balanced fresh after listAfter blocksAfter lent)
    (root : listAfter.sentinel = list.sentinel) (sound : Grower.Sound fresh)
    {events : List (Event E)} (log : after.log = session.log ++ events) :
    freeUnits blocksAfter = freeUnits blocks ∪ owned (grown events) := by
  rw [balancedAfter.freeUnits_eq, root, balanced.freeUnits_union sound balancedAfter.grower log]

/-- If nothing is lent, a fixed buffer has one free block at most: all of its front but for the
unit of the sentinel. -/
theorem FixedBuffer.freeBlocks_of_none_lent {fresh : FixedBuffer} (unused : fresh.Fresh)
    {session : Session FixedBuffer Exhausted}
    (balanced : Balanced fresh session list blocks ∅) :
    blocks = if session.heap.grower.used = 1 then [] else
      [{ header := list.sentinel.above 1, units := session.heap.grower.used - 1 }] := by
  have one : (1 : Word).toNat = 1 := rfl
  obtain ⟨base, capacity, front⟩ := FixedBuffer.owned_eq unused balanced.grower
  have start := FixedBuffer.first_start unused balanced.grower balanced.root
  have covers := balanced.covers
  rw [Finset.empty_union, front, start] at covers
  have used := UInt64.le_iff_toNat_le.mp session.heap.grower.used_le_capacity
  rw [capacity] at used
  have nonempty : 1 ≤ session.heap.grower.used := by
    have inside : unitOf fresh.base ∈ stretch fresh.base session.heap.grower.used :=
      covers ▸ Finset.mem_insert_self _ _
    rw [mem_stretch] at inside
    rw [UInt64.le_iff_toNat_le, one]
    omega
  -- These are the free blocks of a heap whose first region is the whole front.
  have lies : Lies (Region.mk fresh.base session.heap.grower.used).start
    session.heap.grower.used := unused.lies.mono used
  obtain ⟨restCanonical, restUnits⟩ := Region.rest_spec lies nonempty
  have canonical := balanced.holds.canonical
  rw [start] at canonical ⊢
  have sameUnits : freeUnits blocks =
      freeUnits (Region.rest ⟨fresh.base, session.heap.grower.used⟩) := by
    rw [← Finset.erase_insert canonical.sentinel_notMem, covers,
      ← Finset.erase_insert restCanonical.sentinel_notMem, restUnits]
    rfl
  rw [canonical.eq_of_freeUnits_eq restCanonical sameUnits, Region.rest]
  by_cases only : session.heap.grower.used = 1
  · rw [if_pos only, if_neg (only ▸ UInt64.lt_irrefl 1)]
  · rw [if_neg only, if_pos (UInt64.lt_of_le_of_ne nonempty fun same => only same.symm)]

/-! ### Uses that leave the same blocks live -/

/-- However a heap over a sound grower was used from some time on, once the same blocks are live as
then, its free blocks are the maximal runs of the units that were free then and of those that came
from the grower since, in the order of the list. If none came, they are the same blocks as then.
In a fixed buffer in which nothing is live, one block at most is free: all that was used of the
buffer, but for the sentinel. -/
theorem free_blocks_restored :
    (∀ {G E : Type} [Grower G E] {fresh : G} {grants grantsAfter : List Grant}
        {session after : Session G E} {exchanges : List Exchange},
      Grower.Sound fresh → Reached fresh grants session → session.heap.free ≠ none →
      Uses grants session exchanges grantsAfter after →
      (∀ block, block ∈ liveBlocks after.heap.memory grantsAfter ↔
        block ∈ liveBlocks session.heap.memory grants) →
      ∃ list blocks listAfter events above below,
        session.heap.free = some list ∧ session.heap.freeBlocks = .ok (some blocks) ∧
        after.heap.free = some listAfter ∧ after.log = session.log ++ events ∧
        Grower.Reaches fresh (grown after.log) after.heap.grower ∧
        listAfter.Shows after.heap.memory list.sentinel (freeUnits blocks ∪ owned (grown events))
          above below ∧
        after.heap.freeBlocks = .ok (some (above ++ below)) ∧
        (grown after.log = grown session.log →
          after.heap.freeBlocks = session.heap.freeBlocks)) ∧
    (∀ {fresh : FixedBuffer} {session : Session FixedBuffer Exhausted}, fresh.Fresh →
      Reached fresh [] session → session.heap.free ≠ none →
      ∃ list, session.heap.free = some list ∧ session.heap.freeBlocks =
        .ok (some (if session.heap.grower.used = 1 then [] else
          [{ header := list.sentinel.above 1, units := session.heap.grower.used - 1 }]))) := by
  constructor
  · intro G E _ fresh grants grantsAfter session after exchanges sound reached started uses same
    have sustained := reached.sustained sound
    have sustainedAfter := (reached.uses uses).sustained sound
    have longer := reached.log_of_uses sound uses
    obtain ⟨list, blocks, balanced⟩ := sustained.exists_balanced started
    obtain ⟨listAfter, blocksAfter, balancedAfter, root⟩ :=
      balanced.exists_later sustainedAfter.kept longer
    rw [sustained.lentTo_eq sustainedAfter same] at balancedAfter
    obtain ⟨events, log⟩ := longer
    have units := balanced.freeUnits_later balancedAfter root sound log.symm
    obtain ⟨above, below, shows⟩ := balancedAfter.holds.exists_shows
    have listed : after.heap.freeBlocks = .ok (some (above ++ below)) := by
      have both := shows.blocks_eq
      rw [balancedAfter.holds.blocks_eq] at both
      cases both
      exact balancedAfter.freeBlocks_eq
    rw [units, root] at shows
    refine ⟨list, blocks, listAfter, events, above, below, balanced.free, balanced.freeBlocks_eq,
      balancedAfter.free, log.symm, balancedAfter.grower, shows, listed, fun same => ?_⟩
    have canonicalAfter := balancedAfter.holds.canonical
    rw [← log, grown_append_log] at same
    have nothing : grown events = [] := List.append_cancel_right same
    rw [nothing, show owned [] = ∅ from rfl, Finset.union_empty] at units
    rw [root] at canonicalAfter
    rw [balanced.freeBlocks_eq, balancedAfter.freeBlocks_eq,
      canonicalAfter.eq_of_freeUnits_eq balanced.holds.canonical units]
  · intro fresh session unused reached started
    have sustained := reached.sustained (FixedBuffer.sound unused)
    obtain ⟨list, blocks, balanced⟩ := sustained.exists_balanced started
    refine ⟨list, balanced.free, ?_⟩
    rw [balanced.freeBlocks_eq]
    exact congrArg (Except.ok ∘ some) (FixedBuffer.freeBlocks_of_none_lent unused balanced)

/-- A small buffer in which two blocks were handed out and freed, and another one was handed out and
freed between these calls. -/
theorem free_blocks_restored_smallBuffer :
    (∃ (grants : List Grant) (session after : Session FixedBuffer Exhausted)
        (exchanges : List Exchange),
      Reached smallBuffer grants session ∧ grants.length = 1 ∧
        Uses grants session exchanges grants after ∧ exchanges.length = 2 ∧
        after.heap.freeBlocks = session.heap.freeBlocks) ∧
    ∃ (session : Session FixedBuffer Exhausted) (list : FreeList),
      Reached smallBuffer [] session ∧ session.heap.free = some list ∧
        session.heap.freeBlocks = .ok (some [{ header := list.sentinel.above 1, units := 14 }]) := by
  obtain ⟨restored, buffers⟩ := free_blocks_restored
  have allocated := (Reached.start {} : Reached smallBuffer [] _).serve (.allocate 200)
    ⟨nofun, rfl, nofun⟩
  have freed := allocated.serve (.release (some 4128))
    ⟨by rintro _ ⟨⟩; decide +kernel, rfl, nofun⟩
  have again := freed.serve (.allocate 40) ⟨nofun, rfl, nofun⟩
  have unused : ∀ {grants : List Grant} {session : Session FixedBuffer Exhausted},
      Reached smallBuffer grants session → Uses grants session [] grants session := fun _ => .done
  have carved := (unused again).call (.allocateAligned 20 64) rfl ⟨nofun, rfl, nofun⟩
  have returned := carved.call (.release (some 4224)) rfl
    ⟨by rintro _ ⟨⟩; decide +kernel, rfl, nofun⟩
  obtain ⟨-, -, -, -, -, -, -, -, -, -, -, -, -, quiet⟩ :=
    restored (FixedBuffer.sound smallBuffer_fresh) again (by decide +kernel) returned
      fun block => Iff.of_eq (congrArg (block ∈ ·) (by decide +kernel))
  obtain ⟨list, here, listed⟩ := buffers smallBuffer_fresh freed (by decide +kernel)
  exact ⟨⟨_, _, _, _, again, by decide +kernel, returned, rfl, quiet (by decide +kernel)⟩,
    _, list, freed, here, listed⟩

end NextFit
