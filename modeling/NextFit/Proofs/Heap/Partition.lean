/-
This file proves that a heap loses no unit and gives none away twice. However it is used,
the units that came from the grower are shared out between the sentinel, the blocks that
are live and the blocks that are free. So the growers' own counts add up: a fixed buffer
has used, and a heap of pages has mapped, as many units as there are in these blocks and
one more.
-/

import NextFit.Proofs.Grower.PageHeap
import NextFit.Proofs.Heap.Usage

namespace NextFit

variable {G E : Type} [Grower G E] {fresh : G} {session : Session G E} {list : FreeList}
  {blocks : List FreeBlock} {lent : Finset Nat} {grants : List Grant}

/-! ### Shares -/

/-- The units of a live block, as many as its header says. -/
def Grant.share (memory : Memory) (grant : Grant) : Finset Nat :=
  NextFit.stretch grant.header (memory.size grant.header)

/-- The units of all live blocks one by one, as their headers say. -/
def liveUnits (memory : Memory) (grants : List Grant) : Nat :=
  (grants.map fun grant => (memory.size grant.header).toNat).sum

theorem Grant.Live.share_eq {memory : Memory} {grant : Grant} (live : grant.Live memory) :
    grant.share memory = grant.stretch :=
  congrArg (NextFit.stretch grant.header) live.size_eq

/-- The grower's units are shared out between the sentinel, the live blocks and the free ones. -/
theorem Sustained.sharedOut (sustained : Sustained fresh grants session)
    (balanced : Balanced fresh session list blocks (lentTo grants)) :
    SharedOut (owned (grown session.log))
      ({unitOf list.sentinel} ::
        (grants.map (Grant.share session.heap.memory) ++ blocks.map FreeBlock.stretch)) := by
  have shares : grants.map (Grant.share session.heap.memory) = grants.map Grant.stretch :=
    List.map_congr_left fun grant member => (sustained.live grant member).share_eq
  have canonical := balanced.holds.canonical
  rw [shares]
  constructor
  · rw [covered_cons, covered_append, ← balanced.covers]
    rfl
  · have parts : Disjoint {unitOf list.sentinel}
        (covered (grants.map Grant.stretch ++ blocks.map FreeBlock.stretch)) := by
      rw [covered_append, Finset.disjoint_singleton_left, Finset.mem_union, not_or]
      exact ⟨balanced.sentinelApart, canonical.sentinel_notMem⟩
    refine List.pairwise_cons.mpr ⟨disjoint_covered.mp parts, List.pairwise_append.mpr
      ⟨sustained.apart, canonical.pairwise_disjoint, fun part member => ?_⟩⟩
    have inside : part ⊆ lentTo grants := fun unit here => mem_covered.mpr ⟨part, member, here⟩
    exact disjoint_covered.mp (balanced.apart.mono_left inside)

/-- Counted one by one, the shares are the units of the grower. -/
theorem Sustained.card_owned (sustained : Sustained fresh grants session)
    (balanced : Balanced fresh session list blocks (lentTo grants)) :
    (owned (grown session.log)).card =
      1 + liveUnits session.heap.memory grants + (freeUnits blocks).card := by
  rw [(sustained.sharedOut balanced).card_eq, List.map_cons, List.sum_cons, List.map_append,
    List.sum_append, freeUnits, card_covered balanced.holds.canonical.pairwise_disjoint,
    List.map_map, Nat.add_assoc]
  congr 2
  exact congrArg List.sum (List.map_congr_left fun grant _ => card_stretch _ _)

/-! ### Partition -/

/-- At any time at which there is a free list, the units that came from a sound grower are shared
out between the sentinel, the live blocks and the free blocks. Fixed buffers are sound, and so are
heaps of pages on a sound system, and for both of them the shares add up to their own counts. A
page of 4096 bytes has 256 units. -/
theorem units_shared_out :
    (∀ {G E : Type} [Grower G E] {fresh : G} {grants : List Grant} {session : Session G E},
        Grower.Sound fresh → Reached fresh grants session → session.heap.free ≠ none →
      Grower.Reaches fresh (grown session.log) session.heap.grower ∧
        ∃ list blocks, session.heap.free = some list ∧
          session.heap.freeBlocks = .ok (some blocks) ∧
          SharedOut (owned (grown session.log))
            ({unitOf list.sentinel} ::
              (grants.map (Grant.share session.heap.memory) ++ blocks.map FreeBlock.stretch))) ∧
    (∀ {fresh : FixedBuffer}, fresh.Fresh → Grower.Sound fresh ∧
      ∀ {grants : List Grant} {session : Session FixedBuffer Exhausted},
        Reached fresh grants session → session.heap.free ≠ none →
        ∃ survey, session.heap.survey = .ok survey ∧
          session.heap.grower.used.toNat =
            1 + liveUnits session.heap.memory grants + survey.totals.units.toNat) ∧
    (∀ {S : Type} [Mapper S] {fresh : PageHeap S}, fresh.Fresh → Grower.Sound fresh ∧
      ∀ {grants : List Grant} {session : Session (PageHeap S) MapError},
        Reached fresh grants session → session.heap.free ≠ none →
        ∃ survey, session.heap.survey = .ok survey ∧
          (Mapper.pageSize S).bytes.toNat * session.heap.grower.pages.toNat =
            16 * (1 + liveUnits session.heap.memory grants + survey.totals.units.toNat) ∧
          ((Mapper.pageSize S).bytes = 4096 →
            session.heap.grower.pages.toNat * 256 =
              1 + liveUnits session.heap.memory grants + survey.totals.units.toNat)) := by
  refine ⟨fun sound reached started => ?_, fun fresh => ⟨FixedBuffer.sound fresh,
    fun reached started => ?_⟩, fun fresh => ⟨PageHeap.sound fresh, fun reached started => ?_⟩⟩
  · have sustained := reached.sustained sound
    obtain ⟨list, blocks, balanced⟩ := sustained.exists_balanced started
    exact ⟨balanced.grower, list, blocks, balanced.free, balanced.freeBlocks_eq,
      sustained.sharedOut balanced⟩
  · have sustained := reached.sustained (FixedBuffer.sound fresh)
    obtain ⟨list, blocks, balanced⟩ := sustained.exists_balanced started
    obtain ⟨survey, surveyed, units⟩ := balanced.survey_eq
    refine ⟨survey, surveyed, ?_⟩
    rw [units, ← sustained.card_owned balanced]
    exact (FixedBuffer.card_owned fresh balanced.grower).symm
  · have sustained := reached.sustained (PageHeap.sound fresh)
    obtain ⟨list, blocks, balanced⟩ := sustained.exists_balanced started
    obtain ⟨survey, surveyed, units⟩ := balanced.survey_eq
    have pages := PageHeap.card_owned fresh balanced.grower
    rw [sustained.card_owned balanced, ← units] at pages
    refine ⟨survey, surveyed, pages.symm, fun paged => ?_⟩
    have pageSize : (4096 : Word).toNat = 4096 := rfl
    rw [paged, pageSize] at pages
    omega

theorem units_shared_out_after_resize :
    (∃ (grants : List Grant) (session : Session FixedBuffer Exhausted),
      Reached smallBuffer grants session ∧ grants.length = 2 ∧
        (∃ list blocks, session.heap.free = some list ∧
          session.heap.freeBlocks = .ok (some blocks) ∧
          SharedOut (owned (grown session.log))
            ({unitOf list.sentinel} ::
              (grants.map (Grant.share session.heap.memory) ++ blocks.map FreeBlock.stretch))) ∧
        ∃ survey, session.heap.survey = .ok survey ∧
          session.heap.grower.used.toNat =
            1 + liveUnits session.heap.memory grants + survey.totals.units.toNat) ∧
    ∃ (grants : List Grant) (session : Session (PageHeap PlannedMapper) MapError) (survey : Survey),
      Reached singlePage grants session ∧ grants.length = 1 ∧ session.heap.survey = .ok survey ∧
        session.heap.grower.pages.toNat * 256 =
          1 + liveUnits session.heap.memory grants + survey.totals.units.toNat := by
  have pagesFresh : singlePage.Fresh := ⟨singleMapping_sound, by decide, rfl, rfl⟩
  obtain ⟨parts, buffers, pages⟩ := units_shared_out
  obtain ⟨grants, session, reached, two, -, -, started⟩ := exists_reached_smallBuffer
  have mapped := (Reached.start {} : Reached singlePage [] _).serve (.allocate 40)
    ⟨nofun, rfl, nofun⟩
  obtain ⟨survey, surveyed, -, count⟩ := (pages pagesFresh).2 mapped (by decide +kernel)
  exact ⟨⟨grants, session, reached, two,
    (parts (buffers smallBuffer_fresh).1 reached started).2,
    (buffers smallBuffer_fresh).2 reached started⟩,
    _, _, survey, mapped, by decide +kernel, surveyed, count rfl⟩

end NextFit
