/-
This file says exactly where an aligned request puts its block in the units that were taken for
it. The payload is the first aligned address at which it can stand, the spare units below
and above the block add up to what was taken too much, and all of them are free again. None
of the sums on the way runs past the last word, however large the alignment is and wherever
the units lie.
-/

import NextFit.Proofs.Heap.Failure
import NextFit.Proofs.Heap.Restoring
import Mathlib.Order.Bounds.Basic

namespace NextFit

variable {G E : Type} [Grower G E] {fresh : G} {session middle after : Session G E}
  {list listAfter : FreeList} {blocks blocksAfter : List FreeBlock} {lent : Finset Nat}
  {grants : List Grant} {header payload : Address} {size total units alignment : Word}

/-! ### The place of the block -/

/-- How the block of an aligned payload lies in some units that were taken for it. -/
structure Carved (header : Address) (total units alignment lead trail : Word) (payload : Address) :
    Prop where
  /-- The units that were taken end within the address space. -/
  within : header.toNat + 16 * total.toNat ≤ 2 ^ 64
  /-- The payload is the least multiple of the alignment that leaves room for a header. -/
  least : IsLeast {multiple : Nat | alignment.toNat ∣ multiple ∧ header.toNat + 16 ≤ multiple}
    payload.toNat
  /-- The block lies inside the units that were taken. -/
  inside : header.toNat ≤ (headerBelow payload).toNat ∧
    (headerBelow payload).toNat + 16 * units.toNat ≤ header.toNat + 16 * total.toNat
  /-- The padding is computed without a fault, and it is the bytes of the lead. -/
  padding_eq : ∃ bytes, padding (payloadAbove header) alignment = .ok bytes ∧
    lead = bytes / unitBytes ∧ bytes.toNat = 16 * lead.toNat
  lead_eq : (headerBelow payload).toNat = header.toNat + 16 * lead.toNat
  lead_le : lead.toNat ≤ alignment.toNat / 16 - 1
  /-- So is the trail. -/
  trail_eq : (do minus (← minus total lead) units) = .ok trail
  sum : lead.toNat + units.toNat + trail.toNat = total.toNat

/-- A block with a lead has its payload at the first aligned address. -/
theorem Pads.carved {alignment : Alignment} {bytes trail : Word}
    (pads : Pads header total units alignment bytes)
    (carving : Carving header total units (bytes / unitBytes) trail) (lies : Lies header total)
    (more : 2 ≤ units.toNat) :
    Carved header total units alignment.value (bytes / unitBytes) trail
      (payloadAbove (header.above (bytes / unitBytes))) := by
  have place : (header.above (bytes / unitBytes)).toNat =
      header.toNat + 16 * (bytes / unitBytes).toNat := by
    rw [carving.carvedLies.toNat_eq, carving.place, Nat.mul_add, ← lies.toNat_eq]
  have payload := carving.carvedLies.toNat_payload more
  rw [place] at payload
  have few := pads.few
  have bound := pads.bound
  have multiple := pads.multiple
  rw [← payload] at multiple
  refine ⟨lies.within, ⟨⟨multiple, by omega⟩, ?_⟩, ?_, ⟨bytes, ?_, rfl, pads.whole⟩, ?_, few,
    carving.difference, carving.sum⟩
  · -- Two multiples of the alignment are at least the alignment apart.
    rintro other ⟨divides, high⟩
    by_contra below
    rw [Nat.not_le] at below
    have gap := Nat.le_of_dvd (Nat.sub_pos_of_lt below) (Nat.dvd_sub multiple divides)
    omega
  · rw [headerBelow_payloadAbove, place]
    omega
  · rw [padding, Alignment.ofWord_eq alignment.power]
    exact pads.padding_eq
  · rw [headerBelow_payloadAbove, place]

/-! ### The units that were taken -/

/-- Whoever gets some units from a heap with a free list has been lent them. -/
theorem Balanced.obtain_lends (balanced : Balanced fresh session list blocks lent)
    (sound : Grower.Sound fresh) (nonzero : total ≠ 0)
    (obtained : Action.obtain total session = .ok (some header) middle) :
    ∃ block, Lends fresh session middle lent block total header := by
  rcases FreeList.large_or_small blocks total with large | small
  · obtain ⟨block, -, _, _, result, -, lends⟩ := balanced.obtain_found nonzero large
    rw [obtained] at result
    cases result
    exact ⟨block, lends⟩
  · cases answered : Grower.grow total session.heap.grower with
    | error fault grower =>
      rw [balanced.obtain_faulted nonzero small answered] at obtained
      cases obtained
    | ok answer grower =>
      cases answer with
      | error error =>
        rw [balanced.obtain_refused nonzero small answered] at obtained
        cases obtained
      | ok region =>
        obtain ⟨block, _, _, result, -, -, -, lends⟩ :=
          balanced.obtain_granted sound nonzero small answered
        rw [obtained] at result
        cases result
        exact ⟨block, lends⟩

/-- So has whoever gets the first units of all. -/
theorem Kept.obtain_lends (kept : Kept fresh session lent) (sound : Grower.Sound fresh)
    (nonzero : total ≠ 0) (obtained : Action.obtain total session = .ok (some header) middle) :
    ∃ block, Lends fresh session middle lent block total header := by
  cases kept with
  | balanced balanced => exact balanced.obtain_lends sound nonzero obtained
  | idle idle =>
    cases answered : Grower.grow 1 session.heap.grower with
    | error fault grower =>
      rw [idle.obtain_faulted answered] at obtained
      cases obtained
    | ok answer grower =>
      cases answer with
      | error error =>
        rw [idle.obtain_refused answered] at obtained
        cases obtained
      | ok region =>
        obtain ⟨started, starts, onward⟩ := idle.obtain_granted sound answered
        rw [onward] at obtained
        obtain ⟨block, lends⟩ := starts.balanced.obtain_lends sound nonzero obtained
        exact ⟨block, { lends with
          spares := nofun
          confined := starts.confined.trans lends.confined }⟩

/-- A request that handed out a block took the units that it demands and went on with them. -/
theorem Heap.exists_obtained (power : isPowerOfTwo alignment = true) (nonzero : size ≠ 0)
    (answered : Heap.allocateAligned size alignment session = .ok (some payload) after) :
    ∃ total header middle, Heap.demand size alignment = some total ∧
      Action.obtain total session = .ok (some header) middle ∧
      Heap.finish size total ⟨alignment, power⟩ header middle = .ok (some payload) after := by
  cases demanded : Heap.demand size alignment with
  | none =>
    obtain ⟨event, -, result⟩ := Heap.allocateAligned_refused power (Or.inr demanded) session
    rw [answered] at result
    cases result
  | some total =>
    rw [Heap.allocateAligned_eq power nonzero demanded] at answered
    cases obtained : Action.obtain total session with
    | error fault middle =>
      rw [bind_of_error obtained] at answered
      cases answered
    | ok found middle =>
      rw [bind_of_ok obtained] at answered
      cases found with
      | none => cases answered
      | some header => exact ⟨total, header, middle, rfl, obtained, answered⟩

/-! ### Free units -/

/-- The unit that became the sentinel, if there was no list before. -/
def newRoot (before : Option FreeList) (after : FreeList) : Finset Nat :=
  if before = none then {unitOf after.sentinel} else ∅

/-- What was free before a call and what has come from the grower during the call is all that came
from the grower, but for the sentinel and what was lent. -/
theorem Kept.freeUnits_union {lentAfter : Finset Nat} (kept : Kept fresh session lent)
    (balancedAfter : Balanced fresh after listAfter blocksAfter lentAfter)
    (sound : Grower.Sound fresh) {events : List (Event E)}
    (log : after.log = session.log ++ events) :
    ∃ found, session.heap.freeBlocks = .ok found ∧
      (freeUnits (found.getD []) ∪ owned (grown events)) \ newRoot session.heap.free listAfter =
        owned (grown after.log) \ insert (unitOf listAfter.sentinel) lent := by
  cases kept with
  | balanced balanced =>
    have root := balanced.sentinel_eq balancedAfter ⟨events, log.symm⟩
    have nothing : newRoot session.heap.free listAfter = ∅ := by
      rw [newRoot, balanced.free, if_neg (Option.some_ne_none _)]
    refine ⟨some _, balanced.freeBlocks_eq, ?_⟩
    rw [nothing, Finset.sdiff_empty, root]
    exact balanced.freeUnits_union sound balancedAfter.grower log
  | idle idle =>
    have regions : grown after.log = grown events := by
      rw [log, grown_append_log, idle.nothing, List.append_nil]
    have nothing : session.heap.freeBlocks = .ok none := by
      rw [Heap.freeBlocks, idle.free]
    refine ⟨none, nothing, ?_⟩
    rw [newRoot, if_pos idle.free, regions]
    exact congrArg (· \ _) (Finset.empty_union _)

/-- A call took just the given units: what was free before it and what has come from the grower
during it is free after it, but for these units and for a new sentinel. -/
structure TakesOnly (before after : Session G E) (taken : Finset Nat) : Prop where
  free_eq : ∃ found events listAfter blocksAfter, before.heap.freeBlocks = .ok found ∧
    after.log = before.log ++ events ∧ after.heap.free = some listAfter ∧
    after.heap.freeBlocks = .ok (some blocksAfter) ∧
    taken ⊆ (freeUnits (found.getD []) ∪ owned (grown events)) \
      newRoot before.heap.free listAfter ∧
    freeUnits blocksAfter = ((freeUnits (found.getD []) ∪ owned (grown events)) \
      newRoot before.heap.free listAfter) \ taken

/-- A call that handed out a block took just the units of the block. -/
theorem HandsOut.takesOnly {grant : Grant} (hands : HandsOut fresh session after lent grant)
    (kept : Kept fresh session lent) (sound : Grower.Sound fresh) :
    TakesOnly session after grant.stretch := by
  obtain ⟨listAfter, blocksAfter, balancedAfter⟩ := hands.balanced
  obtain ⟨events, log⟩ := hands.confined.log
  obtain ⟨found, shown, whole⟩ := kept.freeUnits_union balancedAfter sound log.symm
  refine ⟨found, events, listAfter, blocksAfter, shown, log.symm, balancedAfter.free,
    balancedAfter.freeBlocks_eq, ?_, ?_⟩
  · rw [whole]
    refine fun unit inside => Finset.mem_sdiff.mpr ⟨?_, ?_⟩
    · rw [← balancedAfter.covers]
      exact Finset.mem_insert_of_mem
        (Finset.mem_union_left _ (Finset.mem_union_left _ inside))
    · rw [Finset.mem_insert, not_or]
      refine ⟨fun root => balancedAfter.sentinelApart ?_,
        Finset.disjoint_left.mp hands.apart inside⟩
      exact root ▸ Finset.mem_union_left _ inside
  · rw [whole, balancedAfter.freeUnits_eq, Finset.union_comm, ← Finset.insert_union]
    exact sdiff_sdiff_left.symm

/-! ### At any time -/

/-- At any time an aligned request that hands out a block has taken the units that it demands off
the free list, carved the block out of them exactly where it should be, and put all others back.
No request fails that has got the units. -/
theorem Reached.carves_exactly (reached : Reached fresh grants session)
    (sound : Grower.Sound fresh) (power : isPowerOfTwo alignment = true)
    (large : headerAlignment < alignment) (nonzero : size ≠ 0) :
    (∀ payload after, Heap.allocateAligned size alignment session = .ok (some payload) after →
      ∃ units total header middle lead trail,
        blockUnits size = .ok (some units) ∧
        Heap.alignedUnits size ⟨alignment, power⟩ = .ok (some (units, total)) ∧
        total.toNat = units.toNat + (alignment.toNat / 16 - 1) ∧
        Action.obtain total session = .ok (some header) middle ∧
        middle.heap.memory.size header = total ∧
        Carved header total units alignment lead trail payload ∧
        TakesOnly session after (stretch (headerBelow payload) units)) ∧
    ∀ units total header middle,
      Heap.alignedUnits size ⟨alignment, power⟩ = .ok (some (units, total)) →
      Action.obtain total session = .ok (some header) middle →
      ∃ payload after, Heap.allocateAligned size alignment session = .ok (some payload) after := by
  have kept := (reached.sustained sound).kept
  have beyond := UInt64.not_le.mpr large
  have aligned : Heap.alignedUnits size ⟨alignment, power⟩ = _ := Heap.alignedUnits_eq_demand beyond
  refine ⟨fun payload after answered => ?_, fun units total header middle needed obtained => ?_⟩
  · obtain ⟨total, header, middle, demanded, obtained, finished⟩ :=
      Heap.exists_obtained power nonzero answered
    obtain ⟨fits, sum⟩ := Heap.fits_of_demand demanded
    rw [if_neg beyond] at sum
    obtain ⟨block, lends⟩ := kept.obtain_lends sound (Heap.demand_ne_zero demanded) obtained
    obtain ⟨bytes, trail, _, result, pads, carving, -, hands⟩ :=
      lends.finish_aligned ⟨alignment, power⟩ beyond nonzero demanded
    rw [finished] at result
    cases result
    refine ⟨unitsFor size, total, header, middle, _, trail, ?_, ?_, ?_, obtained, lends.size,
      pads.carved carving lends.lies (two_le_unitsFor nonzero), hands.takesOnly kept sound⟩
    · rw [blockUnits_eq, if_pos fits]
    · rw [aligned, demanded]
      rfl
    · rw [toNat_of_plus? sum, toNat_spare beyond]
  · cases demanded : Heap.demand size alignment with
    | none =>
      rw [aligned, demanded] at needed
      cases needed
    | some demand =>
      rw [aligned, demanded] at needed
      cases needed
      obtain ⟨block, lends⟩ := kept.obtain_lends sound (Heap.demand_ne_zero demanded) obtained
      obtain ⟨payload, after, result, -⟩ := lends.finish ⟨alignment, power⟩ nonzero demanded
      refine ⟨payload, after, ?_⟩
      rw [Heap.allocateAligned_eq power nonzero demanded, bind_of_ok obtained]
      exact result

/-- A block of 100 bytes at a multiple of 64, carved out of what an earlier request has left of a
small buffer. -/
theorem carves_exactly_smallBuffer :
    ∃ (grants : List Grant) (session after : Session FixedBuffer Exhausted)
        (header lead trail : Word),
      Reached smallBuffer grants session ∧ grants.length = 1 ∧
        Heap.allocateAligned 100 64 session = .ok (some 4224) after ∧
        Carved header 11 8 64 lead trail 4224 ∧ TakesOnly session after (stretch 4208 8) := by
  have first := (Reached.start {} : Reached smallBuffer [] _).serve (.allocate 40)
    ⟨nofun, rfl, nofun⟩
  obtain ⟨grants, session, after, one, answered, reached⟩ :
      ∃ grants session after, grants.length = 1 ∧
        Heap.allocateAligned 100 64 session = .ok (some 4224) after ∧
        Reached smallBuffer grants session := ⟨_, _, _, by decide +kernel, rfl, first⟩
  obtain ⟨units, total, header, middle, lead, trail, -, aligned, -, -, -, carved, takes⟩ :=
    (reached.carves_exactly (FixedBuffer.sound smallBuffer_fresh) rfl (by decide)
      (by decide)).1 _ _ answered
  have demand : Heap.alignedUnits 100 ⟨64, rfl⟩ = .ok (some (8, 11)) := rfl
  rw [demand] at aligned
  cases aligned
  exact ⟨grants, session, after, header, lead, trail, reached, one, answered, carved, takes⟩

end NextFit
