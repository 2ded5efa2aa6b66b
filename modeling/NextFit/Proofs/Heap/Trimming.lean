/-
This file proves that it does not matter in how many steps a live block is cut down. The
pieces that are cut off one after the other merge with each other, and with a free block
above them, into what one cut leaves, and the rover ends below the last cut. It also proves
that a resize which is asked for again changes nothing, since every resize ends with a
block of exactly the units that it needs, at its alignment.
-/

import NextFit.Proofs.FreeList.Placing
import NextFit.Proofs.Heap.LiveBlocks
import NextFit.Proofs.Heap.Resizing

namespace NextFit

variable {G E : Type} [Grower G E] {fresh : G}
  {first second session middle after once twice : Session G E} {list listMiddle : FreeList}
  {blocks blocksMiddle : List FreeBlock} {lent lentMiddle units : Finset Nat}
  {grants : List Grant} {grant cut : Grant} {sentinel edge payload : Address}
  {kept size alignment : Word}

/-! ### Where a cut leaves the list -/

/-- Two heaps have the same list, with the rover at the same node, and it shows the same blocks in
the same order. -/
structure SameList (first second : Session G E) : Prop where
  free : second.heap.free = first.heap.free
  blocks : second.heap.freeBlocks = first.heap.freeBlocks

/-- The free list of a heap has a sentinel and some free units, and its rover is the last node that
ranks below an address. -/
structure RestsBelow (session : Session G E) (sentinel : Address) (units : Finset Nat)
    (edge : Address) (list : FreeList) (blocks : List FreeBlock) : Prop where
  free : session.heap.free = some list
  holds : list.Holds session.heap.memory blocks
  root : list.sentinel = sentinel
  units : freeUnits blocks = units
  stops : FreeList.StopsBelow list.sentinel (blocks.map FreeBlock.header) edge list.rover

omit [Grower G E] in
/-- This determines the list and what it shows. -/
theorem RestsBelow.sameList {listAfter : FreeList} {blocksAfter : List FreeBlock}
    (rests : RestsBelow first sentinel units edge list blocks)
    (otherRests : RestsBelow second sentinel units edge listAfter blocksAfter) :
    SameList first second := by
  obtain ⟨rfl, rfl⟩ := rests.holds.eq_of_stopsBelow otherRests.holds
    (otherRests.root.trans rests.root.symm) (otherRests.units.trans rests.units.symm) rests.stops
    otherRests.stops
  refine ⟨otherRests.free.trans rests.free.symm, ?_⟩
  rw [Heap.freeBlocks, Heap.freeBlocks, rests.free, otherRests.free]
  dsimp only
  rw [rests.holds.blocks_eq, otherRests.holds.blocks_eq]

/-- Units that are cut off a live block are free, and the rover ends below them. -/
theorem Balanced.shrink_rests (balanced : Balanced fresh session list blocks lent)
    (live : grant.Live session.heap.memory) (subset : grant.stretch ⊆ lent)
    (less : kept < unitsFor grant.size)
    (shrunk : Heap.shrink grant.header kept session = .ok () after) :
    ∃ listAfter blocksAfter, RestsBelow after list.sentinel
      (stretch (grant.header.above kept) (unitsFor grant.size - kept) ∪ freeUnits blocks)
      (grant.header.above kept) listAfter blocksAfter := by
  have enough := UInt64.le_of_lt less
  have more := surplus_ne_zero (UInt64.ne_of_lt less)
  obtain ⟨written, wrote, writtenBalanced, -⟩ :=
    balanced.writeHeader (subset grant.header_mem) (.tagged kept)
  obtain ⟨sits, apart, -⟩ := writtenBalanced.takeBack
    { header := grant.header.above kept, units := unitsFor grant.size - kept } more
    (live.lies.upper enough more) ((live.lies.stretch_above_subset enough).trans subset)
  obtain ⟨listAfter, memory, blocksAfter, extended, inserted⟩ :=
    writtenBalanced.holds.extend_spec sits apart
  rw [shrink_eq balanced.free (live.surplus_eq enough), if_pos more, bind_of_ok wrote,
    bind_of_ok (addFree_eq writtenBalanced.free extended)] at shrunk
  cases shrunk
  exact ⟨listAfter, blocksAfter, rfl, inserted.holds, inserted.sentinel_eq, inserted.units,
    inserted.stopsBelow writtenBalanced.holds sits⟩

/-! ### Two cuts and one -/

section Cuts

variable (balanced : Balanced fresh session list blocks lent)
  (live : grant.Live session.heap.memory) (subset : grant.stretch ⊆ lent)
  (balancedMiddle : Balanced fresh middle listMiddle blocksMiddle lentMiddle)
  (cutLive : cut.Live middle.heap.memory) (cutSubset : cut.stretch ⊆ lentMiddle)
  (place : cut.header = grant.header)
  (cutOff : Heap.shrink grant.header (unitsFor cut.size) session = .ok () middle)
  (cutAgain : Heap.shrink cut.header kept middle = .ok () twice)
  (cutAtOnce : Heap.shrink grant.header kept session = .ok () once)

include balanced live subset balancedMiddle cutLive cutSubset place cutOff cutAgain cutAtOnce

/-- Two pieces that are cut off one after the other leave the list as one piece does. -/
theorem Balanced.shrink_pieces (fewer : kept < unitsFor cut.size)
    (less : unitsFor cut.size < unitsFor grant.size) : SameList once twice := by
  obtain ⟨listBetween, blocksBetween, between⟩ := balanced.shrink_rests live subset less cutOff
  obtain ⟨_, _, together⟩ :=
    balanced.shrink_rests live subset (UInt64.lt_trans fewer less) cutAtOnce
  obtain ⟨_, _, inTurn⟩ := balancedMiddle.shrink_rests cutLive cutSubset fewer cutAgain
  -- The list between the two cuts is the one that the first cut has left.
  obtain rfl : listBetween = listMiddle :=
    Option.some_inj.mp (between.free.symm.trans balancedMiddle.free)
  obtain rfl : blocksBetween = blocksMiddle :=
    Except.ok.inj (between.holds.blocks_eq.symm.trans balancedMiddle.holds.blocks_eq)
  rw [between.root, between.units, place, ← Finset.union_assoc,
    ← live.lies.stretch_above_eq_union (UInt64.le_of_lt fewer) (UInt64.lt_iff_toNat_lt.mp less)]
    at inTurn
  exact together.sameList inTurn

/-- So do two cuts of which one takes nothing away. -/
theorem Balanced.shrink_twice (fewer : kept ≤ unitsFor cut.size)
    (enough : unitsFor cut.size ≤ unitsFor grant.size) : SameList once twice := by
  by_cases whole : unitsFor cut.size = unitsFor grant.size
  · rw [whole, balanced.shrink_self live] at cutOff
    cases cutOff
    rw [place, cutAtOnce] at cutAgain
    cases cutAgain
    exact ⟨rfl, rfl⟩
  by_cases last : kept = unitsFor cut.size
  · subst last
    rw [balancedMiddle.shrink_self cutLive] at cutAgain
    rw [cutOff] at cutAtOnce
    cases cutAgain
    cases cutAtOnce
    exact ⟨rfl, rfl⟩
  exact balanced.shrink_pieces live subset balancedMiddle cutLive cutSubset place cutOff cutAgain
    cutAtOnce (UInt64.lt_of_le_of_ne fewer last) (UInt64.lt_of_le_of_ne enough whole)

end Cuts

/-! ### Resizes in use -/

/-- A payload shows the same in two heaps, up to some bytes, and the heaps have the same list. -/
structure EndsAlike (first second : Session G E) (payload : Address) (size : Word) : Prop where
  header_eq : second.heap.memory.header (headerBelow payload) =
    first.heap.memory.header (headerBelow payload)
  contents : second.heap.memory.read payload size.toNat =
    first.heap.memory.read payload size.toNat
  list : SameList first second
  grower_eq : second.heap.grower = first.heap.grower

section Reached

variable (reached : Reached fresh grants session) (sound : Grower.Sound fresh)
  (member : grant ∈ grants)

include reached sound member

/-- A live block that has the units for a size is cut down to them. -/
theorem Reached.resize_shrinks (nonzero : size ≠ 0) (fits : size.toNat + 15 < 2 ^ 64)
    (enough : unitsFor size ≤ unitsFor grant.size) :
    ∃ after, Heap.shrink grant.header (unitsFor size) session = .ok () after ∧
      Heap.resize (some grant.payload) size session = .ok (some grant.payload) after ∧
      StaysWith session after grant.payload (unitsFor size) ∧
      Reached fresh ({ payload := grant.payload, size, alignment := headerAlignment } ::
        Request.without (some grant.payload) grants) after := by
  have sustained := reached.sustained sound
  have live := sustained.live grant member
  have subset := stretch_subset_lentTo member
  have power := isPowerOfTwo_headerAlignment
  have aligned : headerAlignment.toNat ∣ grant.payload.toNat := live.sixteen_dvd
  obtain ⟨list, blocks, balanced⟩ := sustained.exists_balanced_of_mem member
  obtain ⟨after, shrunk, cuts⟩ := balanced.shrink live subset (unitsFor_ne_zero size) enough
  have resized : Heap.resizeAligned (some grant.payload) size headerAlignment session =
      .ok (some grant.payload) after := by
    rw [Heap.resizeAligned_shrinks nonzero fits power live enough aligned, bind_of_ok shrunk]
    rfl
  exact ⟨after, shrunk, resized, cuts.staysWith balanced live subset nonzero fits enough aligned,
    reached.resized member power resized⟩

/-- Two resizes that cut a block down end as the second one does alone. -/
theorem Reached.resize_down_twice {smaller larger units : Word} (nonzero : smaller ≠ 0)
    (less : smaller ≤ larger) (needed : blockUnits larger = .ok (some units))
    (room : units ≤ session.heap.memory.size (headerBelow grant.payload)) :
    ∃ fewer middle twice once, blockUnits smaller = .ok (some fewer) ∧
      Heap.resize (some grant.payload) larger session = .ok (some grant.payload) middle ∧
      Heap.resize (some grant.payload) smaller middle = .ok (some grant.payload) twice ∧
      Heap.resize (some grant.payload) smaller session = .ok (some grant.payload) once ∧
      StaysWith session once grant.payload fewer ∧
      EndsAlike once twice grant.payload smaller := by
  obtain ⟨fitsFirst, rfl⟩ := fits_of_blockUnits needed
  have order := UInt64.le_iff_toNat_le.mp less
  have fits : smaller.toNat + 15 < 2 ^ 64 := by omega
  have fewer := unitsFor_mono less
  have nonzeroFirst : larger ≠ 0 := by
    rintro rfl
    exact nonzero (UInt64.le_zero_iff.mp less)
  have sustained := reached.sustained sound
  have live := sustained.live grant member
  rw [live.size_eq] at room
  obtain ⟨middle, cutOff, first, firstStays, reachedMiddle⟩ :=
    reached.resize_shrinks sound member nonzeroFirst fitsFirst room
  obtain ⟨once, cutAtOnce, alone, onceStays, -⟩ :=
    reached.resize_shrinks sound member nonzero fits (UInt64.le_trans fewer room)
  obtain ⟨twice, cutAgain, second, twiceStays, -⟩ :=
    reachedMiddle.resize_shrinks sound List.mem_cons_self nonzero fits fewer
  refine ⟨unitsFor smaller, middle, twice, once, by rw [blockUnits_eq, if_pos fits], first, second,
    alone, onceStays, ?_⟩
  have sustainedMiddle := reachedMiddle.sustained sound
  obtain ⟨list, blocks, balanced⟩ := sustained.exists_balanced_of_mem member
  obtain ⟨_, _, balancedMiddle⟩ := sustainedMiddle.exists_balanced_of_mem List.mem_cons_self
  have enough := size_le smaller
  exact {
    header_eq := twiceStays.header_eq.trans onceStays.header_eq.symm
    contents := ((twiceStays.read_eq enough).trans
      (firstStays.read_eq (order.trans (size_le larger)))).trans (onceStays.read_eq enough).symm
    list := balanced.shrink_twice live (stretch_subset_lentTo member) balancedMiddle
      (sustainedMiddle.live _ List.mem_cons_self) (stretch_subset_lentTo List.mem_cons_self) rfl
      cutOff cutAgain cutAtOnce fewer room
    grower_eq := (twiceStays.quiet.grower.trans firstStays.quiet.grower).trans
      onceStays.quiet.grower.symm }

/-- A resize that was met, in whatever way, and is asked for again changes nothing. -/
theorem Reached.resize_again (power : isPowerOfTwo alignment = true)
    (resized : Heap.resizeAligned (some grant.payload) size alignment session =
      .ok (some payload) after) :
    Heap.resizeAligned (some payload) size alignment after = .ok (some payload) after := by
  have reachedAfter := reached.resized member power resized
  have sustained := reachedAfter.sustained sound
  have live : Grant.Live after.heap.memory { payload, size, alignment } :=
    sustained.live _ List.mem_cons_self
  obtain ⟨list, blocks, balanced⟩ := sustained.exists_balanced_of_mem List.mem_cons_self
  rw [Heap.resizeAligned_shrinks live.nonzero live.fits power live (UInt64.le_refl _) live.aligned,
    bind_of_ok (balanced.shrink_self live)]
  rfl

/-- In every state that a use of a heap over a sound grower leads to, a live block that is cut down
to one size and then to a smaller one ends as it does if it is cut down to the smaller one at
once, and so does the list. And however a live block is resized, the same resize of what it has
become answers with it and leaves the heap and its log as they are. -/
theorem Reached.resizes_collapse :
    (∀ smaller larger units, smaller ≠ 0 → smaller ≤ larger →
      blockUnits larger = .ok (some units) →
      units ≤ session.heap.memory.size (headerBelow grant.payload) →
      ∃ fewer middle twice once, blockUnits smaller = .ok (some fewer) ∧
        Heap.resize (some grant.payload) larger session = .ok (some grant.payload) middle ∧
        Heap.resize (some grant.payload) smaller middle = .ok (some grant.payload) twice ∧
        Heap.resize (some grant.payload) smaller session = .ok (some grant.payload) once ∧
        StaysWith session once grant.payload fewer ∧
        EndsAlike once twice grant.payload smaller) ∧
    ∀ size alignment payload after, isPowerOfTwo alignment = true →
      Heap.resizeAligned (some grant.payload) size alignment session =
        .ok (some payload) after →
      Heap.resizeAligned (some payload) size alignment after = .ok (some payload) after :=
  ⟨fun _ _ _ nonzero less needed room =>
    reached.resize_down_twice sound member nonzero less needed room,
    fun _ _ _ _ power resized => reached.resize_again sound member power resized⟩

end Reached

/-- In a small buffer a block of eight units is cut down to four and then to two, or to two at once,
and it moves to be aligned to 64 bytes. -/
theorem resizes_collapse_smallBuffer :
    ∃ (grants : List Grant) (session middle twice once aligned : Session FixedBuffer Exhausted)
        (moved : Address), Reached smallBuffer grants session ∧ ⟨4128, 100, 16⟩ ∈ grants ∧
      session.heap.memory.size (headerBelow 4128) = 8 ∧
      Heap.resize (some 4128) 40 session = .ok (some 4128) middle ∧
      Heap.resize (some 4128) 8 middle = .ok (some 4128) twice ∧
      Heap.resize (some 4128) 8 session = .ok (some 4128) once ∧
      EndsAlike once twice 4128 8 ∧ moved ≠ 4128 ∧
      Heap.resizeAligned (some 4128) 20 64 session = .ok (some moved) aligned ∧
      Heap.resizeAligned (some moved) 20 64 aligned = .ok (some moved) aligned := by
  have reached := (Reached.start {} : Reached smallBuffer [] _).serve (.allocate 100)
    ⟨nofun, rfl, nofun⟩
  obtain ⟨grants, session, reached, listed, eight, moved, aligned, resized, elsewhere⟩ :
      ∃ (grants : List Grant) (session : Session FixedBuffer Exhausted),
        Reached smallBuffer grants session ∧ ⟨4128, 100, 16⟩ ∈ grants ∧
          session.heap.memory.size (headerBelow 4128) = 8 ∧
          ∃ moved aligned, Heap.resizeAligned (some 4128) 20 64 session =
            .ok (some moved) aligned ∧ moved ≠ 4128 :=
    ⟨_, _, reached, by decide +kernel, by decide +kernel, _, _, rfl, by decide +kernel⟩
  obtain ⟨down, again⟩ :=
    reached.resizes_collapse (FixedBuffer.sound smallBuffer_fresh) listed
  obtain ⟨-, middle, twice, once, -, first, second, alone, -, alike⟩ :=
    down 8 40 4 (by decide) (by decide) (by decide +kernel) (eight ▸ by decide)
  exact ⟨grants, session, middle, twice, once, aligned, moved, reached, listed, eight, first, second,
    alone, alike, elsewhere, resized, again 20 64 moved aligned (by decide) resized⟩

end NextFit
