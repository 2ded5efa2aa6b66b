/-
This file proves what becomes of a live block. When it is freed, all of its units are free
again. When it is resized it either keeps its first units, and the others become free, or
its contents move to a block that a request of the new size hands out, and then it is
freed. A resize that fails leaves it as it was.
-/

import NextFit.Heap.Resize
import NextFit.Proofs.Contents
import NextFit.Proofs.Heap.Allocate

namespace NextFit

variable {G E : Type} [Grower G E] {fresh : G} {before session after : Session G E}
  {list : FreeList} {blocks : List FreeBlock} {lent : Finset Nat} {grant : Grant}

/-! ### Contents -/

/-- The units of the payload. -/
def Grant.body (grant : Grant) : Finset Nat :=
  grant.stretch.erase (unitOf grant.header)

/-- The payload ends within the address space. -/
theorem Grant.Live.within {memory : Memory} (live : grant.Live memory) :
    grant.payload.toNat = 16 * unitOf grant.header + 16 ∧
      grant.payload.toNat + 16 * ((unitsFor grant.size).toNat - 1) ≤ 2 ^ 64 := by
  have more := two_le_unitsFor live.nonzero
  have payload := live.lies.toNat_payload more
  have place := live.lies.toNat_eq
  have within := live.lies.within
  rw [Grant.header, payloadAbove_headerBelow] at payload
  rw [Grant.header] at place within ⊢
  omega

/-- The bytes of a payload fall in its units. -/
theorem Grant.Live.mem_body {memory : Memory} (live : grant.Live memory) {position : Nat}
    (low : grant.payload.toNat ≤ position)
    (high : position < grant.payload.toNat + 16 * ((unitsFor grant.size).toNat - 1)) :
    position / 16 ∈ grant.body := by
  have payload := live.within.1
  rw [Grant.body, Finset.mem_erase, Grant.stretch, mem_stretch]
  omega

/-- The bytes of a payload depend on its units only. -/
theorem Grant.Live.read_congr {memory other : Memory} (live : grant.Live memory) {length : Nat}
    (short : length ≤ 16 * ((unitsFor grant.size).toNat - 1))
    (same : ∀ address, unitOf address ∈ grant.body →
      other.header address = memory.header address) :
    other.read grant.payload length = memory.read grant.payload length := by
  refine Memory.read_congr fun offset below => same _ ?_
  have within := live.within.2
  have inWord : offset < 2 ^ 64 := by omega
  have small : offset.toUInt64.toNat = offset := UInt64.toNat_ofNat_of_lt inWord
  have position : (grant.payload + offset.toUInt64).toNat = grant.payload.toNat + offset := by
    rw [toNat_add_of_lt (by omega), small]
  rw [unitOf, position]
  exact live.mem_body (Nat.le_add_right _ _) (by omega)

/-- Writing bytes to a payload changes only its units. -/
theorem Grant.Live.header_write {memory : Memory} {other : Memory} (live : grant.Live memory)
    {bytes : List UInt8} (short : bytes.length ≤ 16 * ((unitsFor grant.size).toNat - 1))
    {address : Address} (apart : unitOf address ∉ grant.body) :
    (other.write grant.payload bytes).header address = other.header address := by
  have within := live.within.2
  have room : grant.payload.toNat + bytes.length ≤ 2 ^ 64 := by omega
  refine Memory.header_write room fun position low high same => apart ?_
  rw [← same]
  exact live.mem_body low (by omega)

/-- What is written to the payload of a grant leaves all else as it was. -/
theorem HandsOut.write (hands : HandsOut fresh before after lent grant) {memory : Memory}
    (same : ∀ address, unitOf address ∉ grant.body →
      memory.header address = after.heap.memory.header address) :
    HandsOut fresh before { after with heap := { after.heap with memory } } lent grant := by
  obtain ⟨list, blocks, balanced⟩ := hands.balanced
  have inside : grant.body ⊆ grant.stretch := Finset.erase_subset _ _
  refine ⟨⟨list, blocks, balanced.write (fun address member => same address fun body => ?_) rfl rfl
    rfl⟩, ⟨hands.live.nonzero, hands.live.fits, hands.live.lies, ?_, hands.live.aligned⟩,
    hands.apart, fun address member => ?_, hands.confined.trans ?_⟩
  · rcases Finset.mem_insert.mp member with sentinel | free
    · exact balanced.sentinelApart (sentinel ▸ Finset.mem_union_left _ (inside body))
    · exact Finset.disjoint_left.mp balanced.apart (Finset.mem_union_left _ (inside body)) free
  · exact (same _ (Finset.notMem_erase _ _)).trans hands.live.header_eq
  · refine (same address fun body => ?_).trans (hands.spares address member)
    exact Finset.disjoint_left.mp hands.apart (inside body) member
  · exact balanced.confined List.prefix_rfl
      (.of_same fun address outside => same address fun body => outside (inside body))
      fun address _ notLent _ => same address fun body =>
        notLent (Finset.mem_union_left _ (inside body))

/-! ### Freeing -/

omit [Grower G E] in
theorem release_eq {payload : Address} (free : session.heap.free = some list)
    (tagged : (session.heap.memory.header (headerBelow payload)).isTagged = true) :
    (Heap.release (some payload) : Action G E Unit) session =
      (do
        Action.record
          (.freeing payload (session.heap.memory.header (headerBelow payload)).size)
        Action.setFree (← Action.onMemory (list.insert (headerBelow payload)))) session := by
  have header : (Action.headerAt (headerBelow payload) : Action G E Header) session =
      .ok (session.heap.memory.header (headerBelow payload)) session := rfl
  unfold Heap.release
  dsimp only
  rw [get_bind, free]
  dsimp only
  rw [bind_of_ok header, if_pos tagged]

omit [Grower G E] in
/-- A block with a tag is put on the list. -/
theorem release_inserted {payload : Address} {listAfter : FreeList} {memory : Memory}
    (free : session.heap.free = some list)
    (tagged : (session.heap.memory.header (headerBelow payload)).isTagged = true)
    (inserted : list.insert (headerBelow payload) session.heap.memory = .ok listAfter memory) :
    (Heap.release (some payload) : Action G E Unit) session =
      .ok () { heap := { session.heap with memory, free := some listAfter }
               log := session.log ++
                [.freeing payload (session.heap.memory.header (headerBelow payload)).size] } := by
  rw [release_eq free tagged, bind_of_ok (rfl : Action.record _ session = .ok () _)]
  have worked : (Action.onMemory (list.insert (headerBelow payload)) : Action G E FreeList)
      { session with log := session.log ++
        [.freeing payload (session.heap.memory.header (headerBelow payload)).size] } =
        .ok listAfter _ := onMemory_of_ok inserted
  exact (bind_of_ok worked).trans rfl

/-- The header of a live block tells of its units. -/
theorem Grant.Live.size_eq {memory : Memory} (live : grant.Live memory) :
    memory.size (headerBelow grant.payload) = unitsFor grant.size :=
  congrArg Header.size live.header_eq

/-- A live block has its tag. -/
theorem Grant.Live.tagged {memory : Memory} (live : grant.Live memory) :
    (memory.header (headerBelow grant.payload)).isTagged = true := by
  rw [← Grant.header, live.header_eq]
  rfl

/-- A live block can be freed. -/
theorem Balanced.release (balanced : Balanced fresh session list blocks lent)
    (live : grant.Live session.heap.memory) (subset : grant.stretch ⊆ lent) :
    ∃ after, Heap.release (some grant.payload) session = .ok () after ∧
      TakesBack fresh session after list blocks lent
        { header := grant.header, units := unitsFor grant.size } := by
  obtain ⟨sits, apart, takesBack⟩ := balanced.takeBack
    { header := grant.header, units := unitsFor grant.size }
    (unitsFor_ne_zero grant.size) live.lies subset
  obtain ⟨listAfter, memoryAfter, blocksAfter, result, inserted⟩ :=
    balanced.holds.insert_spec sits apart live.size_eq
  exact ⟨_, release_inserted balanced.free live.tagged result,
    takesBack inserted rfl (List.prefix_append _ _) (grown_append_of_silent _ rfl)
      (asked_append_of_silent _ rfl)⟩

/-! ### Shrinking -/

omit [Grower G E] in
theorem shrink_eq {header : Address} {units surplus : Word} (free : session.heap.free = some list)
    (difference : minus (session.heap.memory.header header).size units = .ok surplus) :
    (Heap.shrink header units : Action G E Unit) session =
      (if surplus ≠ 0 then do
        Action.writeHeader header (.tagged units)
        Action.addFree (Address.above header units) surplus
        Action.record (.shrank header units)
      else pure ()) session := by
  have read : (Action.headerAt header : Action G E Header) session =
      .ok (session.heap.memory.header header) session := rfl
  unfold Heap.shrink
  rw [bind_of_ok read, ofExcept_bind difference, get_bind, free, Option.isSome_some]
  simp only [and_true]

/-- A step gave up all units of a live block but the first ones. -/
structure CutsDown (fresh : G) (before after : Session G E) (blocks : List FreeBlock)
    (lent : Finset Nat) (grant : Grant) (kept : Word) : Prop where
  balanced : ∃ listAfter blocksAfter, Balanced fresh after listAfter blocksAfter
      (stretch grant.header kept ∪ lent \ grant.stretch) ∧
    freeUnits blocksAfter =
      stretch (grant.header.above kept) (unitsFor grant.size - kept) ∪ freeUnits blocks
  header_eq : after.heap.memory.header grant.header = .tagged kept
  contents : Spares before after ((stretch grant.header kept).erase (unitOf grant.header))
  spares : Spares before after (lent \ grant.stretch)
  quiet : Quiet before after
  confined : Confined before after (stretch grant.header kept)

/-- A block whose units are all kept stays as it is. -/
theorem Balanced.cutsDown_self (balanced : Balanced fresh session list blocks lent)
    (live : grant.Live session.heap.memory) (subset : grant.stretch ⊆ lent) :
    CutsDown fresh session session blocks lent grant (unitsFor grant.size) := by
  refine ⟨⟨list, blocks, ?_, ?_⟩, live.header_eq, fun _ _ => rfl, fun _ _ => rfl, ⟨rfl, rfl⟩,
    .refl session _⟩
  · show Balanced fresh session list blocks (grant.stretch ∪ lent \ grant.stretch)
    rw [Finset.union_sdiff_of_subset subset]
    exact balanced
  · rw [UInt64.sub_self, stretch_zero, Finset.empty_union]

/-- The upper units of a block are free again once its header is that of the lower units. -/
theorem Balanced.cutOff (balanced : Balanced fresh session list blocks lent)
    (live : grant.Live session.heap.memory) (subset : grant.stretch ⊆ lent) {kept : Word}
    (some : kept ≠ 0) (enough : kept ≤ unitsFor grant.size)
    (more : unitsFor grant.size - kept ≠ 0) :
    ∃ after, (do
        Action.writeHeader grant.header (.tagged kept)
        Action.addFree (Address.above grant.header kept) (unitsFor grant.size - kept)
        Action.record (.shrank grant.header kept) : Action G E Unit) session = .ok () after ∧
      CutsDown fresh session after blocks lent grant kept := by
  have positive : 0 < (unitsFor grant.size - kept).toNat := toNat_pos_of_ne_zero more
  have difference : (unitsFor grant.size - kept).toNat =
      (unitsFor grant.size).toNat - kept.toNat := UInt64.toNat_sub_of_le _ _ enough
  have inside : kept.toNat < (unitsFor grant.size).toNat := by omega
  have parts : grant.stretch = stretch grant.header kept ∪
      stretch (grant.header.above kept) (unitsFor grant.size - kept) :=
    live.lies.stretch_eq_union inside (by omega)
  have lower : stretch grant.header kept ⊆ grant.stretch := parts ▸ Finset.subset_union_left
  have upper : stretch (grant.header.above kept) (unitsFor grant.size - kept) ⊆ grant.stretch :=
    live.lies.stretch_above_subset enough
  have here : unitOf grant.header ∈ stretch grant.header kept := start_mem_stretch some
  -- What stays lent are the lower units and all other blocks.
  have remains : lent \ FreeBlock.stretch
      { header := grant.header.above kept, units := unitsFor grant.size - kept } =
        stretch grant.header kept ∪ lent \ grant.stretch := by
    rw [FreeBlock.stretch, ← Finset.sdiff_union_sdiff_cancel subset upper, Finset.union_comm, parts,
      Finset.union_sdiff_cancel_right (live.lies.disjoint_parts inside _)]
  obtain ⟨written, wrote, writtenBalanced, writtenQuiet, writtenConfined, memory⟩ :=
    balanced.writeHeader (subset (lower here)) (.tagged kept)
  have elsewhere : ∀ address, unitOf address ≠ unitOf grant.header →
      written.heap.memory.header address = session.heap.memory.header address := by
    intro address apart
    rw [memory, Memory.header_setHeader, if_neg apart.symm]
  obtain ⟨added, addedFree, takesBack⟩ := writtenBalanced.addFree more
    (live.lies.upper enough more) (upper.trans subset)
  obtain ⟨listAfter, blocksAfter, balancedAfter, -, freeAfter⟩ := takesBack.balanced
  have spares := takesBack.spares
  rw [remains] at balancedAfter spares
  refine ⟨{ added with log := added.log ++ [.shrank grant.header kept] }, ?_,
    ⟨listAfter, blocksAfter, balancedAfter.recorded rfl, freeAfter⟩, ?_,
    fun address member => ?_, fun address member => ?_,
    (writtenQuiet.trans takesBack.quiet).recorded rfl,
    ((writtenConfined.mono (Finset.singleton_subset_iff.mpr here)).trans
      (takesBack.confined.mono (Finset.empty_subset _))).recorded _⟩
  · rw [bind_of_ok wrote, bind_of_ok addedFree]
    rfl
  · rw [spares _ (Finset.mem_union_left _ here), memory, Memory.header_setHeader, if_pos rfl]
  · obtain ⟨apart, member⟩ := Finset.mem_erase.mp member
    exact (spares address (Finset.mem_union_left _ member)).trans (elsewhere address apart)
  · refine (spares address (Finset.mem_union_right _ member)).trans (elsewhere address ?_)
    exact fun equal => (Finset.mem_sdiff.mp member).2 (equal ▸ lower here)

/-- The header of a live block tells how many units are left if some are kept. -/
theorem Grant.Live.surplus_eq {memory : Memory} (live : grant.Live memory) {kept : Word}
    (enough : kept ≤ unitsFor grant.size) :
    minus (memory.header grant.header).size kept = .ok (unitsFor grant.size - kept) := by
  rw [live.header_eq]
  exact if_pos enough

/-- A live block that keeps all of its units stays as it is, and so does all else. -/
theorem Balanced.shrink_self (balanced : Balanced fresh session list blocks lent)
    (live : grant.Live session.heap.memory) :
    Heap.shrink grant.header (unitsFor grant.size) session = .ok () session := by
  rw [shrink_eq balanced.free (live.surplus_eq (UInt64.le_refl _)), UInt64.sub_self,
    if_neg (not_not.mpr rfl)]
  rfl

theorem surplus_ne_zero {units kept : Word} (fewer : kept ≠ units) : units - kept ≠ 0 := fun none =>
  fewer ((UInt64.sub_eq_iff_eq_add.mp none).trans (UInt64.zero_add kept)).symm

/-- A live block keeps the units that it still needs, at the same place. -/
theorem Balanced.shrink (balanced : Balanced fresh session list blocks lent)
    (live : grant.Live session.heap.memory) (subset : grant.stretch ⊆ lent) {kept : Word}
    (some : kept ≠ 0) (enough : kept ≤ unitsFor grant.size) :
    ∃ after, Heap.shrink grant.header kept session = .ok () after ∧
      CutsDown fresh session after blocks lent grant kept := by
  by_cases all : kept = unitsFor grant.size
  · subst all
    exact ⟨session, balanced.shrink_self live, balanced.cutsDown_self live subset⟩
  · have more := surplus_ne_zero all
    rw [shrink_eq balanced.free (live.surplus_eq enough), if_pos more]
    exact balanced.cutOff live subset some enough more

/-- With the units for a new size kept, the block is one for the new size. -/
theorem CutsDown.handsOut {newSize alignment : Word}
    (cuts : CutsDown fresh session after blocks lent grant (unitsFor newSize))
    (live : grant.Live session.heap.memory) (nonzero : newSize ≠ 0)
    (fits : newSize.toNat + 15 < 2 ^ 64) (enough : unitsFor newSize ≤ unitsFor grant.size)
    (aligned : alignment.toNat ∣ grant.payload.toNat) :
    HandsOut fresh session after (lent \ grant.stretch)
      { payload := grant.payload, size := newSize, alignment } := by
  obtain ⟨listAfter, blocksAfter, balanced, -⟩ := cuts.balanced
  have less := UInt64.le_iff_toNat_le.mp enough
  have lower : stretch grant.header (unitsFor newSize) ⊆ grant.stretch :=
    Finset.Ico_subset_Ico_right (by omega)
  exact ⟨⟨listAfter, blocksAfter, balanced⟩,
    ⟨nonzero, fits, live.lies.mono less, cuts.header_eq, aligned⟩,
    Finset.disjoint_sdiff.mono_left lower, cuts.spares, cuts.confined⟩

/-! ### Moving -/

/-- The payload of a block has room for what was asked for. -/
theorem size_le (size : Word) : size.toNat ≤ 16 * ((unitsFor size).toNat - 1) := by
  rw [toNat_unitsFor]
  omega

/-- A grant is live as long as its header is spared. -/
theorem Grant.Live.congr {memory other : Memory} (live : grant.Live memory)
    (same : other.header grant.header = memory.header grant.header) : grant.Live other :=
  ⟨live.nonzero, live.fits, live.lies, same.trans live.header_eq, live.aligned⟩

theorem Grant.header_mem (grant : Grant) : unitOf grant.header ∈ grant.stretch :=
  start_mem_stretch (unitsFor_ne_zero grant.size)

theorem Grant.body_subset (grant : Grant) : grant.body ⊆ grant.stretch :=
  Finset.erase_subset _ _

/-- The bytes of a new payload up to the size that was asked for, written over. -/
theorem HandsOut.writeBytes (hands : HandsOut fresh before after lent grant) {bytes : List UInt8}
    (short : bytes.length ≤ grant.size.toNat) :
    HandsOut fresh before
      { after with heap := { after.heap with
        memory := after.heap.memory.write grant.payload bytes } } lent grant :=
  hands.write fun _ outside =>
    hands.live.header_write (Nat.le_trans short (size_le grant.size)) outside

/-- A step moved the contents of a live block to a new block and freed the old one. -/
structure MovesTo (fresh : G) (before after : Session G E) (lent : Finset Nat)
    (grant moved : Grant) : Prop where
  hands : HandsOut fresh before after (lent \ grant.stretch) moved
  apart : Disjoint moved.stretch grant.stretch
  contents : ∀ length, length = min (16 * ((unitsFor grant.size).toNat - 1)) moved.size.toNat →
    after.heap.memory.read moved.payload length = before.heap.memory.read grant.payload length
  freed : ∃ list blocks, Balanced fresh after list blocks (moved.stretch ∪ lent \ grant.stretch) ∧
    grant.stretch ⊆ freeUnits blocks
  cleared : (after.heap.memory.header grant.header).isTagged = false

/-- Once the contents are in the new block, the old one is freed. -/
theorem HandsOut.release_other {moved : Grant} (hands : HandsOut fresh before session lent moved)
    (live : grant.Live session.heap.memory) (subset : grant.stretch ⊆ lent)
    (contents : ∀ length,
      length = min (16 * ((unitsFor grant.size).toNat - 1)) moved.size.toNat →
        session.heap.memory.read moved.payload length =
          before.heap.memory.read grant.payload length) :
    ∃ after, Heap.release (some grant.payload) session = .ok () after ∧
      MovesTo fresh before after lent grant moved := by
  obtain ⟨list, blocks, balanced⟩ := hands.balanced
  obtain ⟨after, result, takesBack⟩ := balanced.release live
    (subset.trans Finset.subset_union_right)
  obtain ⟨listAfter, blocksAfter, balancedAfter, -, freeAfter⟩ := takesBack.balanced
  have spares := takesBack.spares
  have apart := hands.apart.mono_right subset
  have kept : (moved.stretch ∪ lent) \ grant.stretch = moved.stretch ∪ lent \ grant.stretch := by
    rw [Finset.union_sdiff_distrib, Finset.sdiff_eq_self_of_disjoint apart]
  replace balancedAfter : Balanced fresh after listAfter blocksAfter
    (moved.stretch ∪ lent \ grant.stretch) := kept ▸ balancedAfter
  replace spares : Spares session after (moved.stretch ∪ lent \ grant.stretch) := kept ▸ spares
  refine ⟨after, result, ⟨⟨listAfter, blocksAfter, balancedAfter⟩, hands.live.congr
    (spares _ (Finset.mem_union_left _ moved.header_mem)),
    hands.apart.mono_right Finset.sdiff_subset, ?_,
    hands.confined.trans (takesBack.confined.mono (Finset.empty_subset _))⟩,
    apart, fun length most => ?_, ⟨listAfter, blocksAfter, balancedAfter, ?_⟩, takesBack.cleared⟩
  · exact (hands.spares.mono Finset.sdiff_subset).trans (spares.mono Finset.subset_union_right)
  · have short := size_le moved.size
    refine (hands.live.read_congr (by omega) fun address body => spares _ ?_).trans
      (contents length most)
    exact Finset.mem_union_left _ (moved.body_subset body)
  · rw [freeAfter]
    exact Finset.subset_union_left

/-- A copy of some bytes of a live block stays within the new payload, so that the old block still
has its tag. -/
theorem HandsOut.copied {moved : Grant} (hands : HandsOut fresh before after lent moved)
    (live : grant.Live before.heap.memory) (subset : grant.stretch ⊆ lent) {length : Nat}
    (short : length ≤ moved.size.toNat) :
    HandsOut fresh before { after with heap := { after.heap with
        memory := after.heap.memory.copy grant.payload moved.payload length } } lent moved ∧
      grant.Live (after.heap.memory.copy grant.payload moved.payload length) := by
  have copied : HandsOut fresh before { after with heap := { after.heap with
      memory := after.heap.memory.copy grant.payload moved.payload length } } lent moved :=
    hands.writeBytes (by rwa [Memory.length_read])
  exact ⟨copied, live.congr (copied.spares _ (subset grant.header_mem))⟩

/-- With a new block the contents are copied there, and the old block is freed. -/
theorem Heap.move_of_some {payload moved units newSize alignment usable : Word}
    (allocated : Heap.allocateAligned newSize alignment session = .ok (some moved) after)
    (computed : (do bytesOf (← minus units 1)) = .ok usable) :
    Heap.move payload units newSize alignment session =
      (do
        Heap.release (some payload)
        return some moved : Action G E (Option Address))
        { after with heap := { after.heap with
          memory := after.heap.memory.copy payload moved (min usable newSize).toNat } } := by
  unfold Heap.move
  rw [bind_of_ok allocated]
  dsimp only
  rw [ofExcept_bind computed]
  rfl

/-- With a new block the contents of a live one are copied there, and what is left to do is to free
the live one. -/
theorem HandsOut.exists_copied {payload newSize alignment : Word}
    (hands : HandsOut fresh session after lent { payload, size := newSize, alignment })
    (live : grant.Live session.heap.memory) (subset : grant.stretch ⊆ lent)
    (allocated : Heap.allocateAligned newSize alignment session = .ok (some payload) after) :
    ∃ copied, copied.log = after.log ∧
      HandsOut fresh session copied lent { payload, size := newSize, alignment } ∧
      grant.Live copied.heap.memory ∧
      (∀ length, length = min (16 * ((unitsFor grant.size).toNat - 1)) newSize.toNat →
        copied.heap.memory.read payload length =
          session.heap.memory.read grant.payload length) ∧
      Heap.move grant.payload (unitsFor grant.size) newSize alignment session =
        (do
          Heap.release (some grant.payload)
          return some payload : Action G E (Option Address)) copied := by
  have within : payload.toNat + 16 * ((unitsFor newSize).toNat - 1) ≤ 2 ^ 64 :=
    hands.live.within.2
  have room := live.lies.unitOf_add_le
  obtain ⟨usable, computed, bytes⟩ := bytesOf_eq (unitsFor grant.size) (by omega)
    (unitsFor_ne_zero grant.size)
  have count : (min usable newSize).toNat =
      min (16 * ((unitsFor grant.size).toNat - 1)) newSize.toNat := by
    rw [UInt64.toNat_min, bytes]
  have least : (min usable newSize).toNat ≤ newSize.toNat := by
    rw [count]
    exact Nat.min_le_right _ _
  have enough := size_le newSize
  have inside : payload.toNat + (min usable newSize).toNat ≤ 2 ^ 64 := by omega
  obtain ⟨copied, stillLive⟩ := hands.copied live subset least
  refine ⟨_, ?log, copied, stillLive, fun length most => ?_, Heap.move_of_some allocated computed⟩
  case log => rfl
  have same : length = (min usable newSize).toNat := most.trans count.symm
  subst same
  exact (Memory.read_copy inside).trans (live.read_congr (by omega) fun address body =>
    hands.spares _ (subset (grant.body_subset body)))

/-- A new block takes the contents of a live one. -/
theorem HandsOut.move {payload newSize alignment : Word}
    (hands : HandsOut fresh session after lent { payload, size := newSize, alignment })
    (live : grant.Live session.heap.memory) (subset : grant.stretch ⊆ lent)
    (allocated : Heap.allocateAligned newSize alignment session = .ok (some payload) after) :
    ∃ later, Heap.move grant.payload (unitsFor grant.size) newSize alignment session =
        .ok (some payload) later ∧
      MovesTo fresh session later lent grant { payload, size := newSize, alignment } := by
  obtain ⟨copied, -, copiedHands, stillLive, contents, moved⟩ :=
    hands.exists_copied live subset allocated
  obtain ⟨later, released, moves⟩ := copiedHands.release_other stillLive subset contents
  refine ⟨later, ?_, moves⟩
  rw [moved, bind_of_ok released]
  rfl

theorem Heap.move_of_none {payload units newSize alignment : Word}
    (refused : Heap.allocateAligned newSize alignment session = .ok none after) :
    Heap.move payload units newSize alignment session = .ok none after := by
  unfold Heap.move
  rw [bind_of_ok refused]
  rfl

theorem Heap.move_of_error {payload units newSize alignment : Word} {fault : Fault}
    (faulted : Heap.allocateAligned newSize alignment session = .error fault after) :
    Heap.move payload units newSize alignment session = .error fault after := by
  unfold Heap.move
  exact bind_of_error faulted

/-- A block whose contents move to a new block is freed. If there is no new block it stays. -/
theorem Kept.move_ends (kept : Kept fresh session lent) (sound : Grower.Sound fresh)
    (live : grant.Live session.heap.memory) (subset : grant.stretch ⊆ lent)
    {newSize alignment : Word} (power : isPowerOfTwo alignment = true) :
    Ends (Heap.move grant.payload (unitsFor grant.size) newSize alignment session)
      (fun answer after =>
        match answer with
        | some payload => MovesTo fresh session after lent grant
            { payload, size := newSize, alignment }
        | none => Keeps fresh session after lent)
      (fun fault after => Keeps fresh session after lent ∧ Stopped fault session after) := by
  have ends : Ends (Heap.allocateAligned newSize alignment session) _ _ :=
    kept.allocateAligned_ends sound power
  cases allocated : Heap.allocateAligned newSize alignment session with
  | error fault after =>
    rw [allocated] at ends
    rw [Heap.move_of_error allocated]
    exact ends
  | ok answer after =>
    rw [allocated] at ends
    cases answer with
    | none =>
      rw [Heap.move_of_none allocated]
      exact ends
    | some payload =>
      obtain ⟨later, result, moves⟩ := HandsOut.move ends live subset allocated
      exact Ends.of_ok result moves

/-! ### Resizing -/

theorem Heap.staysAt_eq {payload units needed alignment : Word}
    (power : isPowerOfTwo alignment = true) :
    Heap.staysAt payload units needed alignment =
      .ok (decide (needed ≤ units ∧ alignment.toNat ∣ payload.toNat)) := by
  rw [Heap.staysAt, isAligned_eq power]
  by_cases enough : needed ≤ units
  · rw [if_pos enough]
    simp only [enough, true_and]
  · rw [if_neg enough]
    simp only [enough, false_and, decide_false]

theorem Heap.resizeAligned_none {newSize alignment : Word} :
    (Heap.resizeAligned none newSize alignment : Action G E (Option Address)) =
      Heap.allocateAligned newSize alignment := rfl

/-- A new size of zero frees the block. -/
theorem Heap.resizeAligned_zero {payload : Address} {alignment : Word} :
    (Heap.resizeAligned (some payload) 0 alignment : Action G E (Option Address)) = do
      Heap.release (some payload)
      return none := by
  unfold Heap.resizeAligned
  exact if_pos rfl

/-- A new size whose block would not fit in a word is refused. -/
theorem Heap.resizeAligned_tooLarge {payload newSize : Word} (alignment : Word)
    (tooLarge : ¬newSize.toNat + 15 < 2 ^ 64) (session : Session G E) :
    Heap.resizeAligned (some payload) newSize alignment session = .ok none session := by
  have nonzero : newSize ≠ 0 := by
    rintro rfl
    exact tooLarge (by decide)
  have refused : blockUnits newSize = .ok none := by
    rw [blockUnits_eq, if_neg tooLarge]
  unfold Heap.resizeAligned
  dsimp only
  rw [if_neg nonzero, ofExcept_bind refused]
  rfl

/-- For any other new size a live block stays where it is, or it moves. -/
theorem Heap.resizeAligned_eq (live : grant.Live session.heap.memory) {newSize : Word}
    (alignment : Word) (nonzero : newSize ≠ 0) (fits : newSize.toNat + 15 < 2 ^ 64) :
    Heap.resizeAligned (some grant.payload) newSize alignment session =
      match Heap.staysAt grant.payload (unitsFor grant.size) (unitsFor newSize) alignment with
      | .error fault => .error fault session
      | .ok true => (do
          Heap.shrink grant.header (unitsFor newSize)
          return some grant.payload : Action G E (Option Address)) session
      | .ok false => Heap.move grant.payload (unitsFor grant.size) newSize alignment session := by
  have needed : blockUnits newSize = .ok (some (unitsFor newSize)) := by
    rw [blockUnits_eq, if_pos fits]
  have header : Action.headerAt (headerBelow grant.payload) session =
      .ok (.tagged (unitsFor grant.size)) session :=
    congrArg (EStateM.Result.ok · session) live.header_eq
  unfold Heap.resizeAligned
  dsimp only
  rw [if_neg nonzero, ofExcept_bind needed]
  show (Action.headerAt (headerBelow grant.payload) >>= _) session = _
  rw [bind_of_ok header]
  show (ofExcept (Heap.staysAt grant.payload (unitsFor grant.size) (unitsFor newSize) alignment)
    >>= _ : Action G E (Option Address)) session = _
  cases Heap.staysAt grant.payload (unitsFor grant.size) (unitsFor newSize) alignment with
  | error fault => rfl
  | ok stays => cases stays <;> rfl

section Resizes

variable {newSize alignment : Word} (nonzero : newSize ≠ 0) (fits : newSize.toNat + 15 < 2 ^ 64)
  (power : isPowerOfTwo alignment = true)

include nonzero fits power

/-- A live block that is large enough and well aligned stays. -/
theorem Heap.resizeAligned_shrinks (live : grant.Live session.heap.memory)
    (enough : unitsFor newSize ≤ unitsFor grant.size)
    (aligned : alignment.toNat ∣ grant.payload.toNat) :
    Heap.resizeAligned (some grant.payload) newSize alignment session =
      (do
        Heap.shrink grant.header (unitsFor newSize)
        return some grant.payload : Action G E (Option Address)) session := by
  rw [Heap.resizeAligned_eq live alignment nonzero fits, Heap.staysAt_eq power,
    decide_eq_true ⟨enough, aligned⟩]

/-- It is cut down to the new size. -/
theorem Balanced.resizeAligned_stays (balanced : Balanced fresh session list blocks lent)
    (live : grant.Live session.heap.memory) (subset : grant.stretch ⊆ lent)
    (enough : unitsFor newSize ≤ unitsFor grant.size)
    (aligned : alignment.toNat ∣ grant.payload.toNat) :
    ∃ after, Heap.resizeAligned (some grant.payload) newSize alignment session =
        .ok (some grant.payload) after ∧
      CutsDown fresh session after blocks lent grant (unitsFor newSize) := by
  obtain ⟨after, result, cuts⟩ := balanced.shrink live subset (unitsFor_ne_zero newSize) enough
  refine ⟨after, ?_, cuts⟩
  rw [Heap.resizeAligned_shrinks nonzero fits power live enough aligned, bind_of_ok result]
  rfl

/-- Any other one moves. -/
theorem Heap.resizeAligned_moves (live : grant.Live session.heap.memory)
    (unfit : ¬(unitsFor newSize ≤ unitsFor grant.size ∧ alignment.toNat ∣ grant.payload.toNat)) :
    Heap.resizeAligned (some grant.payload) newSize alignment session =
      Heap.move grant.payload (unitsFor grant.size) newSize alignment session := by
  rw [Heap.resizeAligned_eq live alignment nonzero fits, Heap.staysAt_eq power,
    decide_eq_false unfit]

end Resizes

/-- However a live block is resized, the books are kept. The block becomes one for the new size,
here or elsewhere, or it is freed if the new size is zero, or it stays as it was. -/
theorem Kept.resizeAligned_ends (kept : Kept fresh session lent) (sound : Grower.Sound fresh)
    (live : grant.Live session.heap.memory) (subset : grant.stretch ⊆ lent)
    {newSize alignment : Word} (power : isPowerOfTwo alignment = true) :
    Ends (Heap.resizeAligned (some grant.payload) newSize alignment session)
      (fun answer after =>
        match answer with
        | some payload => HandsOut fresh session after (lent \ grant.stretch)
            { payload, size := newSize, alignment }
        | none => Keeps fresh session after (if newSize = 0 then lent \ grant.stretch else lent))
      (fun fault after => Keeps fresh session after lent ∧ Stopped fault session after) := by
  obtain ⟨list, blocks, balanced⟩ := kept.exists_balanced (subset grant.header_mem)
  by_cases zero : newSize = 0
  · subst zero
    obtain ⟨after, result, takesBack⟩ := balanced.release live subset
    obtain ⟨listAfter, blocksAfter, balancedAfter, -⟩ := takesBack.balanced
    rw [Heap.resizeAligned_zero, bind_of_ok result]
    exact ⟨.balanced balancedAfter, takesBack.spares, takesBack.confined⟩
  by_cases fits : newSize.toNat + 15 < 2 ^ 64
  · by_cases stays : unitsFor newSize ≤ unitsFor grant.size ∧
        alignment.toNat ∣ grant.payload.toNat
    · obtain ⟨after, result, cuts⟩ :=
        balanced.resizeAligned_stays zero fits power live subset stays.1 stays.2
      exact Ends.of_ok result (cuts.handsOut live zero fits stays.1 stays.2)
    · rw [Heap.resizeAligned_moves zero fits power live stays]
      refine (kept.move_ends sound live subset power).mono (fun answer after ends => ?_)
        fun _ _ ends => ends
      cases answer with
      | some payload => exact ends.hands
      | none => exact (if_neg zero).symm ▸ ends
  · refine Ends.of_ok (Heap.resizeAligned_tooLarge alignment fits session) ?_
    exact (if_neg zero).symm ▸ ⟨kept, fun _ _ => rfl, .refl session ∅⟩

section Answered

variable {payload newSize alignment : Word} (kept : Kept fresh session lent)
  (sound : Grower.Sound fresh) (live : grant.Live session.heap.memory)
  (subset : grant.stretch ⊆ lent) (power : isPowerOfTwo alignment = true)
  (resized : Heap.resizeAligned (some grant.payload) newSize alignment session =
    .ok (some payload) after)

include kept sound live subset power resized

/-- A live block that was resized has been cut down, or it has moved. -/
theorem Kept.resizeAligned_some :
    (payload = grant.payload ∧ newSize ≠ 0 ∧ newSize.toNat + 15 < 2 ^ 64 ∧
        unitsFor newSize ≤ unitsFor grant.size ∧
        ∃ blocks, CutsDown fresh session after blocks lent grant (unitsFor newSize)) ∨
      MovesTo fresh session after lent grant { payload, size := newSize, alignment } := by
  obtain ⟨list, blocks, balanced⟩ := kept.exists_balanced (subset grant.header_mem)
  by_cases zero : newSize = 0
  · subst zero
    obtain ⟨later, released, -⟩ := balanced.release live subset
    rw [Heap.resizeAligned_zero, bind_of_ok released] at resized
    cases resized
  by_cases fits : newSize.toNat + 15 < 2 ^ 64
  · by_cases stays : unitsFor newSize ≤ unitsFor grant.size ∧
        alignment.toNat ∣ grant.payload.toNat
    · obtain ⟨later, here, cuts⟩ :=
        balanced.resizeAligned_stays zero fits power live subset stays.1 stays.2
      rw [resized] at here
      cases here
      exact Or.inl ⟨rfl, zero, fits, stays.1, blocks, cuts⟩
    · have ends : Ends (Heap.move grant.payload (unitsFor grant.size) newSize alignment session)
        _ _ := kept.move_ends sound live subset power
      rw [← Heap.resizeAligned_moves zero fits power live stays, resized] at ends
      exact Or.inr ends
  · rw [Heap.resizeAligned_tooLarge alignment fits session] at resized
    cases resized

/-- One that has another place has moved there. -/
theorem Kept.resizeAligned_elsewhere (elsewhere : payload ≠ grant.payload) :
    MovesTo fresh session after lent grant { payload, size := newSize, alignment } :=
  (kept.resizeAligned_some sound live subset power resized).resolve_left
    fun here => elsewhere here.1

/-- Its bytes are the old ones, as far as it has both. -/
theorem Kept.resizeAligned_contents {length : Nat} (old : length ≤ grant.size.toNat)
    (new : length ≤ newSize.toNat) :
    after.heap.memory.read payload length = session.heap.memory.read grant.payload length := by
  rcases kept.resizeAligned_some sound live subset power resized with
    ⟨rfl, nonzero, fits, enough, blocks, cuts⟩ | moves
  · have shrunk := (cuts.handsOut live nonzero fits enough live.aligned).live
    exact (shrunk.read_congr (new.trans (size_le newSize)) fun address body =>
      (cuts.contents address body).symm).symm
  · have whole := moves.contents _ rfl
    have short : length ≤ min (16 * ((unitsFor grant.size).toNat - 1)) newSize.toNat :=
      Nat.le_min.mpr ⟨old.trans (size_le grant.size), new⟩
    rw [← Memory.read_take _ _ short, whole, Memory.read_take _ _ short]

end Answered

/-! ### Zeroed memory -/

/-- A new block whose bytes are set to zero reads as zeros. -/
theorem HandsOut.zeroed (hands : HandsOut fresh before after lent grant) :
    HandsOut fresh before { after with heap := { after.heap with
        memory := after.heap.memory.zero grant.payload grant.size.toNat } } lent grant ∧
      (after.heap.memory.zero grant.payload grant.size.toNat).read grant.payload
        grant.size.toNat = List.replicate grant.size.toNat 0 := by
  have count : (List.replicate grant.size.toNat (0 : UInt8)).length = grant.size.toNat :=
    List.length_replicate
  have within := hands.live.within.2
  have enough := size_le grant.size
  have fits : grant.payload.toNat + (List.replicate grant.size.toNat (0 : UInt8)).length ≤
      2 ^ 64 := by omega
  have back : (after.heap.memory.zero grant.payload grant.size.toNat).read grant.payload
      (List.replicate grant.size.toNat (0 : UInt8)).length = _ := Memory.read_write fits
  rw [count] at back
  exact ⟨hands.writeBytes (Nat.le_of_eq count), back⟩

/-- A request for zeroed memory is served as one for any memory is. -/
theorem Kept.allocateZeroed_ends (kept : Kept fresh session lent) (sound : Grower.Sound fresh)
    {size : Word} :
    Ends (Heap.allocateZeroed size session)
      (fun answer after =>
        match answer with
        | some payload => HandsOut fresh session after lent
            { payload, size, alignment := headerAlignment }
        | none => Keeps fresh session after lent)
      (fun fault after => Keeps fresh session after lent ∧ Stopped fault session after) := by
  have plain : Ends (Heap.allocateAligned size headerAlignment session) _ _ :=
    kept.allocateAligned_ends sound isPowerOfTwo_headerAlignment
  rw [← Heap.allocate_eq] at plain
  unfold Heap.allocateZeroed
  refine plain.bind fun answer middle ends => ?_
  cases answer with
  | none => exact ends
  | some payload => exact (HandsOut.zeroed ends).1

end NextFit
