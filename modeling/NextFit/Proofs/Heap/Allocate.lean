/-
This file proves what a request for memory hands out: a block with the tag and the size
that the request calls for, whose payload is aligned as it should be. Where a larger block
was taken for the sake of the alignment, the units on either side are free again.
-/

import NextFit.Heap.Allocate
import NextFit.Proofs.Heap.Growth
import NextFit.Proofs.Units

namespace NextFit

/-! ### Grants -/

/-- A payload that was handed out, with the size and the alignment that were asked for. -/
structure Grant where
  /-- The payload. -/
  payload : Address
  /-- The bytes that were asked for. -/
  size : Word
  /-- The power of two that the payload is to be a multiple of. -/
  alignment : Word
  deriving DecidableEq

namespace Grant

/-- Where the header of the block stands. -/
def header (grant : Grant) : Address :=
  headerBelow grant.payload

/-- The units of the block, its header included. -/
def stretch (grant : Grant) : Finset Nat :=
  NextFit.stretch grant.header (unitsFor grant.size)

/-- The block lies in memory, its header says that it is handed out and how large it is, and the
payload is aligned. -/
structure Live (memory : Memory) (grant : Grant) : Prop where
  nonzero : grant.size ≠ 0
  fits : grant.size.toNat + 15 < 2 ^ 64
  lies : Lies grant.header (unitsFor grant.size)
  header_eq : memory.header grant.header = .tagged (unitsFor grant.size)
  aligned : grant.alignment.toNat ∣ grant.payload.toNat

end Grant

variable {G E : Type} [Grower G E] {fresh : G} {before session after : Session G E}
  {list : FreeList} {blocks : List FreeBlock} {lent : Finset Nat} {block : FreeBlock}
  {header : Address} {size total wanted : Word}

/-- A step handed out a block for a grant. -/
structure HandsOut (fresh : G) (before after : Session G E) (lent : Finset Nat) (grant : Grant) :
    Prop where
  balanced : ∃ list blocks, Balanced fresh after list blocks (grant.stretch ∪ lent)
  live : grant.Live after.heap.memory
  apart : Disjoint grant.stretch lent
  spares : Spares before after lent
  confined : Confined before after grant.stretch

/-- The block for a grant was carved out of the top units of a free block. -/
structure CarvedFrom (block : FreeBlock) (total : Word) (grant : Grant) : Prop where
  fits : total ≤ block.units
  inside : ∃ lead : Word, lead.toNat + (unitsFor grant.size).toNat ≤ total.toNat ∧
    grant.header = (block.header.above (block.units - total)).above lead

/-- Recording what was done changes nothing. -/
theorem HandsOut.recorded {grant : Grant} (hands : HandsOut fresh before after lent grant)
    (event : Event E) (silent : event.asked? = none) :
    HandsOut fresh before { after with log := after.log ++ [event] } lent grant := by
  obtain ⟨list, blocks, balanced⟩ := hands.balanced
  exact ⟨⟨list, blocks, balanced.recorded silent⟩, hands.live, hands.apart, hands.spares,
    hands.confined.recorded event⟩

/-- A block with a header for the request is handed out with its payload. -/
theorem HandsOut.of_header {alignment : Word}
    (balanced : ∃ list blocks,
      Balanced fresh after list blocks (stretch header (unitsFor size) ∪ lent))
    (nonzero : size ≠ 0) (fits : size.toNat + 15 < 2 ^ 64) (lies : Lies header (unitsFor size))
    (written : after.heap.memory.header header = .tagged (unitsFor size))
    (aligned : alignment.toNat ∣ (payloadAbove header).toNat)
    (apart : Disjoint (stretch header (unitsFor size)) lent) (spares : Spares before after lent)
    (confined : Confined before after (stretch header (unitsFor size))) :
    HandsOut fresh before after lent { payload := payloadAbove header, size, alignment } := by
  have below : Grant.header { payload := payloadAbove header, size, alignment } = header :=
    headerBelow_payloadAbove header
  have same : Grant.stretch { payload := payloadAbove header, size, alignment } =
      stretch header (unitsFor size) := congrArg (stretch · (unitsFor size)) below
  refine ⟨?_, ⟨nonzero, fits, ?_, ?_, aligned⟩, ?_, spares, ?_⟩
  · rw [same]
    exact balanced
  · rw [below]
    exact lies
  · rw [below]
    exact written
  · rw [same]
    exact apart
  · rw [same]
    exact confined

/-! ### Plain blocks -/

/-- The payload of a block with at least two units stands one unit above its header. -/
theorem Lies.toNat_payload (lies : Lies header wanted) (more : 2 ≤ wanted.toNat) :
    (payloadAbove header).toNat = header.toNat + 16 := by
  have within := lies.within
  exact toNat_payloadAbove (by omega)

/-- The tag makes a live block of the units that were taken. -/
theorem Lends.mark (lends : Lends fresh before session lent block (unitsFor size) header)
    (nonzero : size ≠ 0) (fits : size.toNat + 15 < 2 ^ 64) {alignment : Word}
    (divides : alignment.toNat ∣ 16) {event : Event E} (silent : event.asked? = none) :
    HandsOut fresh before
      { heap := { session.heap with memory := session.heap.memory.setNext header liveTag }
        log := session.log ++ [event] }
      lent { payload := payloadAbove header, size, alignment } := by
  obtain ⟨list, blocks, balanced⟩ := lends.balanced
  have here : unitOf header ∈ stretch header (unitsFor size) :=
    start_mem_stretch (unitsFor_ne_zero size)
  have elsewhere : ∀ address, unitOf header ≠ unitOf address →
      (session.heap.memory.setNext header liveTag).header address =
        session.heap.memory.header address :=
    fun address apart => (Memory.header_setNext _ _ _ _).trans (if_neg apart)
  refine HandsOut.of_header ⟨list, blocks, ?_⟩ nonzero fits lends.lies ?_
    (Nat.dvd_trans divides ?_) lends.apart (fun address inside => ?_)
    ((lends.confined.mono (Finset.empty_subset _)).trans (balanced.confined
      (List.prefix_append _ _) (.of_same fun address outside => elsewhere address fun equal =>
        outside (equal ▸ here)) fun address _ notLent _ => elsewhere address fun equal =>
          notLent (equal ▸ Finset.mem_union_left _ here)))
  · refine balanced.write (fun address inside => elsewhere address fun equal => ?_) rfl rfl
      (grown_append_of_silent session.log silent)
    rw [← equal, Finset.mem_insert] at inside
    rcases inside with sentinel | free
    · exact balanced.sentinelApart (sentinel ▸ Finset.mem_union_left _ here)
    · exact Finset.disjoint_left.mp balanced.apart (Finset.mem_union_left _ here) free
  · rw [Memory.header_setNext, if_pos rfl]
    exact congrArg (Header.mk liveTag) lends.size
  · have aligned := lends.lies.aligned
    rw [lends.lies.toNat_payload (two_le_unitsFor nonzero)]
    omega
  · exact (elsewhere address fun equal =>
      Finset.disjoint_left.mp lends.apart here (equal ▸ inside)).trans (lends.spares address inside)

/-! ### Carved blocks -/

/-- Spare units go back to the free list, if there are any. -/
theorem Balanced.addSpare (balanced : Balanced fresh session list blocks lent) {start : Address}
    (lies : wanted ≠ 0 → Lies start wanted) (subset : stretch start wanted ⊆ lent) :
    ∃ after, Action.addSpare start wanted session = .ok () after ∧
      (∃ list blocks, Balanced fresh after list blocks (lent \ stretch start wanted)) ∧
      Quiet session after ∧ Spares session after (lent \ stretch start wanted) ∧
      Confined session after ∅ := by
  unfold Action.addSpare
  by_cases zero : wanted = 0
  · have nothing : lent \ stretch start wanted = lent := by
      rw [zero, stretch_zero, Finset.sdiff_empty]
    rw [nothing, if_neg (by rw [zero]; exact UInt64.lt_irrefl 0)]
    exact ⟨session, rfl, ⟨list, blocks, balanced⟩, ⟨rfl, rfl⟩, fun _ _ => rfl, .refl session ∅⟩
  · rw [if_pos (UInt64.pos_iff_ne_zero.mpr zero)]
    obtain ⟨after, result, takesBack⟩ := balanced.addFree zero (lies zero) subset
    obtain ⟨listAfter, blocksAfter, balancedAfter, -⟩ := takesBack.balanced
    exact ⟨after, result, ⟨listAfter, blocksAfter, balancedAfter⟩, takesBack.quiet,
      takesBack.spares, takesBack.confined⟩

/-- What has to be added to the payload of a block to reach an aligned one, if the units that are
wanted still fit in above it. -/
structure Pads (header : Address) (total wanted : Word) (alignment : Alignment) (padding : Word) :
    Prop where
  padding_eq : alignment.padding (payloadAbove header) = .ok padding
  bound : (padding / unitBytes).toNat + wanted.toNat ≤ total.toNat
  multiple : alignment.value.toNat ∣ header.toNat + 16 * (padding / unitBytes).toNat + 16
  few : (padding / unitBytes).toNat ≤ alignment.value.toNat / 16 - 1
  whole : padding.toNat = 16 * (padding / unitBytes).toNat

/-- A block with spare units for the alignment holds an aligned payload and, above it, the units
that are wanted. -/
theorem Lies.exists_lead (lies : Lies header total) {alignment : Alignment}
    (large : 16 < alignment.value.toNat) (more : 2 ≤ wanted.toNat)
    (sum : total.toNat = wanted.toNat + (alignment.value.toNat / 16 - 1)) :
    ∃ padding, Pads header total wanted alignment padding := by
  have unitSize : unitBytes.toNat = 16 := rfl
  have within := lies.within
  have aligned := lies.aligned
  have payload := lies.toNat_payload (by omega)
  have sixteen : 16 ∣ alignment.value.toNat := by
    obtain ⟨exponent, power⟩ := alignment.exists_exponent
    rw [power] at large ⊢
    have more : 2 ^ 4 < 2 ^ exponent := large
    exact Nat.pow_dvd_pow 2 (Nat.le_of_lt ((Nat.pow_lt_pow_iff_right (by decide)).mp more))
  obtain ⟨padding, result, less, multiple⟩ := alignment.padding_eq (payloadAbove header)
    (by rw [payload]; omega)
  have paddingUnits : 16 ∣ padding.toNat := by
    have both := Nat.dvd_trans sixteen multiple
    rw [payload] at both
    omega
  have whole : padding.toNat = 16 * (padding / unitBytes).toNat := by
    rw [UInt64.toNat_div, unitSize, Nat.mul_div_cancel' paddingUnits]
  have few : (padding / unitBytes).toNat ≤ alignment.value.toNat / 16 - 1 := by omega
  refine ⟨padding, result, by omega, ?_, few, whole⟩
  rw [← whole, Nat.add_right_comm, ← payload]
  exact multiple

/-- A block falls into a lead, a carved block of the wanted units, and a trail. -/
structure Carving (header : Address) (total wanted lead trail : Word) : Prop where
  difference : (do minus (← minus total lead) wanted) = .ok trail
  sum : lead.toNat + wanted.toNat + trail.toNat = total.toNat
  place : unitOf (header.above lead) = unitOf header + lead.toNat
  leadLies : Lies header lead
  carvedLies : Lies (header.above lead) wanted
  trailLies : trail ≠ 0 → Lies ((header.above lead).above wanted) trail
  leadSubset : stretch header lead ⊆ stretch header total
  trailSubset : stretch ((header.above lead).above wanted) trail ⊆
    stretch header total \ stretch header lead
  remaining : (stretch header total \ stretch header lead) \
    stretch ((header.above lead).above wanted) trail = stretch (header.above lead) wanted

theorem Lies.exists_carving (lies : Lies header total) {lead : Word} (more : 0 < wanted.toNat)
    (bound : lead.toNat + wanted.toNat ≤ total.toNat) :
    ∃ trail, Carving header total wanted lead trail := by
  have inside : lead.toNat < total.toNat := by omega
  have leadLe : lead ≤ total := UInt64.le_iff_toNat_le.mpr (by omega)
  have upper : (total - lead).toNat = total.toNat - lead.toNat :=
    UInt64.toNat_sub_of_le _ _ leadLe
  have wantedLe : wanted ≤ total - lead := UInt64.le_iff_toNat_le.mpr (by omega)
  have trail : (total - lead - wanted).toNat = total.toNat - lead.toNat - wanted.toNat := by
    rw [UInt64.toNat_sub_of_le _ _ wantedLe, upper]
  have place := lies.unitOf_above inside
  have upperLies : Lies (header.above lead) (total - lead) := lies.above inside (by omega)
  have trailPlace : (total - lead - wanted).toNat = 0 ∨
      unitOf ((header.above lead).above wanted) =
        unitOf header + lead.toNat + wanted.toNat := by
    rcases Nat.eq_zero_or_pos (total - lead - wanted).toNat with none | positive
    · exact Or.inl none
    · rw [upperLies.unitOf_above (by omega), place]
      exact Or.inr rfl
  refine ⟨total - lead - wanted, ?_, by omega, place, lies.mono (by omega),
    upperLies.mono (by omega), fun some => ?_, fun unit member => ?_, fun unit member => ?_, ?_⟩
  · rw [minus_of_le leadLe]
    show minus (total - lead) wanted = _
    rw [minus_of_le wantedLe]
  · have positive : 0 < (total - lead - wanted).toNat := toNat_pos_of_ne_zero some
    exact upperLies.above (by omega) (by omega)
  · rw [mem_stretch] at member ⊢
    omega
  · rw [Finset.mem_sdiff, mem_stretch, mem_stretch]
    rw [mem_stretch] at member
    omega
  · ext unit
    rw [Finset.mem_sdiff, Finset.mem_sdiff, mem_stretch, mem_stretch, mem_stretch, mem_stretch]
    omega

/-- Once the header of the carved block is written, the lead and the trail go back to the free list,
and the carved block stays out. -/
theorem Lends.carve_at (lends : Lends fresh before session lent block total header)
    {lead trail : Word} (nonzero : wanted ≠ 0)
    (carving : Carving header total wanted lead trail) :
    ∃ after, (do
        Action.writeHeader (header.above lead) (.tagged wanted)
        Action.addSpare header lead
        Action.addSpare ((header.above lead).above wanted) trail
        return header.above lead : Action G E Address) session = .ok (header.above lead) after ∧
      Quiet session after ∧ Spares before after lent ∧
      Confined before after (stretch (header.above lead) wanted) ∧
      after.heap.memory.header (header.above lead) = .tagged wanted ∧
      ∃ list blocks,
        Balanced fresh after list blocks (stretch (header.above lead) wanted ∪ lent) := by
  obtain ⟨list, blocks, balanced⟩ := lends.balanced
  have remaining := carving.remaining
  have trailSubset := carving.trailSubset
  have here : unitOf (header.above lead) ∈ (stretch header total \ stretch header lead) \
      stretch ((header.above lead).above wanted) trail :=
    remaining ▸ start_mem_stretch nonzero
  have stillThere := (Finset.mem_sdiff.mp here).1
  have wasThere := (Finset.mem_sdiff.mp stillThere).1
  have nothing := Finset.empty_subset (stretch (header.above lead) wanted)
  have leadApart := lends.apart.mono_left carving.leadSubset
  have trailApart := lends.apart.mono_left (trailSubset.trans Finset.sdiff_subset)
  have afterLead : (stretch header total ∪ lent) \ stretch header lead =
      stretch header total \ stretch header lead ∪ lent := by
    rw [Finset.union_sdiff_distrib, Finset.sdiff_eq_self_of_disjoint leadApart.symm]
  have afterTrail : (stretch header total \ stretch header lead ∪ lent) \
      stretch ((header.above lead).above wanted) trail =
        stretch (header.above lead) wanted ∪ lent := by
    rw [Finset.union_sdiff_distrib, Finset.sdiff_eq_self_of_disjoint trailApart.symm, remaining]
  obtain ⟨written, wrote, writtenBalanced, writtenQuiet, writtenConfined, memory⟩ :=
    balanced.writeHeader (Finset.mem_union_left lent wasThere) (.tagged wanted)
  have writtenSpares : Spares before written lent := by
    intro address member
    rw [memory, Memory.header_setHeader, if_neg]
    · exact lends.spares address member
    · exact fun equal => Finset.disjoint_left.mp lends.apart wasThere (equal ▸ member)
  obtain ⟨led, leadAdded, ⟨ledList, ledBlocks, ledBalanced⟩, ledQuiet, ledSpares, ledConfined⟩ :=
    writtenBalanced.addSpare (fun _ => carving.leadLies)
      (carving.leadSubset.trans Finset.subset_union_left)
  rw [afterLead] at ledBalanced ledSpares
  obtain ⟨after, trailAdded, afterBalanced, afterQuiet, afterSpares, afterConfined⟩ :=
    ledBalanced.addSpare carving.trailLies (trailSubset.trans Finset.subset_union_left)
  rw [afterTrail] at afterBalanced afterSpares
  refine ⟨after, ?_, (writtenQuiet.trans ledQuiet).trans afterQuiet,
    (writtenSpares.trans (ledSpares.mono Finset.subset_union_right)).trans
      (afterSpares.mono Finset.subset_union_right),
    (((lends.confined.mono nothing).trans (writtenConfined.mono (Finset.singleton_subset_iff.mpr
      (start_mem_stretch nonzero)))).trans (ledConfined.mono nothing)).trans
        (afterConfined.mono nothing), ?_, afterBalanced⟩
  · rw [bind_of_ok wrote, bind_of_ok leadAdded, bind_of_ok trailAdded]
    rfl
  · rw [afterSpares _ (Finset.mem_union_left _ (remaining ▸ here)),
      ledSpares _ (Finset.mem_union_left _ stillThere), memory, Memory.header_setHeader, if_pos rfl]

/-- The units on either side of the carved block are free again. -/
theorem Lends.carve (lends : Lends fresh before session lent block total header)
    (alignment : Alignment) (large : 16 < alignment.value.toNat) (nonzero : size ≠ 0)
    (fits : size.toNat + 15 < 2 ^ 64)
    (sum : total.toNat = (unitsFor size).toNat + (alignment.value.toNat / 16 - 1)) :
    ∃ padding trail after,
      Heap.carve header total (unitsFor size) alignment session =
        .ok (header.above (padding / unitBytes)) after ∧
      Pads header total (unitsFor size) alignment padding ∧
      Carving header total (unitsFor size) (padding / unitBytes) trail ∧
      Quiet session after ∧
      HandsOut fresh before after lent
        { payload := payloadAbove (header.above (padding / unitBytes))
          size
          alignment := alignment.value } := by
  have more := two_le_unitsFor nonzero
  obtain ⟨padding, pads⟩ := lends.lies.exists_lead large more sum
  obtain ⟨trail, carving⟩ := lends.lies.exists_carving (by omega) pads.bound
  obtain ⟨after, result, quiet, spares, confined, written, balanced⟩ :=
    lends.carve_at (unitsFor_ne_zero size) carving
  have payload := carving.carvedLies.toNat_payload more
  rw [carving.carvedLies.toNat_eq, carving.place, Nat.mul_add, ← lends.lies.toNat_eq] at payload
  have inside : stretch (header.above (padding / unitBytes)) (unitsFor size) ⊆
      stretch header total := by
    rw [← carving.remaining]
    exact Finset.sdiff_subset.trans Finset.sdiff_subset
  refine ⟨padding, trail, after, ?_, pads, carving, quiet,
    HandsOut.of_header balanced nonzero fits carving.carvedLies written (payload ▸ pads.multiple)
      (lends.apart.mono_left inside) spares confined⟩
  unfold Heap.carve
  rw [ofExcept_bind pads.padding_eq]
  dsimp only
  rw [ofExcept_bind carving.difference]
  exact result

/-! ### Requests -/

/-- The units that a request takes off the free list: those of its block, with spare units if the
alignment is beyond that of headers. There is no answer if they do not fit in a word. -/
def Heap.demand (size alignment : Word) : Option Word :=
  match blockUnits size with
  | .ok (some units) =>
    if alignment ≤ headerAlignment then some units else plus? units (alignment / unitBytes - 1)
  | _ => none

theorem Heap.demand_eq {alignment : Word} :
    Heap.demand size alignment =
      if size.toNat + 15 < 2 ^ 64 then
        if alignment ≤ headerAlignment then some (unitsFor size)
        else plus? (unitsFor size) (alignment / unitBytes - 1)
      else none := by
  rw [Heap.demand, blockUnits_eq]
  by_cases fits : size.toNat + 15 < 2 ^ 64
  · rw [if_pos fits, if_pos fits]
  · rw [if_neg fits, if_neg fits]

theorem Heap.fits_of_demand {alignment : Word}
    (demanded : Heap.demand size alignment = some total) :
    size.toNat + 15 < 2 ^ 64 ∧
      (if alignment ≤ headerAlignment then some (unitsFor size)
        else plus? (unitsFor size) (alignment / unitBytes - 1)) = some total := by
  rw [Heap.demand_eq] at demanded
  split at demanded
  · exact ⟨‹_›, demanded⟩
  · cases demanded

/-- A plain request works out what it demands. -/
theorem Heap.blockUnits_eq_demand {alignment : Word} (small : alignment ≤ headerAlignment) :
    blockUnits size = .ok (Heap.demand size alignment) := by
  rw [Heap.demand_eq, blockUnits_eq, if_pos small]

/-- So does a request with spare units. -/
theorem Heap.alignedUnits_eq_demand {alignment : Alignment}
    (large : ¬alignment.value ≤ headerAlignment) :
    Heap.alignedUnits size alignment =
      .ok ((Heap.demand size alignment.value).map fun total => (unitsFor size, total)) := by
  unfold Heap.alignedUnits
  rw [Heap.demand_eq, blockUnits_eq, if_neg large]
  split <;> rfl

/-- The units between two multiples of an alignment beyond that of headers, less one. -/
theorem toNat_spare {alignment : Word} (large : ¬alignment ≤ headerAlignment) :
    (alignment / unitBytes - 1).toNat = alignment.toNat / 16 - 1 := by
  have unitSize : unitBytes.toNat = 16 := rfl
  have one : (1 : Word).toNat = 1 := rfl
  have beyond : 16 < alignment.toNat := UInt64.lt_iff_toNat_lt.mp (UInt64.not_le.mp large)
  have quotient : (alignment / unitBytes).toNat = alignment.toNat / 16 := by
    rw [UInt64.toNat_div, unitSize]
  rw [UInt64.toNat_sub_of_le _ _ (UInt64.le_iff_toNat_le.mpr (by rw [quotient, one]; omega)),
    quotient, one]

/-- At the alignment of headers an aligned request is a plain one. -/
theorem Heap.allocateAligned_of_le {alignment : Word} (power : isPowerOfTwo alignment = true)
    (small : alignment ≤ headerAlignment) :
    (Heap.allocateAligned size alignment : Action G E (Option Address)) = Heap.allocate size := by
  funext session
  unfold Heap.allocateAligned
  rw [ofExcept_bind (Alignment.ofWord_eq power), if_pos small]

theorem Heap.allocate_eq (size : Word) : (Heap.allocate size : Action G E (Option Address)) =
    Heap.allocateAligned size headerAlignment :=
  (Heap.allocateAligned_of_le isPowerOfTwo_headerAlignment (UInt64.le_refl _)).symm

theorem dvd_sixteen {alignment : Word} (power : isPowerOfTwo alignment = true)
    (small : alignment ≤ headerAlignment) : alignment.toNat ∣ 16 := by
  obtain ⟨exponent, same⟩ := isPowerOfTwo_iff.mp power
  have bound : alignment.toNat ≤ 2 ^ 4 := UInt64.le_iff_toNat_le.mp small
  rw [same] at bound ⊢
  exact Nat.pow_dvd_pow 2 ((Nat.pow_le_pow_iff_right (by decide)).mp bound)

/-- What a request does with the units that it has got. -/
def Heap.finish (size total : Word) (alignment : Alignment) (header : Address) :
    Action G E (Option Address) :=
  if alignment.value ≤ headerAlignment then do
    Action.onMemory (modify (·.setNext header liveTag))
    Action.record (.allocated size (unitsFor size) (payloadAbove header) none)
    return some (payloadAbove header)
  else do
    let carved ← Heap.carve header total (unitsFor size) alignment
    Action.record (.allocated size (unitsFor size) (payloadAbove carved) (some alignment.value))
    return some (payloadAbove carved)

/-- A request that can be met takes the units that it demands off the free list. -/
theorem Heap.allocateAligned_eq {alignment : Word} (power : isPowerOfTwo alignment = true)
    (nonzero : size ≠ 0) (demanded : Heap.demand size alignment = some total) :
    (Heap.allocateAligned size alignment : Action G E (Option Address)) =
      Action.obtain total >>= fun found =>
        match found with
        | some header => Heap.finish size total ⟨alignment, power⟩ header
        | none => pure none := by
  funext session
  unfold Heap.finish
  by_cases small : alignment ≤ headerAlignment
  · obtain ⟨-, units⟩ := Heap.fits_of_demand demanded
    rw [if_pos small, Option.some_inj] at units
    subst units
    rw [Heap.allocateAligned_of_le power small]
    unfold Heap.allocate
    simp only [if_pos small]
    rw [if_neg nonzero, ofExcept_bind (Heap.blockUnits_eq_demand small), demanded]
    refine congrFun (congrArg (Action.obtain (unitsFor size) >>= ·)
      (funext fun found => ?_)) session
    cases found <;> rfl
  · have aligned : Heap.alignedUnits size ⟨alignment, power⟩ = _ :=
      Heap.alignedUnits_eq_demand small
    unfold Heap.allocateAligned
    simp only [if_neg small]
    rw [ofExcept_bind (Alignment.ofWord_eq power), if_neg nonzero, ofExcept_bind aligned, demanded]
    refine congrFun (congrArg (Action.obtain total >>= ·) (funext fun found => ?_)) session
    cases found <;> rfl

/-- At an alignment beyond that of headers the block is carved out of them. -/
theorem Lends.finish_aligned (lends : Lends fresh before session lent block total header)
    (alignment : Alignment) (large : ¬alignment.value ≤ headerAlignment) (nonzero : size ≠ 0)
    (demanded : Heap.demand size alignment.value = some total) :
    ∃ padding trail after,
      Heap.finish size total alignment header session =
        .ok (some (payloadAbove (header.above (padding / unitBytes)))) after ∧
      Pads header total (unitsFor size) alignment padding ∧
      Carving header total (unitsFor size) (padding / unitBytes) trail ∧
      Quiet session after ∧
      HandsOut fresh before after lent
        { payload := payloadAbove (header.above (padding / unitBytes))
          size
          alignment := alignment.value } := by
  obtain ⟨fits, units⟩ := Heap.fits_of_demand demanded
  rw [if_neg large] at units
  have beyond : 16 < alignment.value.toNat := UInt64.lt_iff_toNat_lt.mp (UInt64.not_le.mp large)
  have sum : total.toNat = (unitsFor size).toNat + (alignment.value.toNat / 16 - 1) := by
    rw [toNat_of_plus? units, toNat_spare large]
  obtain ⟨padding, trail, after, result, pads, carving, quiet, hands⟩ :=
    lends.carve alignment beyond nonzero fits sum
  refine ⟨padding, trail, { after with log := after.log ++ [.allocated size (unitsFor size)
    (payloadAbove (header.above (padding / unitBytes))) (some alignment.value)] }, ?_, pads,
    carving, quiet.recorded rfl, hands.recorded _ rfl⟩
  rw [Heap.finish, if_neg large, bind_of_ok result]
  rfl

/-- Once it has got them it does not fail any more. -/
theorem Lends.finish (lends : Lends fresh before session lent block total header)
    (alignment : Alignment) (nonzero : size ≠ 0)
    (demanded : Heap.demand size alignment.value = some total) :
    ∃ payload after, Heap.finish size total alignment header session = .ok (some payload) after ∧
      Quiet session after ∧
      HandsOut fresh before after lent { payload, size, alignment := alignment.value } ∧
      CarvedFrom block total { payload, size, alignment := alignment.value } := by
  by_cases small : alignment.value ≤ headerAlignment
  · obtain ⟨fits, units⟩ := Heap.fits_of_demand demanded
    rw [if_pos small, Option.some_inj] at units
    subst units
    rw [Heap.finish, if_pos small]
    refine ⟨payloadAbove header, _, rfl, ⟨rfl, asked_append_of_silent _ rfl⟩,
      lends.mark nonzero fits (dvd_sixteen alignment.power small) rfl, lends.fits, 0, ?_, ?_⟩
    · show 0 + _ ≤ _
      rw [Nat.zero_add]
    · rw [above_zero, ← lends.top]
      exact headerBelow_payloadAbove header
  · obtain ⟨padding, trail, after, result, pads, -, quiet, hands⟩ :=
      lends.finish_aligned alignment small nonzero demanded
    refine ⟨_, after, result, quiet, hands, lends.fits, padding / unitBytes, pads.bound, ?_⟩
    rw [Grant.header, headerBelow_payloadAbove, ← lends.top]

theorem Heap.demand_ne_zero {alignment : Word}
    (demanded : Heap.demand size alignment = some total) : total ≠ 0 := by
  obtain ⟨-, units⟩ := Heap.fits_of_demand demanded
  split at units
  · cases units
    exact unitsFor_ne_zero size
  · intro zero
    have sum := toNat_of_plus? units
    have positive := toNat_unitsFor size
    rw [zero] at sum
    have none : (0 : Word).toNat = 0 := rfl
    omega

/-- A request for nothing is refused. -/
theorem Heap.allocateAligned_zero {alignment : Word} (power : isPowerOfTwo alignment = true)
    (session : Session G E) :
    Heap.allocateAligned 0 alignment session =
      .ok none { session with log := session.log ++ [.refusedEmpty] } := by
  by_cases small : alignment ≤ headerAlignment
  · rw [Heap.allocateAligned_of_le power small]
    rfl
  · unfold Heap.allocateAligned
    rw [ofExcept_bind (Alignment.ofWord_eq power), if_neg small, if_pos rfl]
    rfl

/-- A request that cannot be met at all is refused, whatever the state of the heap. Only the log
tells of it. -/
theorem Heap.exists_refusal {alignment : Word} (power : isPowerOfTwo alignment = true)
    (refused : size = 0 ∨ Heap.demand size alignment = none) :
    ∃ event : Event E, event.asked? = none ∧ ∀ session : Session G E,
      Heap.allocateAligned size alignment session =
        .ok none { session with log := session.log ++ [event] } := by
  by_cases zero : size = 0
  · subst zero
    exact ⟨.refusedEmpty, rfl, Heap.allocateAligned_zero power⟩
  have nothing := refused.resolve_left zero
  by_cases small : alignment ≤ headerAlignment
  · have tooLarge : blockUnits size = _ := Heap.blockUnits_eq_demand small
    rw [nothing] at tooLarge
    rw [Heap.allocateAligned_of_le power small]
    refine ⟨.tooLarge size, rfl, fun session => ?_⟩
    unfold Heap.allocate
    rw [if_neg zero, ofExcept_bind tooLarge]
    rfl
  · have tooLarge : Heap.alignedUnits size ⟨alignment, power⟩ = _ :=
      Heap.alignedUnits_eq_demand small
    rw [nothing, Option.map_none] at tooLarge
    refine ⟨.tooLargeAligned size alignment, rfl, fun session => ?_⟩
    unfold Heap.allocateAligned
    rw [ofExcept_bind (Alignment.ofWord_eq power), if_neg small, if_neg zero,
      ofExcept_bind tooLarge]
    rfl

theorem Heap.allocateAligned_refused {alignment : Word} (power : isPowerOfTwo alignment = true)
    (refused : size = 0 ∨ Heap.demand size alignment = none) (session : Session G E) :
    ∃ event : Event E, event.asked? = none ∧ Heap.allocateAligned size alignment session =
      .ok none { session with log := session.log ++ [event] } := by
  obtain ⟨event, silent, result⟩ : ∃ event : Event E, _ ∧ ∀ session : Session G E, _ :=
    Heap.exists_refusal power refused
  exact ⟨event, silent, result session⟩

section Demanded

variable {alignment : Word} (power : isPowerOfTwo alignment = true) (nonzero : size ≠ 0)
  (demanded : Heap.demand size alignment = some total)
  {grower : G} {region : Region} {error : E} {fault : Fault}

include power nonzero demanded

/-- A request is served from the free blocks if one of them is large enough. -/
theorem Balanced.allocateAligned_found (balanced : Balanced fresh session list blocks lent)
    (large : ∃ block ∈ blocks, total ≤ block.units) :
    ∃ payload after, Heap.allocateAligned size alignment session = .ok (some payload) after ∧
      Quiet session after ∧ HandsOut fresh session after lent { payload, size, alignment } ∧
      ∃ block ∈ blocks, CarvedFrom block total { payload, size, alignment } := by
  obtain ⟨block, member, header, middle, obtained, quiet, lends⟩ :=
    balanced.obtain_found (Heap.demand_ne_zero demanded) large
  obtain ⟨payload, after, result, laterQuiet, hands, carved⟩ :=
    lends.finish ⟨alignment, power⟩ nonzero demanded
  refine ⟨payload, after, ?_, quiet.trans laterQuiet, hands, block, member, carved⟩
  rw [Heap.allocateAligned_eq power nonzero demanded, bind_of_ok obtained]
  exact result

/-- Otherwise it is served from what the grower grants. -/
theorem Balanced.allocateAligned_granted (balanced : Balanced fresh session list blocks lent)
    (sound : Grower.Sound fresh) (small : ∀ block ∈ blocks, block.units < total)
    (granted : Grower.grow total session.heap.grower = .ok (.ok region) grower) :
    ∃ payload after, Heap.allocateAligned size alignment session = .ok (some payload) after ∧
      Asks total (.ok region) session after ∧
      HandsOut fresh session after lent { payload, size, alignment } ∧
      ∃ block : FreeBlock, block.IsRun (region.stretch ∪ freeUnits blocks) ∧
        region.stretch ⊆ block.stretch ∧ CarvedFrom block total { payload, size, alignment } := by
  obtain ⟨block, header, middle, obtained, asks, run, subset, lends⟩ :=
    balanced.obtain_granted sound (Heap.demand_ne_zero demanded) small granted
  obtain ⟨payload, after, result, quiet, hands, carved⟩ :=
    lends.finish ⟨alignment, power⟩ nonzero demanded
  refine ⟨payload, after, ?_, asks.quiet quiet, hands, block, run, subset, carved⟩
  rw [Heap.allocateAligned_eq power nonzero demanded, bind_of_ok obtained]
  exact result

theorem Balanced.allocateAligned_refused (balanced : Balanced fresh session list blocks lent)
    (small : ∀ block ∈ blocks, block.units < total)
    (refused : Grower.grow total session.heap.grower = .ok (.error error) grower) :
    Heap.allocateAligned size alignment session =
      .ok none (session.answered grower (.growthFailed total error)) := by
  rw [Heap.allocateAligned_eq power nonzero demanded,
    bind_of_ok (balanced.obtain_refused (Heap.demand_ne_zero demanded) small refused)]
  rfl

theorem Balanced.allocateAligned_faulted (balanced : Balanced fresh session list blocks lent)
    (small : ∀ block ∈ blocks, block.units < total)
    (faulted : Grower.grow total session.heap.grower = .error fault grower) :
    Heap.allocateAligned size alignment session =
      .error fault { session with heap := { session.heap with grower } } := by
  rw [Heap.allocateAligned_eq power nonzero demanded,
    bind_of_error (balanced.obtain_faulted (Heap.demand_ne_zero demanded) small faulted)]

/-- A request on an idle heap goes on as one on a heap with the first region. -/
theorem Idle.allocateAligned_granted (idle : Idle fresh session) (sound : Grower.Sound fresh)
    (granted : Grower.grow 1 session.heap.grower = .ok (.ok region) grower) :
    ∃ middle, Starts fresh region session middle ∧
      (Heap.allocateAligned size alignment session : EStateM.Result Fault (Session G E) _) =
        Heap.allocateAligned size alignment middle := by
  obtain ⟨middle, starts, obtained⟩ := idle.obtain_granted sound granted
  refine ⟨middle, starts, ?_⟩
  rw [Heap.allocateAligned_eq power nonzero demanded]
  show EStateM.bind _ _ _ = EStateM.bind _ _ _
  rw [EStateM.bind, EStateM.bind, obtained]

theorem Idle.allocateAligned_refused (idle : Idle fresh session)
    (refused : Grower.grow 1 session.heap.grower = .ok (.error error) grower) :
    Heap.allocateAligned size alignment session =
      .ok none (session.answered grower (.growthFailed 1 error)) := by
  rw [Heap.allocateAligned_eq power nonzero demanded, bind_of_ok (idle.obtain_refused refused)]
  rfl

theorem Idle.allocateAligned_faulted (idle : Idle fresh session)
    (faulted : Grower.grow 1 session.heap.grower = .error fault grower) :
    Heap.allocateAligned size alignment session =
      .error fault { session with heap := { session.heap with grower } } := by
  rw [Heap.allocateAligned_eq power nonzero demanded, bind_of_error (idle.obtain_faulted faulted)]

/-- Whatever happens to a request on a heap with a free list, nothing that is lent is lost. -/
theorem Balanced.allocateAligned_ends (balanced : Balanced fresh session list blocks lent)
    (sound : Grower.Sound fresh) :
    Ends (Heap.allocateAligned size alignment session)
      (fun answer after =>
        match answer with
        | some payload => HandsOut fresh session after lent { payload, size, alignment }
        | none => Keeps fresh session after lent)
      (fun fault after => Keeps fresh session after lent ∧ Stops total fault session after) := by
  rcases FreeList.large_or_small blocks total with large | small
  · obtain ⟨payload, after, result, -, hands, -⟩ :=
      balanced.allocateAligned_found power nonzero demanded large
    exact Ends.of_ok result hands
  · cases answered : Grower.grow total session.heap.grower with
    | error fault grower =>
      rw [balanced.allocateAligned_faulted power nonzero demanded small answered]
      exact ⟨⟨.balanced (balanced.faulted answered), fun _ _ => rfl,
        .of_memory_eq rfl List.prefix_rfl⟩, Heap.demand_ne_zero demanded, answered, rfl⟩
    | ok answer grower =>
      cases answer with
      | error error =>
        rw [balanced.allocateAligned_refused power nonzero demanded small answered]
        exact ⟨.balanced (balanced.refused answered), fun _ _ => rfl,
          .of_memory_eq rfl (List.prefix_append _ _)⟩
      | ok region =>
        obtain ⟨payload, after, result, -, hands, -⟩ :=
          balanced.allocateAligned_granted power nonzero demanded sound small answered
        exact Ends.of_ok result hands

/-- Whatever happens to the first request, the books are kept from then on. -/
theorem Idle.allocateAligned_ends (idle : Idle fresh session) (sound : Grower.Sound fresh) :
    Ends (Heap.allocateAligned size alignment session)
      (fun answer after =>
        match answer with
        | some payload => HandsOut fresh session after ∅ { payload, size, alignment }
        | none => Keeps fresh session after ∅)
      (fun fault after => Keeps fresh session after ∅ ∧ Stopped fault session after) := by
  cases answered : Grower.grow 1 session.heap.grower with
  | error fault grower =>
    rw [idle.allocateAligned_faulted power nonzero demanded answered]
    exact ⟨⟨.idle (idle.ready_faulted answered).2, nofun,
      .of_memory_eq rfl List.prefix_rfl⟩, .once ⟨by decide, answered, rfl⟩⟩
  | ok answer grower =>
    cases answer with
    | error error =>
      rw [idle.allocateAligned_refused power nonzero demanded answered]
      exact ⟨.idle (idle.ready_refused answered).2, nofun,
        .of_memory_eq rfl (List.prefix_append _ _)⟩
    | ok region =>
      obtain ⟨middle, starts, onward⟩ :=
        idle.allocateAligned_granted power nonzero demanded sound answered
      rw [onward]
      refine (starts.balanced.allocateAligned_ends power nonzero demanded sound).mono
        (fun answer after ends => ?_) (fun _ after ends => ⟨⟨ends.1.kept, nofun,
          starts.confined.trans ends.1.confined⟩, .again starts.asks ends.2⟩)
      cases answer with
      | none => exact ⟨ends.kept, nofun, starts.confined.trans ends.confined⟩
      | some payload =>
        exact { ends with
          spares := nofun
          confined := (starts.confined.mono (Finset.empty_subset _)).trans ends.confined }

end Demanded

/-- Whatever happens to a request, the books are kept and nothing that is lent is written to. It
stops at a fault only if the grower does. -/
theorem Kept.allocateAligned_ends (kept : Kept fresh session lent) (sound : Grower.Sound fresh)
    {alignment : Word} (power : isPowerOfTwo alignment = true) :
    Ends (Heap.allocateAligned size alignment session)
      (fun answer after =>
        match answer with
        | some payload => HandsOut fresh session after lent { payload, size, alignment }
        | none => Keeps fresh session after lent)
      (fun fault after => Keeps fresh session after lent ∧ Stopped fault session after) := by
  by_cases refused : size = 0 ∨ Heap.demand size alignment = none
  · obtain ⟨event, silent, result⟩ := Heap.allocateAligned_refused power refused session
    exact Ends.of_ok result ⟨kept.recorded silent, fun _ _ => rfl,
      .of_memory_eq rfl (List.prefix_append _ _)⟩
  rw [not_or, ← ne_eq, ← ne_eq, Option.ne_none_iff_exists'] at refused
  obtain ⟨nonzero, total, demanded⟩ := refused
  cases kept with
  | balanced balanced =>
    exact (balanced.allocateAligned_ends power nonzero demanded sound).mono
      (fun _ _ ends => ends) fun _ _ ends => ⟨ends.1, .once ends.2⟩
  | idle idle => exact idle.allocateAligned_ends power nonzero demanded sound

end NextFit
