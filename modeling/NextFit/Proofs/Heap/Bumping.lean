/-
This file proves that a heap over a fixed buffer to which nothing is given back takes its blocks off
the front of the buffer, one after another. The first unit is the sentinel, a block begins where the
one before it ends, and nothing is ever free. Whatever was refused before, a request is met just if
its block fits in the rest of the buffer. So what the largest request may be, and how often
one and the same request is met, are matters of division.
-/

import NextFit.Proofs.Heap.Uses

namespace NextFit

variable {buffer : FixedBuffer} {session : Session FixedBuffer Exhausted} {list : FreeList}
  {blocks : List FreeBlock} {lent : Finset Nat} {grants : List Grant} {exchanges : List Exchange}
  {size : Word}

/-! ### Nothing free -/

/-- The heap has no free block, whether or not it has a free list. -/
def Heap.Clear {G : Type} (heap : Heap G) : Prop :=
  heap.freeBlocks = .ok none ∨ heap.freeBlocks = .ok (some [])

/-- A buffer that has a sentinel has handed out that unit and the given number of others. -/
def Packed (session : Session FixedBuffer Exhausted) (taken : Nat) : Prop :=
  session.heap.free ≠ none → session.heap.grower.used.toNat = 1 + taken

/-- What a buffer has handed out is the sentinel, what is lent and what is free. -/
theorem Balanced.used_eq (balanced : Balanced buffer session list blocks lent)
    (fresh : buffer.Fresh) :
    session.heap.grower.used.toNat = 1 + lent.card + (freeUnits blocks).card := by
  have sentinel : unitOf list.sentinel ∉ lent ∪ freeUnits blocks := by
    rw [Finset.mem_union, not_or]
    exact ⟨balanced.sentinelApart, balanced.holds.canonical.sentinel_notMem⟩
  rw [← FixedBuffer.card_owned fresh balanced.grower, ← balanced.covers,
    Finset.card_insert_of_notMem sentinel, Finset.card_union_of_disjoint balanced.apart]
  omega

theorem Balanced.used_of_nil (balanced : Balanced buffer session list [] lent)
    (fresh : buffer.Fresh) : session.heap.grower.used.toNat = 1 + lent.card := by
  rw [balanced.used_eq fresh, freeUnits_nil, Finset.card_empty, Nat.add_zero]

/-- If everything is lent but the sentinel there is no free block. -/
theorem Balanced.blocks_eq_nil (balanced : Balanced buffer session list blocks lent)
    (fresh : buffer.Fresh) (full : session.heap.grower.used.toNat = 1 + lent.card) :
    blocks = [] := by
  have used := balanced.used_eq fresh
  have none : freeUnits blocks = ∅ := Finset.card_eq_zero.mp (by omega)
  refine List.eq_nil_iff_forall_not_mem.mpr fun block member => ?_
  have nonempty := (balanced.holds.canonical.sits block member).nonempty
  have inside : unitOf block.header ∈ freeUnits blocks :=
    mem_covered.mpr ⟨_, List.mem_map_of_mem member, start_mem_stretch nonempty⟩
  rw [none] at inside
  exact absurd inside (Finset.notMem_empty _)

theorem Sustained.clear (sustained : Sustained buffer grants session) (fresh : buffer.Fresh)
    (packed : Packed session (lentTo grants).card) : session.heap.Clear := by
  by_cases idle : session.heap.free = none
  · exact Or.inl (by rw [Heap.freeBlocks, idle])
  · obtain ⟨list, blocks, balanced⟩ := sustained.exists_balanced idle
    have listed := balanced.freeBlocks_eq
    rw [balanced.blocks_eq_nil fresh (packed idle)] at listed
    exact Or.inr listed

/-! ### One request -/

/-- The buffer of a heap is the one that the heap began with, as far as it is not used up. -/
theorem Balanced.grower_lies (balanced : Balanced buffer session list blocks lent)
    (fresh : buffer.Fresh) :
    session.heap.grower.base = buffer.base ∧
      session.heap.grower.remaining.toNat = buffer.capacity.toNat - session.heap.grower.used.toNat ∧
      Lies session.heap.grower.base session.heap.grower.capacity := by
  obtain ⟨base, capacity, -⟩ := FixedBuffer.owned_eq fresh balanced.grower
  refine ⟨base, ?_, base ▸ capacity ▸ fresh.lies⟩
  rw [FixedBuffer.toNat_remaining, capacity]

/-- What a plain request demands. -/
theorem Heap.demand_of_fits (fits : size.toNat + 15 < 2 ^ 64) :
    Heap.demand size headerAlignment = some (unitsFor size) := by
  rw [Heap.demand_eq, if_pos fits, if_pos (UInt64.le_refl _)]

/-- The number of units of a block that fits in a buffer is computed without an overflow. -/
theorem FixedBuffer.Fresh.fits (fresh : buffer.Fresh)
    (room : (unitsFor size).toNat ≤ buffer.capacity.toNat) : size.toNat + 15 < 2 ^ 64 := by
  have within := fresh.within
  have units := toNat_unitsFor size
  omega

/-- With nothing free, a block that fits in the rest of the buffer is put at its beginning. -/
theorem Balanced.bump_granted (balanced : Balanced buffer session list [] lent)
    (fresh : buffer.Fresh) (nonzero : size ≠ 0)
    (room : 1 + lent.card + (unitsFor size).toNat ≤ buffer.capacity.toNat) :
    ∃ payload after, Heap.allocate size session = .ok (some payload) after ∧
      (headerBelow payload).toNat = buffer.base.toNat + 16 * (1 + lent.card) ∧
      after.heap.grower.used.toNat = 1 + lent.card + (unitsFor size).toNat := by
  obtain ⟨base, remaining, lies⟩ := balanced.grower_lies fresh
  have used := balanced.used_of_nil fresh
  have fits : unitsFor size ≤ session.heap.grower.remaining :=
    UInt64.le_iff_toNat_le.mpr (by omega)
  obtain ⟨-, place, sum⟩ := FixedBuffer.next_lies lies (unitsFor_ne_zero size) fits
  obtain ⟨grower, granted⟩ := FixedBuffer.exists_grow (unitsFor_ne_zero size) fits
  obtain ⟨payload, after, result, asks, -, block, run, subset, carved⟩ :=
    balanced.allocateAligned_granted isPowerOfTwo_headerAlignment nonzero
      (Heap.demand_of_fits (fresh.fits (by omega))) (FixedBuffer.sound fresh) nofun granted
  rw [← Heap.allocate_eq] at result
  refine ⟨payload, after, result, ?_, ?_⟩
  · -- The free block that the new units became a part of has no others.
    have inside := run.inside
    rw [freeUnits_nil, Finset.union_empty] at inside
    obtain ⟨here, units⟩ := stretch_inj run.nonempty (inside.antisymm subset)
    obtain ⟨lead, few, header⟩ := carved.inside
    have none : lead = 0 := UInt64.toNat_inj.mp (show lead.toNat = 0 by
      have few : lead.toNat + (unitsFor size).toNat ≤ (unitsFor size).toNat := few
      omega)
    rw [none, above_zero, units, UInt64.sub_self, above_zero] at header
    rw [place, base, used] at here
    have baseUnit := fresh.lies.toNat_eq
    have headerUnit := run.lies.toNat_eq
    show (Grant.header { payload, size, alignment := headerAlignment }).toNat = _
    rw [header]
    omega
  · obtain ⟨-, -, -, -, -, usedAfter⟩ := FixedBuffer.grow_ok asks.grower
    rw [usedAfter, sum, used]

/-- Otherwise it is refused, and nothing changes but the log. -/
theorem Balanced.bump_refused (balanced : Balanced buffer session list [] lent)
    (fresh : buffer.Fresh) (nonzero : size ≠ 0) (fits : size.toNat + 15 < 2 ^ 64)
    (full : buffer.capacity.toNat < 1 + lent.card + (unitsFor size).toNat) :
    ∃ after, Heap.allocate size session = .ok none after ∧ after.heap = session.heap := by
  obtain ⟨-, remaining, -⟩ := balanced.grower_lies fresh
  have used := balanced.used_of_nil fresh
  have beyond : ¬unitsFor size ≤ session.heap.grower.remaining := by
    rw [UInt64.le_iff_toNat_le]
    have positive := toNat_unitsFor size
    omega
  rw [Heap.allocate_eq]
  exact ⟨_, balanced.allocateAligned_refused isPowerOfTwo_headerAlignment nonzero
    (Heap.demand_of_fits fits) nofun
    (FixedBuffer.grow_eq_error (unitsFor_ne_zero size) beyond), rfl⟩

/-- How a request ends when nothing is free and some units were taken before. -/
structure Bumps (buffer : FixedBuffer) (taken : Nat) (size : Word) (answer : Option Address)
    (after : Session FixedBuffer Exhausted) : Prop where
  served : answer.isSome = true ↔
    size ≠ 0 ∧ 1 + taken + (unitsFor size).toNat ≤ buffer.capacity.toNat
  place : ∀ payload ∈ answer,
    (headerBelow payload).toNat = buffer.base.toNat + 16 * (1 + taken)
  packed : Packed after (taken + if answer.isSome then (unitsFor size).toNat else 0)

/-- A request that is not met takes nothing. -/
theorem Bumps.of_none {taken : Nat} {after : Session FixedBuffer Exhausted}
    (packed : Packed after taken)
    (unmet : size ≠ 0 → buffer.capacity.toNat < 1 + taken + (unitsFor size).toNat) :
    Bumps buffer taken size none after where
  served := ⟨nofun, fun ⟨nonzero, room⟩ => absurd room (Nat.not_le.mpr (unmet nonzero))⟩
  place := nofun
  packed := packed

theorem Balanced.bumps (balanced : Balanced buffer session list [] lent) (fresh : buffer.Fresh)
    (nonzero : size ≠ 0) (fits : size.toNat + 15 < 2 ^ 64) :
    ∃ answer after, Heap.allocate size session = .ok answer after ∧
      Bumps buffer lent.card size answer after := by
  rcases Nat.lt_or_ge buffer.capacity.toNat (1 + lent.card + (unitsFor size).toNat) with full | room
  · obtain ⟨after, result, same⟩ := balanced.bump_refused fresh nonzero fits full
    refine ⟨none, after, result, .of_none (fun _ => ?_) fun _ => full⟩
    rw [same, balanced.used_of_nil fresh]
  · obtain ⟨payload, after, result, place, used⟩ := balanced.bump_granted fresh nonzero room
    refine ⟨some payload, after, result, ⟨fun _ => ⟨nonzero, room⟩, fun _ => rfl⟩, ?_, fun _ => ?_⟩
    · rintro _ ⟨⟩
      exact place
    · rw [used, Nat.add_assoc]
      rfl

theorem Idle.used_eq (idle : Idle buffer session) (fresh : buffer.Fresh) :
    session.heap.grower.used.toNat = 0 := by
  rw [← FixedBuffer.card_owned fresh idle.grower, idle.nothing]
  rfl

/-- A heap that has no list takes the sentinel first. -/
theorem Idle.bumps (idle : Idle buffer session) (fresh : buffer.Fresh)
    (nonzero : size ≠ 0) (fits : size.toNat + 15 < 2 ^ 64) :
    ∃ answer after, Heap.allocate size session = .ok answer after ∧
      Bumps buffer 0 size answer after := by
  have demanded := Heap.demand_of_fits fits
  obtain ⟨-, capacity, -⟩ := FixedBuffer.owned_eq fresh idle.grower
  have one : (1 : Word).toNat = 1 := rfl
  have power := isPowerOfTwo_headerAlignment
  by_cases some : 1 ≤ session.heap.grower.remaining
  · obtain ⟨grower, granted⟩ := FixedBuffer.exists_grow (by decide) some
    obtain ⟨middle, starts, onward⟩ :=
      idle.allocateAligned_granted power nonzero demanded (FixedBuffer.sound fresh) granted
    rw [Heap.allocate_eq, onward, ← Heap.allocate_eq]
    exact starts.balanced.bumps fresh nonzero fits
  · rw [Heap.allocate_eq]
    refine ⟨none, _, idle.allocateAligned_refused power nonzero demanded
      (FixedBuffer.grow_eq_error (by decide) some), .of_none ?_ fun _ => ?_⟩
    · exact fun started => absurd idle.free started
    · rw [UInt64.le_iff_toNat_le, one, FixedBuffer.toNat_remaining, capacity,
        idle.used_eq fresh] at some
      have positive := toNat_unitsFor size
      omega

/-- A heap over a buffer to which nothing was given back meets a request just if the rest of the
buffer is enough for it. -/
theorem Sustained.bumps (sustained : Sustained buffer grants session) (fresh : buffer.Fresh)
    (packed : Packed session (lentTo grants).card) (size : Word) :
    ∃ answer after, Heap.allocate size session = .ok answer after ∧
      Bumps buffer (lentTo grants).card size answer after := by
  have within := fresh.within
  have units := toNat_unitsFor size
  by_cases met : size ≠ 0 ∧ size.toNat + 15 < 2 ^ 64
  · obtain ⟨nonzero, fits⟩ := met
    by_cases started : session.heap.free = none
    · rw [sustained.grants_eq_nil started]
      exact (sustained.idle started).bumps fresh nonzero fits
    · obtain ⟨list, blocks, balanced⟩ := sustained.exists_balanced started
      obtain rfl := balanced.blocks_eq_nil fresh (packed started)
      exact balanced.bumps fresh nonzero fits
  · rw [not_and_or, not_not] at met
    have refused : size = 0 ∨ Heap.demand size headerAlignment = none :=
      met.imp_right fun beyond => by rw [Heap.demand_eq, if_neg beyond]
    obtain ⟨event, -, result⟩ : ∃ event : Event Exhausted, _ ∧ _ :=
      Heap.allocateAligned_refused isPowerOfTwo_headerAlignment refused session
    rw [Heap.allocate_eq]
    exact ⟨none, _, result, .of_none packed fun nonzero => by
      have beyond := met.resolve_left nonzero
      omega⟩

/-! ### A run of requests -/

/-- The units of the blocks of some grants, one by one. -/
def unitsTaken (grants : List Grant) : Nat :=
  (grants.map fun grant => (unitsFor grant.size).toNat).sum

theorem Sustained.card_lentTo {G E : Type} [Grower G E] {fresh : G} {session : Session G E}
    (sustained : Sustained fresh grants session) : (lentTo grants).card = unitsTaken grants := by
  rw [lentTo, card_covered sustained.apart, List.map_map, unitsTaken]
  exact congrArg List.sum (List.map_congr_left fun grant _ => card_stretch _ _)

/-- A request that hands nothing in adds to the grants what it is granted. -/
theorem Request.serve_of_given {G E : Type} [Grower G E] {request : Request}
    (given : request.given = none) (grants : List Grant) (session : Session G E) :
    (request.serve grants session).1 =
      (Exchange.mk request (request.reply session)).granted.toList ++ grants := by
  unfold serve reply
  cases ran : request.run session with
  | error fault after => rfl
  | ok answer after =>
    cases answer with
    | none => exact settle_none_of_given given
    | some payload =>
      show _ :: without request.given grants = _ :: grants
      rw [given, without_none]

/-- As long as no payload is handed in, what was granted stays so. -/
theorem Uses.grants_eq {G E : Type} [Grower G E] {session after : Session G E}
    (uses : Uses [] session exchanges grants after)
    (plain : ∀ exchange ∈ exchanges, exchange.request.given = none) :
    grants = exchanges.filterMap Exchange.granted := by
  induction uses with
  | done => rfl
  | call _ request _ _ inductionHypothesis =>
    obtain ⟨given, plain⟩ := List.forall_mem_cons.mp plain
    rw [Request.serve_of_given given, inductionHypothesis plain]
    cases granted : Exchange.granted _ with
    | none => exact (List.filterMap_cons_none granted).symm
    | some grant => exact (List.filterMap_cons_some granted).symm
  | store _ _ _ _ inductionHypothesis => exact inductionHypothesis plain
  | elsewhere _ _ inductionHypothesis => exact inductionHypothesis plain

/-- What a plain request leaves behind: its answer, and the grants with its own. -/
theorem Bumps.serve {taken : Nat} {answer : Option Address}
    {after : Session FixedBuffer Exhausted} (bumps : Bumps buffer taken size answer after)
    (result : Heap.allocate size session = .ok answer after) (before : taken = unitsTaken grants) :
    ((Request.allocate size).serve grants session).2 = after ∧
      unitsTaken ((Request.allocate size).serve grants session).1 =
        taken + if answer.isSome then (unitsFor size).toNat else 0 := by
  have served : (Request.allocate size).serve grants session =
      ((Request.allocate size).settle grants answer, after) := by
    have ran : (Request.allocate size).run session = .ok answer after := result
    rw [Request.serve, ran]
  rw [served]
  refine ⟨rfl, ?_⟩
  cases answer with
  | none =>
    rw [Request.settle_none_of_given rfl, before]
    rfl
  | some payload =>
    show unitsTaken (_ :: Request.without none grants) = _
    rw [Request.without_none, before, Nat.add_comm]
    exact List.sum_cons

section Run

variable {memory : Memory}
  (uses : Uses [] { heap := { memory, grower := buffer } } exchanges grants session)
  (plain : ∀ exchange ∈ exchanges, ∃ size, exchange.request = .allocate size)

include uses plain

/-- However many requests there were, met or not, nothing is free. -/
theorem Uses.packed (fresh : buffer.Fresh) : Packed session (unitsTaken grants) := by
  induction uses with
  | done => exact fun started => absurd rfl started
  | @call exchanges grants session uses request _ legal inductionHypothesis =>
    obtain ⟨⟨size, rfl⟩, earlier⟩ := List.forall_mem_cons.mp plain
    have sustained := ((Reached.start memory).uses uses).sustained (FixedBuffer.sound fresh)
    have count := sustained.card_lentTo
    have packed := inductionHypothesis earlier
    rw [← count] at packed
    obtain ⟨answer, after, result, bumps⟩ := sustained.bumps fresh packed size
    obtain ⟨same, taken⟩ := bumps.serve result count
    rw [same, taken]
    exact bumps.packed
  | store _ _ _ _ inductionHypothesis => exact inductionHypothesis plain
  | elsewhere _ _ inductionHypothesis => exact inductionHypothesis plain

theorem Uses.bumps (fresh : buffer.Fresh) (size : Word) :
    ∃ answer after, Heap.allocate size session = .ok answer after ∧
      Bumps buffer (unitsTaken grants) size answer after := by
  have sustained := ((Reached.start memory).uses uses).sustained (FixedBuffer.sound fresh)
  have packed := uses.packed plain fresh
  rw [← sustained.card_lentTo] at packed ⊢
  exact sustained.bumps fresh packed size

theorem Uses.clear (fresh : buffer.Fresh) : session.heap.Clear := by
  have sustained := ((Reached.start memory).uses uses).sustained (FixedBuffer.sound fresh)
  have packed := uses.packed plain fresh
  rw [← sustained.card_lentTo] at packed
  exact sustained.clear fresh packed

end Run

/-! ### One request over and over -/

/-- After as many blocks of one size as were asked for, or as there is room for, another one fits
just if not all of that room was asked for. -/
theorem fits_again_iff {capacity units count : Nat} (positive : 0 < units) :
    1 + units * min count ((capacity - 1) / units) + units ≤ capacity ↔
      count < (capacity - 1) / units := by
  have room : min count ((capacity - 1) / units) + 1 ≤ (capacity - 1) / units ↔
      (min count ((capacity - 1) / units) + 1) * units ≤ capacity - 1 :=
    Nat.le_div_iff_mul_le positive
  rw [Nat.add_one_mul, Nat.mul_comm] at room
  omega

/-- What is taken by one request over and over: a block for each time, until there is no room. -/
theorem Uses.unitsTaken_repeated {memory : Memory}
    (uses : Uses [] { heap := { memory, grower := buffer } } exchanges grants session)
    (fresh : buffer.Fresh) (nonzero : size ≠ 0)
    (same : ∀ exchange ∈ exchanges, exchange.request = .allocate size) :
    unitsTaken grants = (unitsFor size).toNat *
      min exchanges.length ((buffer.capacity.toNat - 1) / (unitsFor size).toNat) := by
  induction uses with
  | done =>
    rw [List.length_nil, Nat.zero_min, Nat.mul_zero]
    rfl
  | @call exchanges grants session uses request _ legal inductionHypothesis =>
    obtain ⟨rfl, earlier⟩ := List.forall_mem_cons.mp same
    have positive := toNat_pos_of_ne_zero (unitsFor_ne_zero size)
    have taken := inductionHypothesis earlier
    obtain ⟨answer, after, result, bumps⟩ :=
      uses.bumps (fun exchange member => ⟨size, earlier exchange member⟩) fresh size
    have served := bumps.served
    rw [taken, fits_again_iff positive, and_iff_right nonzero] at served
    rw [(bumps.serve result rfl).2, taken, List.length_cons]
    by_cases room : exchanges.length < (buffer.capacity.toNat - 1) / (unitsFor size).toNat
    · rw [if_pos (served.mpr room), Nat.min_eq_left (Nat.le_of_lt room), Nat.min_eq_left room,
        Nat.mul_add_one]
    · rw [if_neg (mt served.mp room), Nat.min_eq_right (Nat.not_lt.mp room),
        Nat.min_eq_right (Nat.le_succ_of_le (Nat.not_lt.mp room)), Nat.add_zero]
  | store _ _ _ _ inductionHypothesis => exact inductionHypothesis same
  | elsewhere _ _ inductionHypothesis => exact inductionHypothesis same

/-! ### Front to back -/

/-- The most bytes that a heap over a buffer can hand out in one block, as a number. -/
theorem FixedBuffer.Fresh.exists_maxAllocation (fresh : buffer.Fresh) (memory : Memory) :
    ∃ most, Heap.maxAllocation { memory, grower := buffer } = .ok most ∧
      most.toNat = 16 * (buffer.capacity.toNat - 2) := by
  have unitSize : unitBytes.toNat = 16 := rfl
  have two : (2 : Word).toNat = 2 := rfl
  have within := fresh.within
  have units : (if buffer.capacity < 2 then 0 else buffer.capacity - 2).toNat =
      buffer.capacity.toNat - 2 := by
    split
    · next few =>
      rw [UInt64.lt_iff_toNat_lt, two] at few
      rw [UInt64.toNat_zero]
      omega
    · next more => rw [UInt64.toNat_sub_of_le _ _ (UInt64.not_lt.mp more), two]
  have fits : (if buffer.capacity < 2 then 0 else buffer.capacity - 2).toNat * unitBytes.toNat <
      2 ^ 64 := by
    rw [units, unitSize]
    omega
  refine ⟨_, times_of_lt fits, ?_⟩
  rw [toNat_of_times (times_of_lt fits), units, unitSize, Nat.mul_comm]

/-- A block fits in a buffer just if the number of its units can be computed and is small enough. -/
theorem FixedBuffer.Fresh.fits_iff (fresh : buffer.Fresh) {taken : Nat} :
    (∃ units, blockUnits size = .ok (some units) ∧
        taken + units.toNat ≤ buffer.capacity.toNat) ↔
      taken + (unitsFor size).toNat ≤ buffer.capacity.toNat := by
  constructor
  · rintro ⟨units, counted, room⟩
    rwa [(fits_of_blockUnits counted).2] at room
  · intro room
    refine ⟨unitsFor size, ?_, room⟩
    rw [blockUnits_eq, if_pos (fresh.fits (by omega))]

/-- A heap over a buffer of which nothing but plain requests is made, met or not, meets the next one
just if its block fits in behind the sentinel and the blocks before, and puts it there. Nothing is
ever free. One request is met over and over as often as its block goes into the buffer without the
sentinel, and a first request is met if it is for no more than the heap says that it can be for. -/
theorem FixedBuffer.Fresh.front_to_back (fresh : buffer.Fresh) :
    (∀ {memory : Memory} {exchanges : List Exchange} {grants : List Grant}
        {session : Session FixedBuffer Exhausted},
      Uses [] { heap := { memory, grower := buffer } } exchanges grants session →
      (∀ exchange ∈ exchanges, ∃ size, exchange.request = .allocate size) →
      session.heap.Clear ∧
      ∀ size, ∃ answer after, Heap.allocate size session = .ok answer after ∧
        (answer.isSome = true ↔ size ≠ 0 ∧ ∃ units, blockUnits size = .ok (some units) ∧
          1 + unitsTaken (exchanges.filterMap Exchange.granted) + units.toNat ≤
            buffer.capacity.toNat) ∧
        (∀ payload ∈ answer, (headerBelow payload).toNat =
          buffer.base.toNat + 16 * (1 + unitsTaken (exchanges.filterMap Exchange.granted))) ∧
        after.heap.Clear ∧
        (size ≠ 0 → (∀ exchange ∈ exchanges, exchange.request = .allocate size) →
          ∀ units, blockUnits size = .ok (some units) →
            (answer.isSome = true ↔
              exchanges.length < (buffer.capacity.toNat - 1) / units.toNat))) ∧
    ∀ memory, ∃ most, Heap.maxAllocation { memory, grower := buffer } = .ok most ∧
      ∀ size, (∃ payload after,
        Heap.allocate size { heap := { memory, grower := buffer } } = .ok (some payload) after) ↔
          size ≠ 0 ∧ size ≤ most := by
  refine ⟨fun {memory exchanges grants session} uses plain => ⟨uses.clear plain fresh,
    fun size => ?_⟩, fun memory => ?_⟩
  · obtain ⟨answer, after, result, bumps⟩ := uses.bumps plain fresh size
    have nothing : ∀ exchange ∈ exchanges, exchange.request.given = none := by
      intro exchange member
      obtain ⟨size, same⟩ := plain exchange member
      rw [same]
      rfl
    rw [← uses.grants_eq nothing, fresh.fits_iff]
    refine ⟨answer, after, result, bumps.served, bumps.place, ?_,
      fun nonzero same units counted => ?_⟩
    · have longer := uses.call (.allocate size) rfl ⟨nofun, isPowerOfTwo_headerAlignment, nofun⟩
      rw [← (bumps.serve result rfl).1]
      exact longer.clear (List.forall_mem_cons.mpr ⟨⟨size, rfl⟩, plain⟩) fresh
    · rw [(fits_of_blockUnits counted).2, bumps.served, uses.unitsTaken_repeated fresh nonzero same,
        fits_again_iff (toNat_pos_of_ne_zero (unitsFor_ne_zero size)), and_iff_right nonzero]
  · obtain ⟨most, computed, value⟩ := fresh.exists_maxAllocation memory
    refine ⟨most, computed, fun size => ?_⟩
    have start : Uses [] ({ heap := { memory, grower := buffer } } : Session FixedBuffer Exhausted)
        [] [] _ := .done
    obtain ⟨answer, after, result, bumps⟩ := start.bumps (List.forall_mem_nil _) fresh size
    have none : unitsTaken [] = 0 := rfl
    have served := bumps.served
    have units := toNat_unitsFor size
    rw [none] at served
    rw [result, UInt64.le_iff_toNat_le, value]
    refine ⟨?_, fun ⟨nonzero, small⟩ => ?_⟩
    · rintro ⟨payload, other, same⟩
      cases same
      obtain ⟨nonzero, room⟩ := served.mp rfl
      exact ⟨nonzero, by omega⟩
    · have positive := toNat_pos_of_ne_zero nonzero
      obtain ⟨payload, rfl⟩ :=
        Option.isSome_iff_exists.mp (served.mpr ⟨nonzero, by omega⟩)
      exact ⟨payload, after, rfl⟩

/-- In a small buffer a block of eight units stands behind one of four. -/
theorem front_to_back_smallBuffer :
    ∃ (exchanges : List Exchange) (grants : List Grant) (session : Session FixedBuffer Exhausted)
      (payload : Address) (after : Session FixedBuffer Exhausted),
      Uses [] { heap := { grower := smallBuffer } } exchanges grants session ∧
      exchanges.map Exchange.request = [.allocate 40] ∧
      Heap.allocate 100 session = .ok (some payload) after ∧
      (headerBelow payload).toNat = 4096 + 16 * (1 + 4) := by
  have uses := (Uses.done : Uses [] ({ heap := { grower := smallBuffer } } :
    Session FixedBuffer Exhausted) [] [] _).call (.allocate 40) rfl ⟨nofun, by decide, nofun⟩
  obtain ⟨-, serves⟩ := smallBuffer_fresh.front_to_back.1 uses
    (List.forall_mem_singleton.mpr ⟨40, rfl⟩)
  obtain ⟨answer, after, result, served, place, -⟩ := serves 100
  obtain ⟨payload, rfl⟩ := Option.isSome_iff_exists.mp
    (served.mpr ⟨by decide, 8, by decide, by decide +kernel⟩)
  refine ⟨_, _, _, payload, after, uses, rfl, result, ?_⟩
  rw [place payload rfl]
  decide +kernel

/-- Three units, of which the first one becomes the sentinel. -/
def threeUnits : FixedBuffer :=
  { base := 68719476736, capacity := 3 }

/-- The units for a request for nothing can be computed, and the block would go into the other two
units twice. Yet the first such request is refused. -/
theorem nothing_never_repeated :
    threeUnits.Fresh ∧ blockUnits 0 = .ok (some 1) ∧
      (∃ after, Heap.allocate 0 { heap := { grower := threeUnits } } = .ok none after) ∧
      ¬((∃ payload after, Heap.allocate 0 { heap := { grower := threeUnits } } =
          .ok (some payload) after) ↔
        0 < (threeUnits.capacity.toNat - 1) / (1 : Word).toNat) := by
  refine ⟨⟨by decide, by decide, by decide, rfl⟩, by decide, ⟨_, rfl⟩, fun met => ?_⟩
  obtain ⟨payload, after, result⟩ := met.mpr (by decide)
  cases result

end NextFit
