/-
This file proves what a heap does when it makes room. The first region that comes from the
grower gives the sentinel and perhaps one free block. A block is taken from the free
blocks if one of them is large enough, and otherwise the grower is asked once. The region
that it hands over ends up in one free block that is large enough for the request, and so
it is not asked again.
-/

import NextFit.Proofs.Heap.Balance

namespace NextFit

variable {G E : Type} [Grower G E] {fresh : G} {session : Session G E} {list : FreeList}
  {blocks : List FreeBlock} {lent : Finset Nat} {wanted : Word}

/-! ### Growth -/

omit [Grower G E] in
/-- The session after the grower has answered. -/
def Session.answered (session : Session G E) (grower : G) (event : Event E) : Session G E :=
  { heap := { session.heap with grower }, log := session.log ++ [event] }

theorem growBy_eq (session : Session G E) (wanted : Word) :
    Action.growBy wanted session =
      match Grower.grow wanted session.heap.grower with
      | .error fault grower => .error fault { session with heap := { session.heap with grower } }
      | .ok (.error error) grower =>
        .ok none (session.answered grower (.growthFailed wanted error))
      | .ok (.ok region) grower =>
        if region.units < wanted then
          .error .shortGrowth
            (session.answered grower (.grew region.units region.start wanted))
        else .ok (some region)
          (session.answered grower (.grew region.units region.start wanted)) := by
  unfold Action.growBy
  cases grown : Grower.grow wanted session.heap.grower with
  | error fault grower =>
    refine bind_of_error ?_
    rw [Action.onGrower, grown]
  | ok answer grower =>
    have asked : (Action.onGrower (Grower.grow wanted) : Action G E (Except E Region)) session =
        .ok answer { session with heap := { session.heap with grower } } := by
      rw [Action.onGrower, grown]
    rw [bind_of_ok asked]
    cases answer with
    | error error => rfl
    | ok region =>
      by_cases short : region.units < wanted
      · simp only [if_pos short]
        rfl
      · simp only [if_neg short]
        rfl

section Answers

variable {grower : G} {region : Region}

theorem growBy_granted (serves : Grower.Serves (grown session.log) wanted region)
    (granted : Grower.grow wanted session.heap.grower = .ok (.ok region) grower) :
    Action.growBy wanted session = .ok (some region)
      (session.answered grower (.grew region.units region.start wanted)) := by
  rw [growBy_eq, granted]
  exact if_neg (UInt64.not_lt.mpr serves.enough)

theorem growBy_refused {error : E}
    (refused : Grower.grow wanted session.heap.grower = .ok (.error error) grower) :
    Action.growBy wanted session =
      .ok none (session.answered grower (.growthFailed wanted error)) := by
  rw [growBy_eq, refused]

theorem growBy_faulted {fault : Fault}
    (faulted : Grower.grow wanted session.heap.grower = .error fault grower) :
    Action.growBy wanted session =
      .error fault { session with heap := { session.heap with grower } } := by
  rw [growBy_eq, faulted]

/-- A region that was granted is lent at first. -/
theorem Balanced.granted (balanced : Balanced fresh session list blocks lent)
    (serves : Grower.Serves (grown session.log) wanted region)
    (granted : Grower.grow wanted session.heap.grower = .ok (.ok region) grower) :
    Balanced fresh (session.answered grower (.grew region.units region.start wanted)) list blocks
      (region.stretch ∪ lent) := by
  have apart := serves.disjoint_owned
  have log : grown (session.answered grower (.grew region.units region.start wanted)).log =
      region :: grown session.log := grown_append _ _
  rw [← balanced.covers, Finset.disjoint_insert_right, Finset.disjoint_union_right] at apart
  refine ⟨?_, balanced.free, balanced.holds, ?_, ?_, ?_, ?_⟩
  · rw [log]
    exact balanced.grower.granted granted
  · rw [log, owned_cons, ← balanced.covers, Finset.union_insert, Finset.union_assoc]
  · rw [Finset.mem_union, not_or]
    exact ⟨apart.1, balanced.sentinelApart⟩
  · rw [Finset.disjoint_union_left]
    exact ⟨apart.2.2, balanced.apart⟩
  · obtain ⟨first, last, start⟩ := Option.map_eq_some_iff.mp balanced.root
    rw [log, List.getLast?_cons, last]
    exact congrArg some start

theorem Balanced.refused (balanced : Balanced fresh session list blocks lent) {error : E}
    (refused : Grower.grow wanted session.heap.grower = .ok (.error error) grower) :
    Balanced fresh (session.answered grower (.growthFailed wanted error)) list blocks lent := by
  have log : grown (session.answered grower (.growthFailed wanted error)).log =
      grown session.log := grown_append _ _
  refine ⟨?_, balanced.free, balanced.holds, ?_, balanced.sentinelApart, balanced.apart, ?_⟩
  · rw [log]
    exact balanced.grower.refused refused
  · rw [log]
    exact balanced.covers
  · rw [log]
    exact balanced.root

theorem Balanced.faulted (balanced : Balanced fresh session list blocks lent) {fault : Fault}
    (faulted : Grower.grow wanted session.heap.grower = .error fault grower) :
    Balanced fresh { session with heap := { session.heap with grower } } list blocks lent :=
  ⟨balanced.grower.faulted faulted, balanced.free, balanced.holds, balanced.covers,
    balanced.sentinelApart, balanced.apart, balanced.root⟩

end Answers

/-! ### The first region -/

/-- The free blocks of a heap that has got its first region. -/
def Region.rest (region : Region) : List FreeBlock :=
  if 1 < region.units then [{ header := region.start.above 1, units := region.units - 1 }] else []

/-- The list of these blocks. Its sentinel stands in the first unit of the region. -/
def Region.freeList (region : Region) : FreeList :=
  { sentinel := region.start, rover := region.start }

/-- The first unit of a region becomes the sentinel and the rest of it becomes free. -/
theorem Region.rest_spec {region : Region} (lies : Lies region.start region.units)
    (nonempty : 1 ≤ region.units) :
    Canonical region.start region.rest ∧
      insert (unitOf region.start) (freeUnits region.rest) = region.stretch := by
  have one : (1 : Word).toNat = 1 := rfl
  have enough := UInt64.le_iff_toNat_le.mp nonempty
  have sentinelLies : Lies region.start 1 := lies.mono enough
  unfold rest
  by_cases more : 1 < region.units
  · rw [if_pos more]
    have inside := UInt64.lt_iff_toNat_lt.mp more
    have difference : (region.units - 1).toNat = region.units.toNat - 1 :=
      UInt64.toNat_sub_of_le _ _ nonempty
    have parts : region.stretch = NextFit.stretch region.start 1 ∪
        NextFit.stretch (region.start.above 1) (region.units - 1) :=
      lies.stretch_eq_union inside (by omega)
    have apart := lies.disjoint_parts inside (region.units - 1)
    have upper : Lies (region.start.above 1) (region.units - 1) := lies.above inside (by omega)
    have sits : FreeBlock.Sits region.start
        { header := region.start.above 1, units := region.units - 1 } := by
      refine ⟨upper, fun zero => ?_, fun here => ?_⟩
      · have none : (region.units - 1).toNat = 0 := congrArg UInt64.toNat zero
        omega
      · exact Finset.disjoint_left.mp apart (start_mem_stretch (by decide)) here
    refine ⟨⟨sentinelLies, List.forall_mem_singleton.mpr sits, List.pairwise_singleton _ _⟩, ?_⟩
    rw [freeUnits_cons, freeUnits_nil, Finset.union_empty, parts]
    ext unit
    simp only [FreeBlock.stretch, Finset.mem_insert, Finset.mem_union, mem_stretch]
    omega
  · rw [if_neg more]
    have most := UInt64.le_iff_toNat_le.mp (UInt64.not_lt.mp more)
    refine ⟨⟨sentinelLies, List.forall_mem_nil _, List.Pairwise.nil⟩, ?_⟩
    ext unit
    rw [freeUnits_nil, Finset.mem_insert, Region.stretch, mem_stretch]
    simp only [Finset.notMem_empty, or_false]
    omega

/-- The free list of a heap that has got its first region holds the rest of it. No other memory was
written to, and nothing is tagged. -/
theorem start_spec {region : Region} (lies : Lies region.start region.units)
    (nonempty : 1 ≤ region.units) {grower : G}
    (asked : Action.growBy 1 session =
      .ok (some region) (session.answered grower (.grew region.units region.start 1))) :
    ∃ memory, Action.start session = .ok (some region.freeList)
        { session.answered grower (.grew region.units region.start 1) with
          heap := { session.heap with grower, memory } } ∧
      region.freeList.Holds memory region.rest ∧
      (∀ address, unitOf address ∉ region.stretch →
        memory.header address = session.heap.memory.header address) ∧
      session.heap.memory.TagsOnly memory ∅ := by
  obtain ⟨canonical, units⟩ := region.rest_spec lies nonempty
  have outside : ∀ address, unitOf address ∉ region.stretch →
      unitOf address ≠ unitOf region.start ∧ unitOf address ∉ freeUnits region.rest := by
    intro address elsewhere
    rwa [← units, Finset.mem_insert, not_or] at elsewhere
  obtain ⟨⟨sentinel, rover⟩, memory, created, same, holds, frame⟩ :=
    FreeList.holds_create (canonical.sentinelLies) session.heap.memory
  obtain rfl : sentinel = region.start := same
  obtain rfl : rover = region.start := List.mem_singleton.mp holds.rover
  have tags : session.heap.memory.TagsOnly memory ∅ := by
    refine .of_frame (Header.isTagged_eq_false ?_)
      (fun address apart => frame address (Ne.symm apart)) ∅
    exact holds.canonical.aligned_of_mem (holds.next_mem List.mem_cons_self)
  have first : (Action.onMemory (FreeList.create region.start) : Action G E FreeList)
      (session.answered grower (.grew region.units region.start 1)) = .ok region.freeList _ :=
    onMemory_of_ok created
  unfold Action.start
  rw [bind_of_ok asked]
  dsimp only
  rw [bind_of_ok first]
  by_cases more : 1 < region.units
  · have rest : region.rest =
        [{ header := region.start.above 1, units := region.units - 1 }] := if_pos more
    rw [rest] at canonical outside ⊢
    obtain ⟨⟨sentinel, rover⟩, memoryAfter, blocksAfter, result, inserted⟩ :=
      holds.extend_spec (canonical.sits _ List.mem_cons_self) (Finset.disjoint_empty_right _)
    obtain rfl : sentinel = region.start := inserted.sentinel_eq
    -- The list was empty, so that the rest comes right after the sentinel, where the rover stays.
    obtain ⟨lower, upper, cuts, stops⟩ := inserted.rover
    obtain ⟨rfl, -⟩ := List.append_eq_nil_iff.mp cuts.nodes_eq.symm
    obtain rfl : rover = region.start := stops
    obtain rfl := inserted.holds.canonical.eq_of_freeUnits_eq canonical inserted.units
    refine ⟨memoryAfter, ?_, inserted.holds, fun address elsewhere => ?_,
      tags.trans inserted.tags⟩
    · rw [if_pos more]
      rw [bind_of_ok (onMemory_of_ok result)]
      rfl
    · obtain ⟨notSentinel, notFree⟩ := outside address elsewhere
      exact (inserted.frame address notSentinel notFree).trans (frame address notSentinel)
  · have rest : region.rest = [] := if_neg more
    rw [rest, if_neg more]
    exact ⟨memory, rfl, holds, fun address elsewhere => frame address (outside address elsewhere).1,
      tags⟩

/-- A step got a first region and set up the free list in it. -/
structure Starts (fresh : G) (region : Region) (before after : Session G E) : Prop where
  asks : Asks 1 (.ok region) before after
  log : after.log = before.log ++ [.grew region.units region.start 1]
  regions : grown after.log = [region]
  balanced : Balanced fresh after region.freeList region.rest ∅
  confined : Confined before after ∅

/-- With a first region the heap has a free list and has lent nothing. -/
theorem Idle.ready_granted (idle : Idle fresh session) (sound : Grower.Sound fresh) {grower : G}
    {region : Region} (granted : Grower.grow 1 session.heap.grower = .ok (.ok region) grower) :
    ∃ after, Action.ready session = .ok true after ∧ Starts fresh region session after := by
  have serves := sound.serves idle.grower granted
  obtain ⟨canonical, units⟩ := region.rest_spec serves.lies serves.enough
  obtain ⟨memory, started, holds, frame, tags⟩ :=
    start_spec serves.lies serves.enough (growBy_granted serves granted)
  have log : grown (session.answered grower (.grew region.units region.start 1)).log =
      region :: grown session.log := grown_append _ _
  have only : grown (session.answered grower (.grew region.units region.start 1)).log =
      [region] := idle.nothing ▸ log
  have all : owned (grown (session.answered grower (.grew region.units region.start 1)).log) =
      region.stretch := by
    rw [only, owned_cons]
    exact Finset.union_empty _
  refine ⟨{ session.answered grower (.grew region.units region.start 1) with
      heap := { memory, grower, free := some region.freeList } }, ?_,
    ⟨granted, asked_append _ _⟩, rfl, only,
    ⟨?_, rfl, holds, ?_, Finset.notMem_empty _, Finset.disjoint_empty_left _, ?_⟩,
    ⟨List.prefix_append _ _, ?_, tags⟩⟩
  · unfold Action.ready
    rw [get_bind, idle.free]
    show (Action.start >>= _) session = _
    rw [bind_of_ok started]
    rfl
  · show Grower.Reaches fresh (grown _) grower
    rw [log]
    exact idle.grower.granted granted
  · rw [all, Finset.empty_union]
    exact units
  · rw [only]
    rfl
  · intro address elsewhere
    exact frame address (all ▸ elsewhere)

theorem Idle.ready_refused (idle : Idle fresh session) {grower : G} {error : E}
    (refused : Grower.grow 1 session.heap.grower = .ok (.error error) grower) :
    Action.ready session = .ok false (session.answered grower (.growthFailed 1 error)) ∧
      Idle fresh (session.answered grower (.growthFailed 1 error)) := by
  have log : grown (session.answered grower (.growthFailed 1 error)).log =
      grown session.log := grown_append _ _
  constructor
  · unfold Action.ready
    rw [get_bind, idle.free]
    show (Action.start >>= _) session = _
    refine (bind_of_ok (?_ : Action.start session = .ok none _)).trans rfl
    unfold Action.start
    rw [bind_of_ok (growBy_refused refused)]
    rfl
  · refine ⟨?_, idle.free, log.trans idle.nothing⟩
    rw [log]
    exact idle.grower.refused refused

theorem Idle.ready_faulted (idle : Idle fresh session) {grower : G} {fault : Fault}
    (faulted : Grower.grow 1 session.heap.grower = .error fault grower) :
    Action.ready session = .error fault { session with heap := { session.heap with grower } } ∧
      Idle fresh { session with heap := { session.heap with grower } } := by
  constructor
  · unfold Action.ready
    rw [get_bind, idle.free]
    show (Action.start >>= _) session = _
    refine bind_of_error ?_
    unfold Action.start
    exact bind_of_error (growBy_faulted faulted)
  · exact ⟨idle.grower.faulted faulted, idle.free, idle.nothing⟩

theorem Balanced.ready (balanced : Balanced fresh session list blocks lent) :
    Action.ready session = .ok true session := by
  unfold Action.ready
  rw [get_bind, balanced.free]
  rfl

/-! ### Taking a block -/

/-- If the free blocks are too small, a region that is granted ends up in one that is large
enough, and that one is found. -/
theorem Balanced.grow_and_take (balanced : Balanced fresh session list blocks lent)
    {region : Region} {grower : G} (serves : Grower.Serves (grown session.log) wanted region)
    (nonzero : wanted ≠ 0) (small : ∀ block ∈ blocks, block.units < wanted)
    (granted : Grower.grow wanted session.heap.grower = .ok (.ok region) grower) :
    ∃ block header middle after,
      Action.addFree region.start region.units
          (session.answered grower (.grew region.units region.start wanted)) = .ok () middle ∧
      Action.takeFree wanted middle = .ok (some header) after ∧
      Asks wanted (.ok region) session after ∧
      block.IsRun (region.stretch ∪ freeUnits blocks) ∧ region.stretch ⊆ block.stretch ∧
      Lends fresh session after lent block wanted header := by
  have enough := UInt64.le_iff_toNat_le.mp serves.enough
  have regionNonzero : region.units ≠ 0 := fun zero =>
    nonzero (UInt64.le_zero_iff.mp (zero ▸ serves.enough))
  have apart := serves.disjoint_owned
  rw [← balanced.covers, Finset.disjoint_insert_right, Finset.disjoint_union_right] at apart
  have canonical := balanced.holds.canonical
  obtain ⟨middle, added, takesBack⟩ := (balanced.granted serves granted).addFree regionNonzero
    serves.lies Finset.subset_union_left
  obtain ⟨⟨listMiddle, stock, stocked, sentinel, sum⟩, quiet, spares, confined, -⟩ := takesBack
  have lentAgain : (region.stretch ∪ lent) \ region.stretch = lent := by
    rw [Finset.union_sdiff_left, Finset.sdiff_eq_self_of_disjoint apart.2.1.symm]
  replace stocked : Balanced fresh middle listMiddle stock lent := lentAgain ▸ stocked
  replace spares : Spares session middle lent := lentAgain ▸ spares
  replace sum : freeUnits stock = region.stretch ∪ freeUnits blocks := sum
  have stockCanonical := stocked.holds.canonical
  rw [sentinel] at stockCanonical
  obtain ⟨merged, mergedMember, subset⟩ := stockCanonical.exists_superset regionNonzero
    (sum ▸ Finset.subset_union_left)
  have mergedEnough : wanted ≤ merged.units := by
    have count := Finset.card_le_card subset
    rw [card_stretch, FreeBlock.stretch, card_stretch] at count
    exact UInt64.le_iff_toNat_le.mpr (Nat.le_trans enough count)
  obtain ⟨block, member, header, after, taken, laterQuiet, lends⟩ :=
    stocked.takeFree_some nonzero ⟨merged, mergedMember, mergedEnough⟩
  have same : block = merged := by
    by_contra different
    refine absurd (small block (stockCanonical.mem_of_disjoint canonical sum member ?_))
      (UInt64.not_lt.mpr lends.fits)
    rw [Finset.disjoint_left]
    exact fun unit here there => different
      (stockCanonical.eq_of_mem_stretch member mergedMember here (subset there))
  have run := stockCanonical.isRun_of_mem member
  rw [sum] at run
  have answered : Confined session
      (session.answered grower (.grew region.units region.start wanted)) ∅ :=
    .of_memory_eq rfl (List.prefix_append _ _)
  have asks : Asks wanted (.ok region) session
      (session.answered grower (.grew region.units region.start wanted)) :=
    ⟨granted, asked_append _ _⟩
  exact ⟨block, header, middle, after, added, taken, asks.quiet (quiet.trans laterQuiet), run,
    same ▸ subset, { lends with
      spares := spares.trans lends.spares
      confined := (answered.trans confined).trans lends.confined }⟩

theorem obtain_of_ready {middle : Session G E} (ready : Action.ready session = .ok true middle) :
    Action.obtain wanted session = Action.takeOrGrow wanted mostGrowths middle := by
  unfold Action.obtain
  rw [bind_of_ok ready, if_pos rfl]

/-- Two rounds of the search are enough. -/
theorem Balanced.obtain_eq (balanced : Balanced fresh session list blocks lent) (wanted : Word) :
    ∃ fuel, Action.obtain wanted session = Action.takeOrGrow wanted (fuel + 2) session := by
  obtain ⟨fuel, enough⟩ : ∃ fuel, mostGrowths = fuel + 2 := Nat.exists_eq_add_of_le' (by decide)
  exact ⟨fuel, enough ▸ obtain_of_ready balanced.ready⟩

/-- A block is taken from the list if one of them is large enough. -/
theorem Balanced.obtain_found (balanced : Balanced fresh session list blocks lent)
    (nonzero : wanted ≠ 0) (large : ∃ block ∈ blocks, wanted ≤ block.units) :
    ∃ block ∈ blocks, ∃ header after, Action.obtain wanted session = .ok (some header) after ∧
      Quiet session after ∧ Lends fresh session after lent block wanted header := by
  obtain ⟨block, member, header, after, result, quiet, lends⟩ :=
    balanced.takeFree_some nonzero large
  obtain ⟨fuel, search⟩ := balanced.obtain_eq wanted
  refine ⟨block, member, header, after, ?_, quiet, lends⟩
  rw [search, Action.takeOrGrow, bind_of_ok result]
  rfl

section Small

variable {grower : G} {region : Region} {error : E} {fault : Fault}

/-- Otherwise the grower is asked. What it grants is enough. -/
theorem Balanced.obtain_granted (balanced : Balanced fresh session list blocks lent)
    (sound : Grower.Sound fresh) (nonzero : wanted ≠ 0)
    (small : ∀ block ∈ blocks, block.units < wanted)
    (granted : Grower.grow wanted session.heap.grower = .ok (.ok region) grower) :
    ∃ block header after, Action.obtain wanted session = .ok (some header) after ∧
      Asks wanted (.ok region) session after ∧
      block.IsRun (region.stretch ∪ freeUnits blocks) ∧ region.stretch ⊆ block.stretch ∧
      Lends fresh session after lent block wanted header := by
  have serves := sound.serves balanced.grower granted
  obtain ⟨block, header, middle, after, added, taken, rest⟩ :=
    balanced.grow_and_take serves nonzero small granted
  obtain ⟨fuel, search⟩ := balanced.obtain_eq wanted
  refine ⟨block, header, after, ?_, rest⟩
  rw [search, Action.takeOrGrow, bind_of_ok (balanced.takeFree_none nonzero small)]
  show (Action.growBy wanted >>= _) session = _
  rw [bind_of_ok (growBy_granted serves granted)]
  show (Action.addFree region.start region.units >>= _) _ = _
  rw [bind_of_ok added, Action.takeOrGrow, bind_of_ok taken]
  rfl

theorem Balanced.obtain_refused (balanced : Balanced fresh session list blocks lent)
    (nonzero : wanted ≠ 0) (small : ∀ block ∈ blocks, block.units < wanted)
    (refused : Grower.grow wanted session.heap.grower = .ok (.error error) grower) :
    Action.obtain wanted session =
      .ok none (session.answered grower (.growthFailed wanted error)) := by
  obtain ⟨fuel, search⟩ := balanced.obtain_eq wanted
  rw [search, Action.takeOrGrow, bind_of_ok (balanced.takeFree_none nonzero small)]
  show (Action.growBy wanted >>= _) session = _
  rw [bind_of_ok (growBy_refused refused)]
  rfl

theorem Balanced.obtain_faulted (balanced : Balanced fresh session list blocks lent)
    (nonzero : wanted ≠ 0) (small : ∀ block ∈ blocks, block.units < wanted)
    (faulted : Grower.grow wanted session.heap.grower = .error fault grower) :
    Action.obtain wanted session =
      .error fault { session with heap := { session.heap with grower } } := by
  obtain ⟨fuel, search⟩ := balanced.obtain_eq wanted
  rw [search, Action.takeOrGrow, bind_of_ok (balanced.takeFree_none nonzero small)]
  exact bind_of_error (growBy_faulted faulted)

end Small

/-! ### The first request -/

/-- Once an idle heap has got its first region, it goes on as a heap with a free list. -/
theorem Idle.obtain_granted (idle : Idle fresh session) (sound : Grower.Sound fresh) {grower : G}
    {region : Region} (granted : Grower.grow 1 session.heap.grower = .ok (.ok region) grower) :
    ∃ middle, Starts fresh region session middle ∧
      ∀ wanted, (Action.obtain wanted session : EStateM.Result Fault (Session G E) _) =
        Action.obtain wanted middle := by
  obtain ⟨middle, ready, starts⟩ := idle.ready_granted sound granted
  exact ⟨middle, starts, fun wanted =>
    (obtain_of_ready ready).trans (obtain_of_ready starts.balanced.ready).symm⟩

theorem Idle.obtain_refused (idle : Idle fresh session) {grower : G} {error : E}
    (refused : Grower.grow 1 session.heap.grower = .ok (.error error) grower) :
    Action.obtain wanted session =
      .ok none (session.answered grower (.growthFailed 1 error)) := by
  unfold Action.obtain
  rw [bind_of_ok (idle.ready_refused refused).1]
  rfl

theorem Idle.obtain_faulted (idle : Idle fresh session) {grower : G} {fault : Fault}
    (faulted : Grower.grow 1 session.heap.grower = .error fault grower) :
    Action.obtain wanted session =
      .error fault { session with heap := { session.heap with grower } } := by
  unfold Action.obtain
  exact bind_of_error (idle.ready_faulted faulted).1

end NextFit
