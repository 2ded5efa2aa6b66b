/-
This file keeps the books of a heap. Every unit that came from the grower is the sentinel,
is lent to whoever works on the heap, or is free, and no unit is two of these. A step that
takes a block off the free list lends its units, and one that puts a block on the list
takes them back. What is lent is not written to by such a step.
-/

import NextFit.Heap.Growth
import NextFit.Proofs.FreeList.Insert
import NextFit.Proofs.FreeList.Take
import NextFit.Proofs.Grower.Sound
import NextFit.Proofs.Steps

namespace NextFit

/-! ### Regions in the log -/

/-- The region that an event tells of, if it tells of one. -/
def Event.region? {E : Type} : Event E → Option Region
  | grew got start _ => some { start, units := got }
  | _ => none

/-- The regions that came from the grower, the last one first. -/
def grown {E : Type} (log : List (Event E)) : List Region :=
  (log.filterMap Event.region?).reverse

theorem grown_append_log {E : Type} (log events : List (Event E)) :
    grown (log ++ events) = grown events ++ grown log := by
  rw [grown, List.filterMap_append, List.reverse_append]
  rfl

theorem grown_append {E : Type} (log : List (Event E)) (event : Event E) :
    grown (log ++ [event]) = event.region?.toList ++ grown log := by
  rw [grown_append_log]
  cases event <;> rfl

theorem owned_grown_append {E : Type} (log events : List (Event E)) :
    owned (grown (log ++ events)) = owned (grown events) ∪ owned (grown log) := by
  rw [grown_append_log, owned, owned, owned, List.map_append, covered_append]

/-- The grower keeps nothing back that it has handed over. -/
theorem owned_grown_mono {E : Type} {log more : List (Event E)} (longer : log <+: more) :
    owned (grown log) ⊆ owned (grown more) := by
  obtain ⟨events, rfl⟩ := longer
  rw [owned_grown_append]
  exact Finset.subset_union_right

/-- The units that were asked of the grower, as an event tells. -/
def Event.asked? {E : Type} : Event E → Option Word
  | grew _ _ requested | growthFailed requested _ => some requested
  | _ => none

/-- What was asked of the grower and answered, the first request first. -/
def asked {E : Type} (log : List (Event E)) : List Word :=
  log.filterMap Event.asked?

theorem asked_append {E : Type} (log : List (Event E)) (event : Event E) :
    asked (log ++ [event]) = asked log ++ event.asked?.toList := by
  rw [asked, List.filterMap_append]
  cases event <;> rfl

theorem grown_append_of_silent {E : Type} (log : List (Event E)) {event : Event E}
    (silent : event.asked? = none) : grown (log ++ [event]) = grown log := by
  rw [grown_append]
  cases event <;> first | rfl | cases silent

theorem asked_append_of_silent {E : Type} (log : List (Event E)) {event : Event E}
    (silent : event.asked? = none) : asked (log ++ [event]) = asked log := by
  rw [asked_append, silent]
  exact List.append_nil _

/-! ### Balance -/

variable {G E : Type} [Grower G E]

/-- A heap from which nothing has been allocated: its grower has handed over nothing. -/
structure Idle (fresh : G) (session : Session G E) : Prop where
  grower : Grower.Reaches fresh (grown session.log) session.heap.grower
  free : session.heap.free = none
  nothing : grown session.log = []

/-- A heap with a free list: the units that came from the grower are the sentinel, some units that
are lent, and the units of the free blocks. -/
structure Balanced (fresh : G) (session : Session G E) (list : FreeList) (blocks : List FreeBlock)
    (lent : Finset Nat) : Prop where
  grower : Grower.Reaches fresh (grown session.log) session.heap.grower
  free : session.heap.free = some list
  holds : list.Holds session.heap.memory blocks
  covers : insert (unitOf list.sentinel) (lent ∪ freeUnits blocks) = owned (grown session.log)
  sentinelApart : unitOf list.sentinel ∉ lent
  apart : Disjoint lent (freeUnits blocks)
  /-- The sentinel stands where the first region starts. -/
  root : (grown session.log).getLast?.map Region.start = some list.sentinel

/-- The books of a heap are kept, whether or not it has a free list yet. -/
inductive Kept (fresh : G) (session : Session G E) : Finset Nat → Prop
  | idle : Idle fresh session → Kept fresh session ∅
  | balanced {list : FreeList} {blocks : List FreeBlock} {lent : Finset Nat} :
      Balanced fresh session list blocks lent → Kept fresh session lent

/-- A heap that has lent a unit has a free list. -/
theorem Kept.exists_balanced {fresh : G} {session : Session G E} {lent : Finset Nat}
    (kept : Kept fresh session lent) {unit : Nat} (member : unit ∈ lent) :
    ∃ list blocks, Balanced fresh session list blocks lent := by
  cases kept with
  | idle idle => exact absurd member (Finset.notMem_empty _)
  | balanced balanced => exact ⟨_, _, balanced⟩

/-- The log of a heap tells what its grower has handed over. -/
theorem Kept.grower {fresh : G} {session : Session G E} {lent : Finset Nat}
    (kept : Kept fresh session lent) :
    Grower.Reaches fresh (grown session.log) session.heap.grower := by
  cases kept with
  | idle idle => exact idle.grower
  | balanced balanced => exact balanced.grower

/-- A step left all memory in some units as it was. -/
def Spares (before after : Session G E) (units : Finset Nat) : Prop :=
  ∀ address, unitOf address ∈ units →
    after.heap.memory.header address = before.heap.memory.header address

/-- A step wrote to no memory but the grower's, and it put a tag in no units but the given ones. -/
structure Confined (before after : Session G E) (tagged : Finset Nat) : Prop where
  log : before.log <+: after.log
  outside : ∀ address, unitOf address ∉ owned (grown after.log) →
    after.heap.memory.header address = before.heap.memory.header address
  tags : before.heap.memory.TagsOnly after.heap.memory tagged

/-- A step kept the books, left all that is lent as it was, wrote to no memory but the grower's
and put no tag anywhere. -/
structure Keeps (fresh : G) (before after : Session G E) (lent : Finset Nat) : Prop where
  kept : Kept fresh after lent
  spares : Spares before after lent
  confined : Confined before after ∅

/-- A step asked the grower for nothing. -/
structure Quiet (before after : Session G E) : Prop where
  grower : after.heap.grower = before.heap.grower
  asked : asked after.log = asked before.log

/-- A step asked the grower once, for some units, and got an answer. -/
structure Asks (wanted : Word) (answer : Except E Region) (before after : Session G E) : Prop where
  grower : Grower.grow wanted before.heap.grower = .ok answer after.heap.grower
  asked : asked after.log = asked before.log ++ [wanted]

/-- The grower stopped a step at a fault of its own when it was asked for some units. -/
structure Stops (wanted : Word) (fault : Fault) (before after : Session G E) : Prop where
  nonzero : wanted ≠ 0
  grower : Grower.grow wanted before.heap.grower = .error fault after.heap.grower
  asked : asked after.log = asked before.log

/-- The grower stopped a step, either at once or after it had granted a first unit. -/
inductive Stopped (fault : Fault) (before after : Session G E) : Prop
  | once {wanted : Word} : Stops wanted fault before after → Stopped fault before after
  | again {region : Region} {middle : Session G E} {wanted : Word} :
      Asks 1 (.ok region) before middle → Stops wanted fault middle after →
      Stopped fault before after

section Steps

variable {fresh : G} {session after : Session G E} {list : FreeList} {blocks : List FreeBlock}
  {lent units : Finset Nat}

omit [Grower G E] in
theorem Spares.mono {before : Session G E} {fewer : Finset Nat} (spares : Spares before after units)
    (subset : fewer ⊆ units) : Spares before after fewer :=
  fun address inside => spares address (subset inside)

omit [Grower G E] in
theorem Spares.trans {before : Session G E} (first : Spares before session units)
    (second : Spares session after units) : Spares before after units :=
  fun address inside => (second address inside).trans (first address inside)

omit [Grower G E] in
/-- A step that leaves the memory alone is confined, whatever it asks of the grower. -/
theorem Confined.of_memory_eq {before : Session G E}
    (memory : after.heap.memory = before.heap.memory) (log : before.log <+: after.log) :
    Confined before after units where
  log := log
  outside address _ := congrArg (Memory.header · address) memory
  tags := by
    rw [memory]
    exact .refl _ _

omit [Grower G E] in
theorem Confined.refl (session : Session G E) (units : Finset Nat) :
    Confined session session units :=
  .of_memory_eq rfl List.prefix_rfl

omit [Grower G E] in
theorem Confined.trans {before : Session G E} (first : Confined before session units)
    (second : Confined session after units) : Confined before after units where
  log := first.log.trans second.log
  outside address elsewhere := (second.outside address elsewhere).trans
    (first.outside address fun inside => elsewhere (owned_grown_mono second.log inside))
  tags := first.tags.trans second.tags

omit [Grower G E] in
theorem Confined.mono {before : Session G E} {more : Finset Nat}
    (confined : Confined before after units) (subset : units ⊆ more) :
    Confined before after more :=
  { confined with tags := confined.tags.mono subset }

omit [Grower G E] in
theorem Confined.recorded {before : Session G E} (confined : Confined before session units)
    (event : Event E) : Confined before { session with log := session.log ++ [event] } units :=
  confined.trans (.of_memory_eq rfl (List.prefix_append _ _))

omit [Grower G E] in
theorem Quiet.trans {before : Session G E} (first : Quiet before session)
    (second : Quiet session after) : Quiet before after :=
  ⟨second.grower.trans first.grower, second.asked.trans first.asked⟩

omit [Grower G E] in
theorem Quiet.recorded {before : Session G E} (quiet : Quiet before session) {event : Event E}
    (silent : event.asked? = none) :
    Quiet before { session with log := session.log ++ [event] } :=
  ⟨quiet.grower, (asked_append_of_silent _ silent).trans quiet.asked⟩

theorem Asks.quiet {before : Session G E} {wanted : Word} {answer : Except E Region}
    (asks : Asks wanted answer before session) (quiet : Quiet session after) :
    Asks wanted answer before after :=
  ⟨quiet.grower ▸ asks.grower, quiet.asked.trans asks.asked⟩

/-- A grower that stopped a step has a fault to come to. -/
theorem Stopped.faults {before : Session G E} {regions : List Region} {fault : Fault}
    (stopped : Stopped fault before after)
    (reached : Grower.Reaches fresh regions before.heap.grower) : Grower.Faults fresh fault := by
  cases stopped with
  | once stops => exact ⟨_, _, _, _, reached, stops.nonzero, stops.grower⟩
  | again asks stops => exact ⟨_, _, _, _, reached.granted asks.grower, stops.nonzero, stops.grower⟩

/-- Whatever is written to lent memory leaves the books as they are. -/
theorem Balanced.write (balanced : Balanced fresh session list blocks lent)
    (spares : Spares session after (insert (unitOf list.sentinel) (freeUnits blocks)))
    (free : after.heap.free = session.heap.free) (grower : after.heap.grower = session.heap.grower)
    (log : grown after.log = grown session.log) : Balanced fresh after list blocks lent where
  grower := by
    rw [log, grower]
    exact balanced.grower
  free := free.trans balanced.free
  holds := balanced.holds.congr fun address inside => spares address (Finset.mem_insert.mpr inside)
  covers := by
    rw [log]
    exact balanced.covers
  sentinelApart := balanced.sentinelApart
  apart := balanced.apart
  root := by
    rw [log]
    exact balanced.root

/-- A step that writes to the sentinel, to free units and to lent ones only is confined. -/
theorem Balanced.confined (balanced : Balanced fresh session list blocks lent)
    (log : session.log <+: after.log)
    (tags : session.heap.memory.TagsOnly after.heap.memory units)
    (frame : ∀ address, unitOf address ≠ unitOf list.sentinel → unitOf address ∉ lent →
      unitOf address ∉ freeUnits blocks →
        after.heap.memory.header address = session.heap.memory.header address) :
    Confined session after units := by
  refine ⟨log, fun address elsewhere => ?_, tags⟩
  have outside : unitOf address ∉ owned (grown session.log) :=
    fun inside => elsewhere (owned_grown_mono log inside)
  rw [← balanced.covers, Finset.mem_insert, Finset.mem_union, not_or, not_or] at outside
  exact frame address outside.1 outside.2.1 outside.2.2

/-- What came from the grower and is not lent is free, but for the sentinel. -/
theorem Balanced.freeUnits_eq (balanced : Balanced fresh session list blocks lent) :
    freeUnits blocks = owned (grown session.log) \ insert (unitOf list.sentinel) lent := by
  have sentinel := balanced.holds.canonical.sentinel_notMem
  have apart : Disjoint (freeUnits blocks) (insert (unitOf list.sentinel) lent) :=
    Finset.disjoint_insert_right.mpr ⟨sentinel, balanced.apart.symm⟩
  rw [← balanced.covers, ← Finset.insert_union, Finset.union_sdiff_cancel_left apart.symm]

/-- Recording an event that tells nothing of the grower leaves the books as they are. -/
theorem Balanced.recorded (balanced : Balanced fresh session list blocks lent) {event : Event E}
    (silent : event.asked? = none) :
    Balanced fresh { session with log := session.log ++ [event] } list blocks lent :=
  balanced.write (fun _ _ => rfl) rfl rfl (grown_append_of_silent _ silent)

theorem Kept.recorded (kept : Kept fresh session lent) {event : Event E}
    (silent : event.asked? = none) :
    Kept fresh { session with log := session.log ++ [event] } lent := by
  cases kept with
  | idle idle =>
    have log := grown_append_of_silent session.log silent
    exact .idle ⟨log.symm ▸ idle.grower, idle.free, log.trans idle.nothing⟩
  | balanced balanced => exact .balanced (balanced.recorded silent)

/-- What is lent came from the grower. -/
theorem Kept.subset_owned (kept : Kept fresh session lent) : lent ⊆ owned (grown session.log) := by
  cases kept with
  | idle idle => exact Finset.empty_subset _
  | balanced balanced =>
    rw [← balanced.covers]
    exact Finset.subset_union_left.trans (Finset.subset_insert _ _)

/-- Memory that is lent, or not the grower's, may be written to. -/
theorem Kept.write (kept : Kept fresh session lent)
    (spares : Spares session after (owned (grown session.log) \ lent))
    (free : after.heap.free = session.heap.free) (grower : after.heap.grower = session.heap.grower)
    (log : grown after.log = grown session.log) : Kept fresh after lent := by
  cases kept with
  | idle idle =>
    refine .idle ⟨?_, free.trans idle.free, log.trans idle.nothing⟩
    rw [log, grower]
    exact idle.grower
  | balanced balanced =>
    refine .balanced (balanced.write (spares.mono fun unit inside => ?_) free grower log)
    rw [Finset.mem_sdiff, ← balanced.covers]
    rcases Finset.mem_insert.mp inside with rfl | free
    · exact ⟨Finset.mem_insert_self _ _, balanced.sentinelApart⟩
    · exact ⟨Finset.mem_insert_of_mem (Finset.mem_union_right _ free),
        Finset.disjoint_right.mp balanced.apart free⟩

omit [Grower G E] in
theorem onMemory_of_ok {α : Type} {work : Surgery α} {value : α} {memory : Memory}
    (done : work session.heap.memory = .ok value memory) :
    (Action.onMemory work : Action G E α) session =
      .ok value { session with heap := { session.heap with memory } } := by
  rw [Action.onMemory, done]

/-- A header can be written to lent memory. -/
theorem Balanced.writeHeader (balanced : Balanced fresh session list blocks lent)
    {address : Address} (here : unitOf address ∈ lent) (header : Header) :
    ∃ after, Action.writeHeader address header session = .ok () after ∧
      Balanced fresh after list blocks lent ∧ Quiet session after ∧
      Confined session after {unitOf address} ∧
      after.heap.memory = session.heap.memory.setHeader address header := by
  have elsewhere : ∀ other, unitOf address ≠ unitOf other →
      (session.heap.memory.setHeader address header).header other =
        session.heap.memory.header other :=
    fun other apart => (Memory.header_setHeader _ _ _ _).trans (if_neg apart)
  refine ⟨_, onMemory_of_ok rfl,
    balanced.write (fun other inside => elsewhere other fun equal => ?_) rfl rfl rfl, ⟨rfl, rfl⟩,
    balanced.confined List.prefix_rfl (.of_same fun other outside => elsewhere other fun equal =>
      outside (Finset.mem_singleton.mpr equal.symm)) fun other _ notLent _ => elsewhere other
        fun equal => notLent (equal ▸ here), rfl⟩
  rw [← equal, Finset.mem_insert] at inside
  rcases inside with sentinel | free
  · exact balanced.sentinelApart (sentinel ▸ here)
  · exact Finset.disjoint_left.mp balanced.apart here free

/-! ### Lending a block -/

/-- A step lent a block of some units, the top of a free block. -/
structure Lends (fresh : G) (before after : Session G E) (lent : Finset Nat) (block : FreeBlock)
    (wanted : Word) (header : Address) : Prop where
  balanced : ∃ listAfter blocksAfter,
    Balanced fresh after listAfter blocksAfter (stretch header wanted ∪ lent)
  lies : Lies header wanted
  apart : Disjoint (stretch header wanted) lent
  size : after.heap.memory.size header = wanted
  fits : wanted ≤ block.units
  top : header = block.header.above (block.units - wanted)
  spares : Spares before after lent
  confined : Confined before after ∅

variable {wanted : Word}

omit [Grower G E] in
/-- Units are taken off the list that the heap has. -/
theorem takeFree_eq {found : Option Address} {listAfter : FreeList} {memory : Memory}
    (free : session.heap.free = some list)
    (taken : list.take wanted session.heap.memory = .ok (found, listAfter) memory) :
    Action.takeFree wanted session =
      .ok found { session with heap := { session.heap with memory, free := some listAfter } } := by
  unfold Action.takeFree
  rw [get_bind, free]
  show (Action.onMemory (list.take wanted) >>= _) session = _
  rw [bind_of_ok (onMemory_of_ok taken)]
  rfl

theorem Balanced.takeFree_none (balanced : Balanced fresh session list blocks lent)
    (nonzero : wanted ≠ 0) (small : ∀ block ∈ blocks, block.units < wanted) :
    Action.takeFree wanted session = .ok none session := by
  have same : session = { session with heap := { session.heap with free := some list } } := by
    rw [← balanced.free]
  rw [takeFree_eq balanced.free (balanced.holds.take_none nonzero small)]
  exact congrArg (EStateM.Result.ok none) same.symm

theorem Balanced.takeFree_some (balanced : Balanced fresh session list blocks lent)
    (nonzero : wanted ≠ 0) (large : ∃ block ∈ blocks, wanted ≤ block.units) :
    ∃ block ∈ blocks, ∃ header after, Action.takeFree wanted session = .ok (some header) after ∧
      Quiet session after ∧ Lends fresh session after lent block wanted header := by
  obtain ⟨header, listAfter, memoryAfter, blocksAfter, result, taken⟩ :=
    balanced.holds.take_some nonzero large
  obtain ⟨lies, subset⟩ := taken.lies_and_subset balanced.holds nonzero
  have lentApart := balanced.apart
  have sentinel := balanced.holds.canonical.sentinel_notMem
  obtain ⟨block, member, fits, top⟩ := taken.top
  refine ⟨block, member, header, { session with
    heap := { session.heap with memory := memoryAfter, free := some listAfter } },
    takeFree_eq balanced.free result, ⟨rfl, rfl⟩,
    ⟨listAfter, blocksAfter, balanced.grower, rfl, taken.holds, ?_, ?_, ?_,
      taken.sentinel_eq ▸ balanced.root⟩,
    lies, ?_, taken.size, fits, top,
    fun address inside => taken.frame address ?_ ?_,
    balanced.confined List.prefix_rfl taken.tags fun address notSentinel _ =>
      taken.frame address notSentinel⟩
  · rw [taken.sentinel_eq, taken.units, Finset.union_right_comm,
      Finset.union_sdiff_of_subset subset,
      Finset.union_comm]
    exact balanced.covers
  · rw [taken.sentinel_eq, Finset.mem_union, not_or]
    exact ⟨fun inside => sentinel (subset inside), balanced.sentinelApart⟩
  · rw [taken.units, Finset.disjoint_union_left]
    exact ⟨Finset.disjoint_sdiff, lentApart.mono_right Finset.sdiff_subset⟩
  · exact (lentApart.mono_right subset).symm
  · rintro same
    exact balanced.sentinelApart (same ▸ inside)
  · exact Finset.disjoint_left.mp lentApart inside

/-! ### Taking a block back -/

/-- A step put a lent block on the free list. -/
structure TakesBack (fresh : G) (before after : Session G E) (list : FreeList)
    (blocks : List FreeBlock) (lent : Finset Nat) (block : FreeBlock) : Prop where
  balanced : ∃ listAfter blocksAfter, Balanced fresh after listAfter blocksAfter
      (lent \ block.stretch) ∧
    listAfter.sentinel = list.sentinel ∧ freeUnits blocksAfter = block.stretch ∪ freeUnits blocks
  quiet : Quiet before after
  spares : Spares before after (lent \ block.stretch)
  confined : Confined before after ∅
  cleared : (after.heap.memory.header block.header).isTagged = false

/-- A lent block that is put on the list is lent no more. -/
theorem Balanced.takeBack (balanced : Balanced fresh session list blocks lent) (block : FreeBlock)
    (nonzero : block.units ≠ 0) (lies : Lies block.header block.units)
    (subset : block.stretch ⊆ lent) :
    block.Sits list.sentinel ∧ Disjoint block.stretch (freeUnits blocks) ∧
      ∀ {listAfter memoryAfter blocksAfter}, FreeList.Inserted list session.heap.memory blocks block
          listAfter memoryAfter blocksAfter →
        ∀ {after : Session G E}, after.heap = { session.heap with
            memory := memoryAfter, free := some listAfter } →
          session.log <+: after.log → grown after.log = grown session.log →
          asked after.log = asked session.log →
          TakesBack fresh session after list blocks lent block := by
  have apart := balanced.apart
  refine ⟨⟨lies, nonzero, fun inside => balanced.sentinelApart (subset inside)⟩,
    apart.mono_left subset,
    fun {listAfter memoryAfter blocksAfter} inserted after heap longer log asks => ?_⟩
  refine ⟨⟨listAfter, blocksAfter, ⟨?_, ?_, ?_, ?_, ?_, ?_, ?_⟩, inserted.sentinel_eq,
    inserted.units⟩, ⟨?_, asks⟩, fun address inside => ?_,
    balanced.confined longer ?_ fun address notSentinel notLent notFree => ?_, ?_⟩
  · rw [log, heap]
    exact balanced.grower
  · rw [heap]
  · rw [heap]
    exact inserted.holds
  · rw [inserted.sentinel_eq, inserted.units, log, ← Finset.union_assoc,
      Finset.sdiff_union_of_subset subset]
    exact balanced.covers
  · rw [inserted.sentinel_eq, Finset.mem_sdiff, not_and_or]
    exact Or.inl balanced.sentinelApart
  · rw [inserted.units, Finset.disjoint_union_right]
    exact ⟨Finset.sdiff_disjoint, apart.mono_left Finset.sdiff_subset⟩
  · rw [inserted.sentinel_eq, log]
    exact balanced.root
  · rw [heap]
  · obtain ⟨wasLent, elsewhere⟩ := Finset.mem_sdiff.mp inside
    rw [heap]
    refine inserted.frame address ?_ ?_
    · exact fun same => balanced.sentinelApart (same ▸ wasLent)
    · rw [inserted.units, Finset.mem_union, not_or]
      exact ⟨elsewhere, Finset.disjoint_left.mp apart wasLent⟩
  · rw [heap]
    exact inserted.tags
  · rw [heap]
    refine inserted.frame address notSentinel ?_
    rw [inserted.units, Finset.mem_union, not_or]
    exact ⟨fun inside => notLent (subset inside), notFree⟩
  · rw [heap]
    exact inserted.cleared

omit [Grower G E] in
/-- Units are put on the list that the heap has. -/
theorem addFree_eq {start : Address} {listAfter : FreeList} {memory : Memory}
    (free : session.heap.free = some list)
    (extended : list.extend start wanted session.heap.memory = .ok listAfter memory) :
    Action.addFree start wanted session =
      .ok () { session with heap := { session.heap with memory, free := some listAfter } } := by
  unfold Action.addFree
  rw [get_bind, free]
  show (Action.onMemory (list.extend start wanted) >>= _) session = _
  rw [bind_of_ok (onMemory_of_ok extended)]
  rfl

/-- Spare units go back to the free list. -/
theorem Balanced.addFree (balanced : Balanced fresh session list blocks lent) {start : Address}
    (nonzero : wanted ≠ 0) (lies : Lies start wanted) (subset : stretch start wanted ⊆ lent) :
    ∃ after, Action.addFree start wanted session = .ok () after ∧
      TakesBack fresh session after list blocks lent { header := start, units := wanted } := by
  obtain ⟨sits, apart, takesBack⟩ := balanced.takeBack { header := start, units := wanted }
    nonzero lies subset
  obtain ⟨listAfter, memoryAfter, blocksAfter, result, inserted⟩ :=
    balanced.holds.extend_spec sits apart
  exact ⟨_, addFree_eq balanced.free result, takesBack inserted rfl List.prefix_rfl rfl rfl⟩

end Steps

end NextFit
