/-
This file makes one call on two heaps that differ in their memory only. Of the memory the
call reads nothing but headers that the heap has written: those of the sentinel, of the
free blocks and of the live ones. These are the same in both heaps, so that the call ends
in the same way in both of them and they differ in their memory only once more.
-/

import NextFit.Proofs.Heap.Resize

namespace NextFit

variable {G E : Type} {α β : Type}

/-! ### Two runs -/

/-- Two heaps at work differ in their memory only. -/
structure Alike (first second : Session G E) : Prop where
  grower : second.heap.grower = first.heap.grower
  free : second.heap.free = first.heap.free
  log : second.log = first.log

/-- Two runs ended with the same value in sessions as described, or at the same fault. -/
inductive Matches (both : α → Session G E → Session G E → Prop) :
    EStateM.Result Fault (Session G E) α → EStateM.Result Fault (Session G E) α → Prop
  | ok {value : α} {first second : Session G E} :
      both value first second → Matches both (.ok value first) (.ok value second)
  | error {fault : Fault} {first second : Session G E} :
      Alike first second → Matches both (.error fault first) (.error fault second)

section Matching

variable {first second : Session G E} {between : α → Session G E → Session G E → Prop}
  {both : β → Session G E → Session G E → Prop}

/-- The rest of the work matches if it does so from wherever a first step ends. -/
theorem Matches.bind {step : Action G E α} {rest : α → Action G E β}
    (starts : Matches between (step first) (step second))
    (goesOn : ∀ value later otherLater, between value later otherLater →
      Matches both (rest value later) (rest value otherLater)) :
    Matches both ((step >>= rest) first) ((step >>= rest) second) := by
  show Matches both (EStateM.bind step rest first) (EStateM.bind step rest second)
  rw [EStateM.bind, EStateM.bind]
  generalize step first = result at starts
  generalize step second = otherResult at starts
  cases starts with
  | ok alike => exact goesOn _ _ _ alike
  | error alike => exact .error alike

theorem Matches.of_ok {step : Action G E α} {value : α} {later otherLater : Session G E}
    (ran : step first = .ok value later) (otherRan : step second = .ok value otherLater)
    (alike : between value later otherLater) : Matches between (step first) (step second) := by
  rw [ran, otherRan]
  exact .ok alike

theorem Matches.cases {result otherResult : EStateM.Result Fault (Session G E) α}
    (matched : Matches between result otherResult) :
    (∃ value later otherLater, result = .ok value later ∧ otherResult = .ok value otherLater ∧
        between value later otherLater) ∨
      ∃ fault later otherLater, result = .error fault later ∧
        otherResult = .error fault otherLater ∧ Alike later otherLater := by
  cases matched with
  | ok alike => exact Or.inl ⟨_, _, _, rfl, rfl, alike⟩
  | error alike => exact Or.inr ⟨_, _, _, rfl, rfl, alike⟩

theorem Alike.recorded (alike : Alike first second) (event : Event E) :
    Alike { first with log := first.log ++ [event] }
      { second with log := second.log ++ [event] } :=
  ⟨alike.grower, alike.free, congrArg (· ++ [event]) alike.log⟩

theorem Alike.memory (alike : Alike first second) (memory otherMemory : Memory) :
    Alike { first with heap := { first.heap with memory } }
      { second with heap := { second.heap with memory := otherMemory } } :=
  ⟨alike.grower, alike.free, alike.log⟩

theorem Alike.answered (alike : Alike first second) (grower : G) (event : Event E) :
    Alike (first.answered grower event) (second.answered grower event) :=
  ⟨rfl, alike.free, congrArg (· ++ [event]) alike.log⟩

end Matching

/-! ### Steps -/

variable [Grower G E] {fresh : G} {first second firstAfter secondAfter : Session G E}
  {list : FreeList} {blocks : List FreeBlock} {lent : Finset Nat} {start header address : Address}
  {wanted total size alignment : Word} {grant : Grant}

/-- Two heaps with a free list that differ in their memory only and have lent the same units. -/
structure Twins (fresh : G) (first second : Session G E) (lent : Finset Nat) : Prop where
  alike : Alike first second
  balanced : ∃ list blocks, Balanced fresh first list blocks lent
  otherBalanced : ∃ list blocks, Balanced fresh second list blocks lent

/-- They have the same list, and it holds the same blocks. -/
theorem Twins.exists_balanced (twins : Twins fresh first second lent) :
    ∃ list blocks, Balanced fresh first list blocks lent ∧
      Balanced fresh second list blocks lent := by
  obtain ⟨list, blocks, balanced⟩ := twins.balanced
  obtain ⟨otherList, otherBlocks, otherBalanced⟩ := twins.otherBalanced
  have free := otherBalanced.free
  rw [twins.alike.free, balanced.free] at free
  obtain rfl := Option.some_inj.mp free
  have units : freeUnits otherBlocks = freeUnits blocks := by
    rw [balanced.freeUnits_eq, otherBalanced.freeUnits_eq, twins.alike.log]
  obtain rfl := otherBalanced.holds.canonical.eq_of_freeUnits_eq balanced.holds.canonical units
  exact ⟨list, otherBlocks, balanced, otherBalanced⟩

/-- The same block is taken off both lists. -/
theorem Twins.takeFree_some (twins : Twins fresh first second lent)
    (balanced : Balanced fresh first list blocks lent)
    (otherBalanced : Balanced fresh second list blocks lent) (nonzero : wanted ≠ 0)
    (large : ∃ block ∈ blocks, wanted ≤ block.units) :
    ∃ header firstAfter secondAfter,
      Action.takeFree wanted first = .ok (some header) firstAfter ∧
      Action.takeFree wanted second = .ok (some header) secondAfter ∧
      Lies header wanted ∧ Twins fresh firstAfter secondAfter (stretch header wanted ∪ lent) := by
  obtain ⟨header, listAfter, memory, otherMemory, taken, otherTaken⟩ :=
    balanced.holds.take_unique otherBalanced.holds nonzero large
  have ran := takeFree_eq balanced.free taken
  have otherRan := takeFree_eq otherBalanced.free otherTaken
  obtain ⟨_, -, _, after, result, -, lends⟩ := balanced.takeFree_some nonzero large
  obtain ⟨_, -, _, otherAfter, otherResult, -, otherLends⟩ :=
    otherBalanced.takeFree_some nonzero large
  rw [ran] at result
  rw [otherRan] at otherResult
  cases result
  cases otherResult
  exact ⟨header, _, _, ran, otherRan, lends.lies,
    ⟨twins.alike.grower, rfl, twins.alike.log⟩, lends.balanced, otherLends.balanced⟩

/-- Units are put on both lists at the same place. -/
theorem Twins.addFree (twins : Twins fresh first second lent) (nonzero : wanted ≠ 0)
    (lies : Lies start wanted) (subset : stretch start wanted ⊆ lent) :
    ∃ firstAfter secondAfter, Action.addFree start wanted first = .ok () firstAfter ∧
      Action.addFree start wanted second = .ok () secondAfter ∧
      Twins fresh firstAfter secondAfter (lent \ stretch start wanted) := by
  obtain ⟨list, blocks, balanced, otherBalanced⟩ := twins.exists_balanced
  obtain ⟨sits, apart, -⟩ :=
    balanced.takeBack { header := start, units := wanted } nonzero lies subset
  obtain ⟨listAfter, _, _, extended, inserted⟩ := balanced.holds.extend_spec sits apart
  obtain ⟨_, _, _, otherExtended, otherInserted⟩ := otherBalanced.holds.extend_spec sits apart
  have ran := addFree_eq balanced.free extended
  have otherRan := addFree_eq otherBalanced.free otherExtended
  obtain ⟨after, result, takesBack⟩ := balanced.addFree nonzero lies subset
  obtain ⟨otherAfter, otherResult, otherTakesBack⟩ := otherBalanced.addFree nonzero lies subset
  obtain ⟨_, _, balancedAfter, -⟩ := takesBack.balanced
  obtain ⟨_, _, otherBalancedAfter, -⟩ := otherTakesBack.balanced
  rw [ran] at result
  rw [otherRan] at otherResult
  cases result
  cases otherResult
  exact ⟨_, _, ran, otherRan, ⟨twins.alike.grower,
    congrArg some (inserted.unique otherInserted), twins.alike.log⟩,
    ⟨_, _, balancedAfter⟩, ⟨_, _, otherBalancedAfter⟩⟩

theorem Twins.addSpare (twins : Twins fresh first second lent)
    (lies : wanted ≠ 0 → Lies start wanted) (subset : stretch start wanted ⊆ lent) :
    ∃ firstAfter secondAfter, Action.addSpare start wanted first = .ok () firstAfter ∧
      Action.addSpare start wanted second = .ok () secondAfter ∧
      Twins fresh firstAfter secondAfter (lent \ stretch start wanted) := by
  unfold Action.addSpare
  by_cases zero : wanted = 0
  · have nothing : lent \ stretch start wanted = lent := by
      rw [zero, stretch_zero, Finset.sdiff_empty]
    rw [nothing, if_neg (by rw [zero]; exact UInt64.lt_irrefl 0)]
    exact ⟨first, second, rfl, rfl, twins⟩
  · rw [if_pos (UInt64.pos_iff_ne_zero.mpr zero)]
    exact twins.addFree zero (lies zero) subset

theorem Twins.writeHeader (twins : Twins fresh first second lent)
    (here : unitOf address ∈ lent) (header : Header) :
    ∃ firstAfter secondAfter, Action.writeHeader address header first = .ok () firstAfter ∧
      Action.writeHeader address header second = .ok () secondAfter ∧
      Twins fresh firstAfter secondAfter lent := by
  obtain ⟨list, blocks, balanced, otherBalanced⟩ := twins.exists_balanced
  obtain ⟨after, ran, balancedAfter, -⟩ := balanced.writeHeader here header
  obtain ⟨otherAfter, otherRan, otherBalancedAfter, -⟩ := otherBalanced.writeHeader here header
  refine ⟨after, otherAfter, ran, otherRan, ?_, ⟨_, _, balancedAfter⟩, ⟨_, _, otherBalancedAfter⟩⟩
  cases ran
  cases otherRan
  exact ⟨twins.alike.grower, twins.alike.free, twins.alike.log⟩

/-! ### Obtaining a block -/

/-- A search ended with the same block lent in both heaps, or with none. -/
def Found (fresh : G) (lent : Finset Nat) (wanted : Word) :
    Option Address → Session G E → Session G E → Prop
  | some header, first, second =>
    Lies header wanted ∧ Twins fresh first second (stretch header wanted ∪ lent)
  | none, first, second => Alike first second

theorem Twins.granted (twins : Twins fresh first second lent) {region : Region} {grower : G}
    (serves : Grower.Serves (grown first.log) wanted region)
    (granted : Grower.grow wanted first.heap.grower = .ok (.ok region) grower) :
    Twins fresh (first.answered grower (.grew region.units region.start wanted))
      (second.answered grower (.grew region.units region.start wanted))
      (region.stretch ∪ lent) := by
  obtain ⟨list, blocks, balanced, otherBalanced⟩ := twins.exists_balanced
  refine ⟨twins.alike.answered _ _, ⟨_, _, balanced.granted serves granted⟩,
    ⟨_, _, otherBalanced.granted ?_ ?_⟩⟩
  · rw [twins.alike.log]
    exact serves
  · rw [twins.alike.grower]
    exact granted

theorem Twins.takeOrGrow (twins : Twins fresh first second lent) (sound : Grower.Sound fresh)
    (nonzero : wanted ≠ 0) (fuel : Nat) :
    Matches (Found fresh lent wanted) (Action.takeOrGrow wanted fuel first)
      (Action.takeOrGrow wanted fuel second) := by
  induction fuel generalizing first second with
  | zero => exact .error twins.alike
  | succ fuel inductionHypothesis =>
    obtain ⟨list, blocks, balanced, otherBalanced⟩ := twins.exists_balanced
    rw [Action.takeOrGrow]
    rcases FreeList.large_or_small blocks wanted with large | small
    · obtain ⟨header, after, otherAfter, taken, otherTaken, found⟩ :=
        twins.takeFree_some balanced otherBalanced nonzero large
      rw [bind_of_ok taken, bind_of_ok otherTaken]
      exact .ok found
    · rw [bind_of_ok (balanced.takeFree_none nonzero small),
        bind_of_ok (otherBalanced.takeFree_none nonzero small)]
      show Matches _ ((Action.growBy wanted >>= _) first) ((Action.growBy wanted >>= _) second)
      have same := twins.alike.grower
      cases answered : Grower.grow wanted first.heap.grower with
      | error fault grower =>
        rw [bind_of_error (growBy_faulted answered),
          bind_of_error (growBy_faulted (same ▸ answered))]
        exact .error ⟨rfl, twins.alike.free, twins.alike.log⟩
      | ok answer grower =>
        cases answer with
        | error error =>
          rw [bind_of_ok (growBy_refused answered), bind_of_ok (growBy_refused (same ▸ answered))]
          exact .ok (twins.alike.answered _ _)
        | ok region =>
          have serves := sound.serves balanced.grower answered
          have regionNonzero : region.units ≠ 0 := fun zero =>
            nonzero (UInt64.le_zero_iff.mp (zero ▸ serves.enough))
          have apart := serves.disjoint_owned.mono_right
            (Kept.balanced balanced).subset_owned
          have granted := twins.granted serves answered
          obtain ⟨stocked, otherStocked, added, otherAdded, stock⟩ :=
            granted.addFree regionNonzero serves.lies Finset.subset_union_left
          have lentAgain : (region.stretch ∪ lent) \ stretch region.start region.units = lent := by
            rw [← Region.stretch, Finset.union_sdiff_left,
              Finset.sdiff_eq_self_of_disjoint apart.symm]
          rw [bind_of_ok (growBy_granted serves answered), bind_of_ok
            (growBy_granted (twins.alike.log ▸ serves) (same ▸ answered))]
          show Matches _ ((Action.addFree region.start region.units >>= _) _)
            ((Action.addFree region.start region.units >>= _) _)
          rw [bind_of_ok added, bind_of_ok otherAdded]
          exact inductionHypothesis (lentAgain ▸ stock)

section Kept

variable (kept : Kept fresh first lent) (otherKept : Kept fresh second lent)
  (alike : Alike first second)

include kept otherKept alike

/-- Either both heaps have a free list or neither of them has. -/
theorem Alike.twins_or_idle :
    Twins fresh first second lent ∨ Idle fresh first ∧ Idle fresh second ∧ lent = ∅ := by
  cases kept with
  | balanced balanced =>
    cases otherKept with
    | balanced otherBalanced => exact Or.inl ⟨alike, ⟨_, _, balanced⟩, ⟨_, _, otherBalanced⟩⟩
    | idle otherIdle => cases otherIdle.free.symm.trans (alike.free.trans balanced.free)
  | idle idle =>
    cases otherKept with
    | balanced otherBalanced => cases otherBalanced.free.symm.trans (alike.free.trans idle.free)
    | idle otherIdle => exact Or.inr ⟨idle, otherIdle, rfl⟩

/-- If neither has, the first region is the same for both. -/
theorem obtain_twins (sound : Grower.Sound fresh) (nonzero : wanted ≠ 0) :
    Matches (Found fresh lent wanted) (Action.obtain wanted first)
      (Action.obtain wanted second) := by
  rcases alike.twins_or_idle kept otherKept with twins | ⟨idle, otherIdle, rfl⟩
  · obtain ⟨_, _, balanced, otherBalanced⟩ := twins.exists_balanced
    rw [obtain_of_ready balanced.ready, obtain_of_ready otherBalanced.ready]
    exact twins.takeOrGrow sound nonzero mostGrowths
  have same := alike.grower
  cases answered : Grower.grow 1 first.heap.grower with
  | error fault grower =>
    rw [idle.obtain_faulted answered, otherIdle.obtain_faulted (same ▸ answered)]
    exact .error ⟨rfl, alike.free, alike.log⟩
  | ok answer grower =>
    cases answer with
    | error error =>
      rw [idle.obtain_refused answered, otherIdle.obtain_refused (same ▸ answered)]
      exact .ok (alike.answered _ _)
    | ok region =>
      obtain ⟨middle, ready, starts⟩ := idle.ready_granted sound answered
      obtain ⟨otherMiddle, otherReady, otherStarts⟩ :=
        otherIdle.ready_granted sound (same ▸ answered)
      have granted := otherStarts.asks.grower
      rw [same, starts.asks.grower] at granted
      injection granted with _ grower
      have log : otherMiddle.log = middle.log := by
        rw [starts.log, otherStarts.log, alike.log]
      have twins : Twins fresh middle otherMiddle ∅ :=
        ⟨⟨grower.symm, otherStarts.balanced.free.trans starts.balanced.free.symm, log⟩,
          ⟨_, _, starts.balanced⟩, ⟨_, _, otherStarts.balanced⟩⟩
      rw [obtain_of_ready ready, obtain_of_ready otherReady]
      exact twins.takeOrGrow sound nonzero mostGrowths

end Kept

/-! ### Requests -/

/-- A block is carved out of the same units at the same place. -/
theorem Twins.carve_at (twins : Twins fresh first second (stretch header total ∪ lent))
    {lead trail : Word} (nonzero : wanted ≠ 0)
    (carving : Carving header total wanted lead trail) :
    Matches (fun _ => Alike)
      ((do
        Action.writeHeader (header.above lead) (.tagged wanted)
        Action.addSpare header lead
        Action.addSpare ((header.above lead).above wanted) trail
        return header.above lead : Action G E Address) first)
      ((do
        Action.writeHeader (header.above lead) (.tagged wanted)
        Action.addSpare header lead
        Action.addSpare ((header.above lead).above wanted) trail
        return header.above lead : Action G E Address) second) := by
  have here : unitOf (header.above lead) ∈ stretch header total :=
    (Finset.sdiff_subset.trans Finset.sdiff_subset)
      (carving.remaining ▸ start_mem_stretch nonzero)
  obtain ⟨written, otherWritten, wrote, otherWrote, writtenTwins⟩ :=
    twins.writeHeader (Finset.mem_union_left lent here) (.tagged wanted)
  obtain ⟨led, otherLed, added, otherAdded, ledTwins⟩ :=
    writtenTwins.addSpare (fun _ => carving.leadLies)
      (carving.leadSubset.trans Finset.subset_union_left)
  obtain ⟨trailed, otherTrailed, trailAdded, otherTrailAdded, trailedTwins⟩ :=
    ledTwins.addSpare carving.trailLies
      (carving.trailSubset.trans (Finset.sdiff_subset_sdiff Finset.subset_union_left subset_rfl))
  rw [bind_of_ok wrote, bind_of_ok added, bind_of_ok trailAdded, bind_of_ok otherWrote,
    bind_of_ok otherAdded, bind_of_ok otherTrailAdded]
  exact .ok trailedTwins.alike

theorem Twins.finish (twins : Twins fresh first second (stretch header total ∪ lent))
    (lies : Lies header total) (alignment : Alignment) (nonzero : size ≠ 0)
    (demanded : Heap.demand size alignment.value = some total) :
    Matches (fun _ => Alike) (Heap.finish size total alignment header first)
      (Heap.finish size total alignment header second) := by
  obtain ⟨-, units⟩ := Heap.fits_of_demand demanded
  unfold Heap.finish
  by_cases small : alignment.value ≤ headerAlignment
  · rw [if_pos small]
    exact .ok ⟨twins.alike.grower, twins.alike.free, congrArg (· ++ _) twins.alike.log⟩
  · rw [if_neg small] at units ⊢
    have large : 16 < alignment.value.toNat := UInt64.lt_iff_toNat_lt.mp (UInt64.not_le.mp small)
    have more := two_le_unitsFor nonzero
    obtain ⟨padding, pads⟩ := lies.exists_lead large more
      (by rw [toNat_of_plus? units, toNat_spare small])
    obtain ⟨trail, carving⟩ := lies.exists_carving (by omega) pads.bound
    have carved : Matches (fun _ => Alike)
        (Heap.carve header total (unitsFor size) alignment first)
        (Heap.carve header total (unitsFor size) alignment second) := by
      unfold Heap.carve
      rw [ofExcept_bind pads.padding_eq, ofExcept_bind pads.padding_eq]
      dsimp only
      rw [ofExcept_bind carving.difference, ofExcept_bind carving.difference]
      exact twins.carve_at (unitsFor_ne_zero size) carving
    exact carved.bind fun _ _ _ alike => .ok (alike.recorded _)

section Requests

variable (kept : Kept fresh first lent) (otherKept : Kept fresh second lent)
  (alike : Alike first second) (sound : Grower.Sound fresh)
  (power : isPowerOfTwo alignment = true)

include kept otherKept alike sound power

theorem Heap.allocateAligned_twins :
    Matches (fun _ => Alike) (Heap.allocateAligned size alignment first)
      (Heap.allocateAligned size alignment second) := by
  by_cases refused : size = 0 ∨ Heap.demand size alignment = none
  · obtain ⟨event, -, result⟩ : ∃ event : Event E, _ ∧ ∀ session : Session G E, _ :=
      Heap.exists_refusal power refused
    exact Matches.of_ok (result first) (result second) (alike.recorded event)
  rw [not_or, ← ne_eq, ← ne_eq, Option.ne_none_iff_exists'] at refused
  obtain ⟨nonzero, total, demanded⟩ := refused
  rw [Heap.allocateAligned_eq power nonzero demanded]
  refine (obtain_twins kept otherKept alike sound (Heap.demand_ne_zero demanded)).bind
    fun found later otherLater both => ?_
  cases found with
  | none => exact .ok both
  | some header => exact both.2.finish both.1 ⟨alignment, power⟩ nonzero demanded

end Requests

/-! ### Live blocks -/

section Live

variable (twins : Twins fresh first second lent) (live : grant.Live first.heap.memory)
  (otherLive : grant.Live second.heap.memory) (subset : grant.stretch ⊆ lent)

include twins live otherLive subset

/-- A block that is live in both heaps is freed in both. -/
theorem Twins.release :
    ∃ firstAfter secondAfter, Heap.release (some grant.payload) first = .ok () firstAfter ∧
      Heap.release (some grant.payload) second = .ok () secondAfter ∧
      Alike firstAfter secondAfter := by
  obtain ⟨list, blocks, balanced, otherBalanced⟩ := twins.exists_balanced
  obtain ⟨sits, apart, -⟩ := balanced.takeBack
    { header := grant.header, units := unitsFor grant.size }
    (unitsFor_ne_zero grant.size) live.lies subset
  obtain ⟨_, _, _, result, inserted⟩ := balanced.holds.insert_spec sits apart live.size_eq
  obtain ⟨_, _, _, otherResult, otherInserted⟩ :=
    otherBalanced.holds.insert_spec sits apart otherLive.size_eq
  refine ⟨_, _, release_inserted balanced.free live.tagged result,
    release_inserted otherBalanced.free otherLive.tagged otherResult, twins.alike.grower,
    congrArg some (inserted.unique otherInserted), ?_⟩
  have header : second.heap.memory.header (headerBelow grant.payload) =
      first.heap.memory.header (headerBelow grant.payload) :=
    otherLive.header_eq.trans live.header_eq.symm
  show second.log ++ _ = first.log ++ _
  rw [twins.alike.log, header]

theorem Twins.shrink {kept : Word} (enough : kept ≤ unitsFor grant.size) :
    Matches (fun _ => Alike) (Heap.shrink grant.header kept first)
      (Heap.shrink grant.header kept second) := by
  obtain ⟨list, blocks, balanced, otherBalanced⟩ := twins.exists_balanced
  rw [shrink_eq balanced.free (live.surplus_eq enough),
    shrink_eq otherBalanced.free (otherLive.surplus_eq enough)]
  by_cases more : unitsFor grant.size - kept = 0
  · rw [if_neg (not_not.mpr more)]
    exact .ok twins.alike
  · rw [if_pos more]
    obtain ⟨written, otherWritten, wrote, otherWrote, writtenTwins⟩ :=
      twins.writeHeader (subset grant.header_mem) (.tagged kept)
    obtain ⟨added, otherAdded, put, otherPut, addedTwins⟩ := writtenTwins.addFree more
      (live.lies.upper enough more) ((live.lies.stretch_above_subset enough).trans subset)
    rw [bind_of_ok wrote, bind_of_ok put, bind_of_ok otherWrote, bind_of_ok otherPut]
    exact .ok (addedTwins.alike.recorded _)

end Live

section Moves

variable (kept : Kept fresh first lent) (otherKept : Kept fresh second lent)
  (alike : Alike first second) (sound : Grower.Sound fresh)
  (live : grant.Live first.heap.memory) (otherLive : grant.Live second.heap.memory)
  (subset : grant.stretch ⊆ lent) (power : isPowerOfTwo alignment = true)

include kept otherKept alike sound live otherLive subset power

theorem Heap.move_twins :
    Matches (fun _ => Alike)
      (Heap.move grant.payload (unitsFor grant.size) size alignment first)
      (Heap.move grant.payload (unitsFor grant.size) size alignment second) := by
  have ends : Ends (Heap.allocateAligned size alignment first) _ _ :=
    kept.allocateAligned_ends sound power
  have otherEnds : Ends (Heap.allocateAligned size alignment second) _ _ :=
    otherKept.allocateAligned_ends sound power
  have matched : Matches (fun _ => Alike) (Heap.allocateAligned size alignment first)
      (Heap.allocateAligned size alignment second) :=
    Heap.allocateAligned_twins kept otherKept alike sound power
  rcases matched.cases with ⟨answer, after, otherAfter, allocated, otherAllocated, alikeAfter⟩ |
    ⟨fault, after, otherAfter, faulted, otherFaulted, alikeAfter⟩
  · rw [allocated] at ends
    rw [otherAllocated] at otherEnds
    cases answer with
    | none =>
      exact .of_ok (Heap.move_of_none allocated) (Heap.move_of_none otherAllocated) alikeAfter
    | some moved =>
      have room := live.lies.unitOf_add_le
      obtain ⟨usable, computed, -⟩ := bytesOf_eq (unitsFor grant.size) (by omega)
        (unitsFor_ne_zero grant.size)
      have least : (min usable size).toNat ≤ size.toNat := by
        rw [UInt64.toNat_min]
        exact Nat.min_le_right _ _
      obtain ⟨copied, stillLive⟩ := HandsOut.copied ends live subset least
      obtain ⟨otherCopied, otherStillLive⟩ := HandsOut.copied otherEnds otherLive subset least
      have twins : Twins fresh _ _ _ :=
        ⟨alikeAfter.memory _ _, copied.balanced, otherCopied.balanced⟩
      obtain ⟨released, otherReleased, ran, otherRan, alikeReleased⟩ :=
        twins.release stillLive otherStillLive (subset.trans Finset.subset_union_right)
      rw [Heap.move_of_some allocated computed, Heap.move_of_some otherAllocated computed,
        bind_of_ok ran, bind_of_ok otherRan]
      exact .ok alikeReleased
  · rw [Heap.move_of_error faulted, Heap.move_of_error otherFaulted]
    exact .error alikeAfter

theorem Heap.resizeAligned_twins :
    Matches (fun _ => Alike) (Heap.resizeAligned (some grant.payload) size alignment first)
      (Heap.resizeAligned (some grant.payload) size alignment second) := by
  have twins : Twins fresh first second lent :=
    ⟨alike, kept.exists_balanced (subset grant.header_mem),
      otherKept.exists_balanced (subset grant.header_mem)⟩
  by_cases zero : size = 0
  · subst zero
    obtain ⟨after, otherAfter, ran, otherRan, alikeAfter⟩ := twins.release live otherLive subset
    rw [Heap.resizeAligned_zero, bind_of_ok ran, bind_of_ok otherRan]
    exact .ok alikeAfter
  by_cases fits : size.toNat + 15 < 2 ^ 64
  · by_cases stays : unitsFor size ≤ unitsFor grant.size ∧ alignment.toNat ∣ grant.payload.toNat
    · rw [Heap.resizeAligned_shrinks zero fits power live stays.1 stays.2,
        Heap.resizeAligned_shrinks zero fits power otherLive stays.1 stays.2]
      exact (twins.shrink live otherLive subset stays.1).bind fun _ _ _ alikeAfter =>
        .ok alikeAfter
    · rw [Heap.resizeAligned_moves zero fits power live stays,
        Heap.resizeAligned_moves zero fits power otherLive stays]
      exact Heap.move_twins kept otherKept alike sound live otherLive subset power
  · exact .of_ok (Heap.resizeAligned_tooLarge alignment fits first)
      (Heap.resizeAligned_tooLarge alignment fits second) alike

end Moves

end NextFit
