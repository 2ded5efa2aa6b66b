/-
This file proves that a request that fails changes nothing. If there is a free list, the
memory, the list and the live blocks are as they were, and so is all that the grower shows
if it keeps still when it refuses. Without a list the first region may have come before
the grower refused, and then the list is set up in it and nothing is live. A request with
an alignment that is no power of two stops before anything is done.
-/

import NextFit.Proofs.Grower.PageHeap
import NextFit.Proofs.Heap.Completeness
import NextFit.Proofs.Heap.Resizing

namespace NextFit

variable {G E V : Type} [Grower G E] {fresh : G} {view : G → V} {before session after : Session G E}
  {list : FreeList} {blocks : List FreeBlock} {lent : Finset Nat} {grants : List Grant}
  {grant : Grant} {size alignment total : Word} {request : Request}

/-! ### Requests for a block -/

/-- A step changed nothing but the log, as far as a view of the grower shows. -/
structure Unchanged (view : G → V) (before after : Session G E) : Prop where
  memory : after.heap.memory = before.heap.memory
  free : after.heap.free = before.heap.free
  grower : view after.heap.grower = view before.heap.grower
  regions : grown after.log = grown before.log

/-- A step changed nothing, or all that it did was to set up the free list in a first region. -/
def Fails (fresh : G) (view : G → V) (before after : Session G E) : Prop :=
  Unchanged view before after ∨ before.heap.free = none ∧
    ∃ region middle, Starts fresh region before middle ∧ Unchanged view middle after

omit [Grower G E] in
theorem Unchanged.refl (session : Session G E) : Unchanged view session session :=
  ⟨rfl, rfl, rfl, rfl⟩

theorem Unchanged.of_refused (steady : Grower.Steady fresh view)
    (reached : Grower.Reaches fresh (grown session.log) session.heap.grower) {error : E}
    {grower : G} (refused : Grower.grow total session.heap.grower = .ok (.error error) grower) :
    Unchanged view session (session.answered grower (.growthFailed total error)) :=
  ⟨rfl, rfl, steady reached refused, grown_append _ _⟩

omit [Grower G E] in
theorem Unchanged.freeBlocks_eq (unchanged : Unchanged view before after) :
    after.heap.freeBlocks = before.heap.freeBlocks := by
  rw [Heap.freeBlocks, Heap.freeBlocks, unchanged.free, unchanged.memory]

theorem Balanced.allocateAligned_fails (balanced : Balanced fresh session list blocks lent)
    (sound : Grower.Sound fresh) (steady : Grower.Steady fresh view)
    (power : isPowerOfTwo alignment = true) (nonzero : size ≠ 0)
    (demanded : Heap.demand size alignment = some total)
    (nothing : Heap.allocateAligned size alignment session = .ok none after) :
    Unchanged view session after := by
  obtain ⟨error, grower, refused, rfl⟩ :=
    (balanced.completes sound power nonzero demanded).nothing nothing
  exact .of_refused steady balanced.grower refused

theorem Idle.allocateAligned_fails (idle : Idle fresh session) (sound : Grower.Sound fresh)
    (steady : Grower.Steady fresh view) (power : isPowerOfTwo alignment = true)
    (nonzero : size ≠ 0) (demanded : Heap.demand size alignment = some total)
    (nothing : Heap.allocateAligned size alignment session = .ok none after) :
    Fails fresh view session after := by
  cases answered : Grower.grow 1 session.heap.grower with
  | error fault grower =>
    have result := idle.allocateAligned_faulted power nonzero demanded answered
    rw [nothing] at result
    cases result
  | ok answer grower =>
    cases answer with
    | error error =>
      have result := idle.allocateAligned_refused power nonzero demanded answered
      rw [nothing] at result
      cases result
      exact Or.inl (.of_refused steady idle.grower answered)
    | ok region =>
      obtain ⟨middle, starts, onward⟩ :=
        idle.allocateAligned_granted power nonzero demanded sound answered
      exact Or.inr ⟨idle.free, region, middle, starts, starts.balanced.allocateAligned_fails sound
        steady power nonzero demanded (onward.symm.trans nothing)⟩

theorem Kept.allocateAligned_fails (kept : Kept fresh session lent) (sound : Grower.Sound fresh)
    (steady : Grower.Steady fresh view) (power : isPowerOfTwo alignment = true)
    (nothing : Heap.allocateAligned size alignment session = .ok none after) :
    Fails fresh view session after := by
  by_cases refused : size = 0 ∨ Heap.demand size alignment = none
  · obtain ⟨event, silent, result⟩ := Heap.allocateAligned_refused power refused session
    rw [nothing] at result
    cases result
    exact Or.inl ⟨rfl, rfl, rfl, grown_append_of_silent _ silent⟩
  rw [not_or, ← ne_eq, ← ne_eq, Option.ne_none_iff_exists'] at refused
  obtain ⟨nonzero, total, demanded⟩ := refused
  cases kept with
  | balanced balanced =>
    exact Or.inl (balanced.allocateAligned_fails sound steady power nonzero demanded nothing)
  | idle idle => exact idle.allocateAligned_fails sound steady power nonzero demanded nothing

/-! ### All requests -/

/-- The caller wants a block. -/
def Request.Wants : Request → Prop
  | allocate _ | allocateZeroed _ | allocateAligned _ _ => True
  | resize _ size | resizeAligned _ size _ => size ≠ 0
  | release _ | store _ _ => False

theorem Request.Wants.settle_none (wants : request.Wants) :
    request.settle grants none = grants := by
  cases request with
  | allocate | allocateZeroed | allocateAligned => exact settle_none_of_given rfl
  | resize | resizeAligned => exact if_neg wants
  | release | store => exact wants.elim

/-- A request for zeroed memory fails only if one for any memory does. -/
theorem Heap.allocateZeroed_none (nothing : Heap.allocateZeroed size session = .ok none after) :
    Heap.allocate size session = .ok none after := by
  unfold Heap.allocateZeroed at nothing
  cases allocated : Heap.allocate size session with
  | error fault middle =>
    rw [bind_of_error allocated] at nothing
    cases nothing
  | ok answer middle =>
    rw [bind_of_ok allocated] at nothing
    cases answer with
    | none => exact nothing
    | some payload => cases nothing

theorem Reached.resizeAligned_fails (reached : Reached fresh grants session)
    (sound : Grower.Sound fresh) (steady : Grower.Steady fresh view) {given : Option Address}
    (live : ∀ payload ∈ given, ∃ grant ∈ grants, grant.payload = payload)
    (power : isPowerOfTwo alignment = true) (nonzero : size ≠ 0)
    (nothing : Heap.resizeAligned given size alignment session = .ok none after) :
    Fails fresh view session after := by
  have kept := (reached.sustained sound).kept
  cases given with
  | none => exact kept.allocateAligned_fails sound steady power nothing
  | some payload =>
    obtain ⟨grant, member, rfl⟩ := live payload rfl
    rcases reached.resize_refusal sound member power nonzero nothing with ⟨-, rfl⟩ | refused
    · exact Or.inl (.refl _)
    · exact kept.allocateAligned_fails sound steady power refused

/-- Whatever the request is for, it fails like one for a new block. -/
theorem Reached.request_fails (reached : Reached fresh grants session)
    (sound : Grower.Sound fresh) (steady : Grower.Steady fresh view)
    (legal : request.Legal grants session) (wants : request.Wants)
    (nothing : request.run session = .ok none after) : Fails fresh view session after := by
  have kept := (reached.sustained sound).kept
  have power := legal.power
  cases request with
  | allocate size =>
    have allocated : Heap.allocate size session = .ok none after := nothing
    rw [Heap.allocate_eq] at allocated
    exact kept.allocateAligned_fails sound steady power allocated
  | allocateZeroed size =>
    have allocated := Heap.allocateZeroed_none nothing
    rw [Heap.allocate_eq] at allocated
    exact kept.allocateAligned_fails sound steady power allocated
  | allocateAligned size alignment =>
    exact kept.allocateAligned_fails sound steady power nothing
  | resize given size =>
    exact reached.resizeAligned_fails sound steady legal.given power wants nothing
  | resizeAligned given size alignment =>
    exact reached.resizeAligned_fails sound steady legal.given power wants nothing
  | release | store => exact wants.elim

/-! ### Alignments that are no powers of two -/

theorem Heap.allocateAligned_of_not_power (odd : isPowerOfTwo alignment = false)
    (session : Session G E) :
    Heap.allocateAligned size alignment session =
      .error (.notPowerOfTwo alignment) session := by
  unfold Heap.allocateAligned
  exact ofExcept_bind_of_error (Alignment.ofWord_of_not_power odd)

/-- The alignment is looked at when the block is large enough to stay, or when it is to move. -/
theorem Heap.resizeAligned_of_not_power (live : grant.Live session.heap.memory)
    (odd : isPowerOfTwo alignment = false) (nonzero : size ≠ 0)
    (fits : size.toNat + 15 < 2 ^ 64) :
    Heap.resizeAligned (some grant.payload) size alignment session =
      .error (.notPowerOfTwo alignment) session := by
  have unaligned : isAligned grant.payload alignment = .error (.notPowerOfTwo alignment) := by
    rw [isAligned, Alignment.ofWord_of_not_power odd]
    rfl
  rw [Heap.resizeAligned_eq live alignment nonzero fits, Heap.staysAt, unaligned]
  by_cases enough : unitsFor size ≤ unitsFor grant.size
  · rw [if_pos enough]
  · rw [if_neg enough]
    exact Heap.move_of_error (Heap.allocateAligned_of_not_power odd session)

/-! ### Failure -/

/-- A request for a block that fails over a sound and steady grower changes nothing if there is a
free list. Without one it changes nothing either, or it sets up the list in the one region
that has come. An alignment that is no power of two stops a request before it has changed
anything, unless a resize asks for nothing or for too much. Fixed buffers are steady, and
heaps of pages are as far as their counts go. -/
theorem failure_changes_nothing :
    (∀ {G E V : Type} [Grower G E] {fresh : G} {view : G → V} {grants : List Grant}
        {session after : Session G E} {request : Request},
      Grower.Sound fresh → Grower.Steady fresh view → Reached fresh grants session →
        request.Legal grants session → request.Wants → request.run session = .ok none after →
      request.settle grants none = grants ∧
        (session.heap.free ≠ none → after.heap.memory = session.heap.memory ∧
          after.heap.free = session.heap.free ∧
          view after.heap.grower = view session.heap.grower) ∧
        (session.heap.free = none → grants = [] ∧
          (after.heap.memory = session.heap.memory ∧ after.heap.free = none ∧
              view after.heap.grower = view session.heap.grower ∨
            ∃ region grower,
              Grower.grow 1 session.heap.grower = .ok (.ok region) grower ∧
              grown after.log = [region] ∧ view after.heap.grower = view grower ∧
              after.heap.free = some { sentinel := region.start, rover := region.start } ∧
              after.heap.freeBlocks = .ok (some (if 1 < region.units then
                [{ header := region.start.above 1, units := region.units - 1 }] else [])) ∧
              ∀ address, unitOf address ∉ region.stretch →
                after.heap.memory.header address = session.heap.memory.header address))) ∧
    (∀ {G E : Type} [Grower G E] {fresh : G} {grants : List Grant} {session : Session G E}
        {alignment : Word},
      Grower.Sound fresh → Reached fresh grants session → isPowerOfTwo alignment = false →
      (∀ size, Heap.allocateAligned size alignment session =
        .error (.notPowerOfTwo alignment) session) ∧
        ∀ grant ∈ grants,
          (∃ after, Heap.release (some grant.payload) session = .ok () after ∧
            Heap.resizeAligned (some grant.payload) 0 alignment session = .ok none after ∧
            Frees session after (stretch (headerBelow grant.payload)
              (session.heap.memory.size (headerBelow grant.payload)))) ∧
          ∀ size, size ≠ 0 →
            Heap.resizeAligned (some grant.payload) size alignment session =
              if blockUnits size = .ok none then .ok none session
              else .error (.notPowerOfTwo alignment) session) ∧
    (∀ {fresh : FixedBuffer}, fresh.Fresh → Grower.Sound fresh ∧ Grower.Steady fresh id) ∧
    ∀ {S : Type} [Mapper S] {fresh : PageHeap S}, fresh.Fresh →
      Grower.Sound fresh ∧ Grower.Steady fresh PageHeap.counts := by
  refine ⟨?_, ?_, fun fresh => ⟨FixedBuffer.sound fresh, FixedBuffer.steady _⟩,
    fun fresh => ⟨PageHeap.sound fresh, PageHeap.steady _⟩⟩
  · intro G E V _ fresh view grants session after request sound steady reached legal wants nothing
    have sustained := reached.sustained sound
    refine ⟨wants.settle_none, fun started => ?_, fun idle => ⟨sustained.grants_eq_nil idle, ?_⟩⟩
    · rcases reached.request_fails sound steady legal wants nothing with unchanged | ⟨idle, -⟩
      · exact ⟨unchanged.memory, unchanged.free, unchanged.grower⟩
      · exact absurd idle started
    · rcases reached.request_fails sound steady legal wants nothing with
        unchanged | ⟨-, region, middle, starts, unchanged⟩
      · exact Or.inl ⟨unchanged.memory, unchanged.free.trans idle, unchanged.grower⟩
      · refine Or.inr ⟨region, middle.heap.grower, starts.asks.grower,
          unchanged.regions.trans starts.regions, unchanged.grower,
          unchanged.free.trans starts.balanced.free,
          unchanged.freeBlocks_eq.trans starts.balanced.freeBlocks_eq, fun address outside => ?_⟩
        rw [unchanged.memory]
        refine starts.confined.outside address ?_
        rw [starts.regions, owned_cons]
        exact fun inside => outside ((Finset.union_empty _).subset inside)
  · intro G E _ fresh grants session alignment sound reached odd
    refine ⟨fun size => Heap.allocateAligned_of_not_power odd session, fun grant member =>
      ⟨?_, fun size nonzero => ?_⟩⟩
    · obtain ⟨after, released, frees⟩ := reached.release_frees sound member
      refine ⟨after, released, ?_, frees⟩
      rw [Heap.resizeAligned_zero, bind_of_ok released]
      rfl
    · have live := (reached.sustained sound).live grant member
      rw [blockUnits_eq]
      by_cases fits : size.toNat + 15 < 2 ^ 64
      · rw [if_pos fits, if_neg nofun]
        exact Heap.resizeAligned_of_not_power live odd nonzero fits
      · rw [if_neg fits, if_pos rfl]
        exact Heap.resizeAligned_tooLarge alignment fits session

/-- A small buffer in use has no block of 2000 bytes, and a fresh one is left with a free list in
its first unit. -/
theorem failure_changes_nothing_smallBuffer :
    ∃ (grants : List Grant) (session after opened : Session FixedBuffer Exhausted),
      Reached smallBuffer grants session ∧ Heap.allocate 2000 session = .ok none after ∧
        after.heap.memory = session.heap.memory ∧ after.heap.free = session.heap.free ∧
        after.heap.grower = session.heap.grower ∧
        Heap.allocateAligned 8 24 session = .error (.notPowerOfTwo 24) session ∧
        Heap.allocate 2000 { heap := { grower := smallBuffer } } = .ok none opened ∧
        (∃ region, grown opened.log = [region] ∧
          opened.heap.free = some { sentinel := region.start, rover := region.start }) ∧
        Grower.Steady singlePage PageHeap.counts := by
  obtain ⟨fails, odd, buffers, pages⟩ := failure_changes_nothing
  obtain ⟨sound, steady⟩ := buffers smallBuffer_fresh
  have start : Reached smallBuffer [] _ := .start {}
  have first := start.serve (.allocate 40) ⟨nofun, rfl, nofun⟩
  obtain ⟨grants, session, reached, started, after, refused⟩ :
      ∃ (grants : List Grant) (session : Session FixedBuffer Exhausted),
        Reached smallBuffer grants session ∧ session.heap.free ≠ none ∧
          ∃ after, Heap.allocate 2000 session = .ok none after :=
    ⟨_, _, first, by decide +kernel, _, rfl⟩
  obtain ⟨opened, opens, listed⟩ : ∃ opened : Session FixedBuffer Exhausted,
      Heap.allocate 2000 { heap := { grower := smallBuffer } } = .ok none opened ∧
        opened.heap.free ≠ none := ⟨_, rfl, by decide +kernel⟩
  have legal : ∀ {grants : List Grant} {session : Session FixedBuffer Exhausted},
      (Request.allocate 2000).Legal grants session := ⟨nofun, rfl, nofun⟩
  obtain ⟨-, unchanged, -⟩ := fails sound steady reached legal trivial refused
  obtain ⟨-, -, begins⟩ := fails sound steady start legal trivial opens
  obtain ⟨memory, free, grower⟩ := unchanged started
  obtain ⟨-, ⟨-, nothing, -⟩ | ⟨region, -, -, regions, -, list, -⟩⟩ := begins rfl
  · exact absurd nothing listed
  · exact ⟨grants, session, after, opened, reached, refused, memory, free, grower,
      (odd sound reached (by decide)).1 8, opens, ⟨region, regions, list⟩,
      (pages singlePage_fresh).2⟩

end NextFit
