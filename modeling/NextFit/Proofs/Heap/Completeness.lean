/-
This file proves that a request fails only if it must: if it asks for nothing, if its block
would not fit in a word, or if the grower refuses. A heap asks its grower for one unit to
begin with, and after that for memory only when no free block is large enough, and then
once. The block is then taken from the top of the free block that the new memory became
a part of.
-/

import NextFit.Proofs.Heap.Usage

namespace NextFit

variable {G E : Type} [Grower G E] {fresh : G} {session middle after : Session G E}
  {list : FreeList} {blocks : List FreeBlock} {lent : Finset Nat} {grants : List Grant}
  {size alignment total : Word} {call : Action G E (Option Address)}

/-! ### Demands -/

/-- The units that a request takes off the list, as a number. -/
theorem Heap.demand_eq_some_iff :
    Heap.demand size alignment = some total ↔ size.toNat + 15 < 2 ^ 64 ∧
      total.toNat = (size.toNat + 15) / 16 + 1 +
        if alignment ≤ headerAlignment then 0 else alignment.toNat / 16 - 1 := by
  have units := toNat_unitsFor size
  constructor
  · intro demanded
    obtain ⟨fits, sum⟩ := Heap.fits_of_demand demanded
    refine ⟨fits, ?_⟩
    by_cases small : alignment ≤ headerAlignment
    · rw [if_pos small, Option.some_inj] at sum
      rw [if_pos small, ← sum, units]
    · rw [if_neg small] at sum ⊢
      rw [toNat_of_plus? sum, toNat_spare small, units]
  · rintro ⟨fits, sum⟩
    rw [Heap.demand_eq, if_pos fits]
    by_cases small : alignment ≤ headerAlignment
    · rw [if_pos small] at sum ⊢
      exact congrArg some (UInt64.toNat_inj.mp (units.trans sum.symm))
    · have bound := total.toNat_lt
      have spare := toNat_spare small
      rw [if_neg small] at sum ⊢
      have within : (unitsFor size).toNat + (alignment / unitBytes - 1).toNat < 2 ^ 64 := by
        rw [units, spare, ← sum]
        exact bound
      rw [plus?_of_lt within]
      exact congrArg some (UInt64.toNat_inj.mp (by rw [toNat_add_of_lt within, units, spare, sum]))

/-! ### With free blocks -/

/-- On a heap with these free blocks a call gets its block out of one that is large enough, without
asking the grower. If there is none, the grower is asked once, and what the call answers is
up to the grower. -/
structure Completes (call : Action G E (Option Address)) (session : Session G E)
    (blocks : List FreeBlock) (total size alignment : Word) : Prop where
  found : (∃ block ∈ blocks, total ≤ block.units) → ∃ payload after,
    call session = .ok (some payload) after ∧ Quiet session after ∧
      ∃ block ∈ blocks, CarvedFrom block total { payload, size, alignment }
  granted {region : Region} {grower : G} : (∀ block ∈ blocks, block.units < total) →
    Grower.grow total session.heap.grower = .ok (.ok region) grower → ∃ payload after,
      call session = .ok (some payload) after ∧ Asks total (.ok region) session after ∧
        ∃ block : FreeBlock, block.IsRun (region.stretch ∪ freeUnits blocks) ∧
          region.stretch ⊆ block.stretch ∧ CarvedFrom block total { payload, size, alignment }
  refused {error : E} {grower : G} : (∀ block ∈ blocks, block.units < total) →
    Grower.grow total session.heap.grower = .ok (.error error) grower →
      call session = .ok none (session.answered grower (.growthFailed total error))
  faulted {fault : Fault} {grower : G} : (∀ block ∈ blocks, block.units < total) →
    Grower.grow total session.heap.grower = .error fault grower →
      call session = .error fault { session with heap := { session.heap with grower } }

theorem Balanced.completes (balanced : Balanced fresh session list blocks lent)
    (sound : Grower.Sound fresh) (power : isPowerOfTwo alignment = true) (nonzero : size ≠ 0)
    (demanded : Heap.demand size alignment = some total) :
    Completes (Heap.allocateAligned size alignment) session blocks total size alignment where
  found large := by
    obtain ⟨payload, after, result, quiet, -, carved⟩ :=
      balanced.allocateAligned_found power nonzero demanded large
    exact ⟨payload, after, result, quiet, carved⟩
  granted small granted := by
    obtain ⟨payload, after, result, asks, -, carved⟩ :=
      balanced.allocateAligned_granted power nonzero demanded sound small granted
    exact ⟨payload, after, result, asks, carved⟩
  refused small refused := balanced.allocateAligned_refused power nonzero demanded small refused
  faulted small faulted := balanced.allocateAligned_faulted power nonzero demanded small faulted

/-- If the call answers with nothing, the grower has refused, and that is all that has happened. -/
theorem Completes.nothing (completes : Completes call session blocks total size alignment)
    (nothing : call session = .ok none after) :
    ∃ error grower, Grower.grow total session.heap.grower = .ok (.error error) grower ∧
      after = session.answered grower (.growthFailed total error) := by
  rcases FreeList.large_or_small blocks total with large | small
  · obtain ⟨payload, other, result, -⟩ := completes.found large
    rw [nothing] at result
    cases result
  · cases answered : Grower.grow total session.heap.grower with
    | error fault grower =>
      have result := completes.faulted small answered
      rw [nothing] at result
      cases result
    | ok answer grower =>
      cases answer with
      | error error =>
        have result := completes.refused small answered
        rw [nothing] at result
        cases result
        exact ⟨error, grower, rfl, rfl⟩
      | ok region =>
        obtain ⟨payload, other, result, -⟩ := completes.granted small answered
        rw [nothing] at result
        cases result

theorem Completes.refusal (completes : Completes call session blocks total size alignment)
    (nothing : call session = .ok none after) :
    ∃ error, Asks total (.error error) session after := by
  obtain ⟨error, grower, refused, rfl⟩ := completes.nothing nothing
  exact ⟨error, refused, asked_append _ _⟩

/-! ### Without a free list -/

/-- On a heap without a free list a call asks the grower for one unit first. If it is granted, the
call goes on as it does on a heap with free blocks. -/
structure Begins (call : Action G E (Option Address)) (session : Session G E)
    (total size alignment : Word) : Prop where
  granted {region : Region} {grower : G} :
    Grower.grow 1 session.heap.grower = .ok (.ok region) grower → ∃ middle blocks,
      Asks 1 (.ok region) session middle ∧ middle.heap.freeBlocks = .ok (some blocks) ∧
        call session = call middle ∧ Completes call middle blocks total size alignment
  refused {error : E} {grower : G} :
    Grower.grow 1 session.heap.grower = .ok (.error error) grower →
      call session = .ok none (session.answered grower (.growthFailed 1 error))
  faulted {fault : Fault} {grower : G} :
    Grower.grow 1 session.heap.grower = .error fault grower →
      call session = .error fault { session with heap := { session.heap with grower } }

theorem Idle.begins (idle : Idle fresh session) (sound : Grower.Sound fresh)
    (power : isPowerOfTwo alignment = true) (nonzero : size ≠ 0)
    (demanded : Heap.demand size alignment = some total) :
    Begins (Heap.allocateAligned size alignment) session total size alignment where
  granted granted := by
    obtain ⟨middle, starts, onward⟩ :=
      idle.allocateAligned_granted power nonzero demanded sound granted
    exact ⟨middle, _, starts.asks, starts.balanced.freeBlocks_eq, onward,
      starts.balanced.completes sound power nonzero demanded⟩
  refused refused := idle.allocateAligned_refused power nonzero demanded refused
  faulted faulted := idle.allocateAligned_faulted power nonzero demanded faulted

theorem Begins.refusal (begins : Begins call session total size alignment)
    (nothing : call session = .ok none after) :
    (∃ error, Asks 1 (.error error) session after) ∨
      ∃ region middle error, Asks 1 (.ok region) session middle ∧
        Asks total (.error error) middle after := by
  cases answered : Grower.grow 1 session.heap.grower with
  | error fault grower =>
    have result := begins.faulted answered
    rw [nothing] at result
    cases result
  | ok answer grower =>
    cases answer with
    | error error =>
      have result := begins.refused answered
      rw [nothing] at result
      cases result
      exact Or.inl ⟨error, answered, asked_append _ _⟩
    | ok region =>
      obtain ⟨middle, blocks, asks, -, onward, completes⟩ := begins.granted answered
      obtain ⟨error, refused⟩ := completes.refusal (onward.symm.trans nothing)
      exact Or.inr ⟨region, middle, error, asks, refused⟩

/-! ### Completeness -/

/-- In every state that a use of a heap over a sound grower leads to, a request that asks for
nothing or for too much only tells the log. Any other one asks for a first unit just if there
is no free list, and then completes. So it fails only if the grower refuses. -/
theorem Reached.allocation_completes (reached : Reached fresh grants session)
    (sound : Grower.Sound fresh) (power : isPowerOfTwo alignment = true)
    (requested : call = Heap.allocateAligned size alignment ∨
      call = Heap.allocate size ∧ alignment = headerAlignment) :
    (∀ total, Heap.demand size alignment = some total ↔ size.toNat + 15 < 2 ^ 64 ∧
      total.toNat = (size.toNat + 15) / 16 + 1 +
        if alignment ≤ headerAlignment then 0 else alignment.toNat / 16 - 1) ∧
    (size = 0 ∨ Heap.demand size alignment = none → ∃ event : Event E, event.asked? = none ∧
      call session = .ok none { session with log := session.log ++ [event] }) ∧
    ∀ total, size ≠ 0 → Heap.demand size alignment = some total →
      (session.heap.free = none → Begins call session total size alignment ∧
        ∀ after, call session = .ok none after →
          (∃ error, Asks 1 (.error error) session after) ∨
            ∃ region middle error, Asks 1 (.ok region) session middle ∧
              Asks total (.error error) middle after) ∧
      (session.heap.free ≠ none → ∃ blocks, session.heap.freeBlocks = .ok (some blocks) ∧
        Completes call session blocks total size alignment ∧
        ∀ after, call session = .ok none after →
          ∃ error, Asks total (.error error) session after) := by
  have same : call = Heap.allocateAligned size alignment := by
    rcases requested with rfl | ⟨rfl, rfl⟩
    · rfl
    · exact (Heap.allocateAligned_of_le power (UInt64.le_refl _)).symm
  subst same
  refine ⟨fun total => Heap.demand_eq_some_iff,
    fun refused => Heap.allocateAligned_refused power refused session,
    fun total nonzero demanded => ⟨fun idle => ?_, fun started => ?_⟩⟩
  · have begins := (reached.sustained sound).idle idle |>.begins sound power nonzero demanded
    exact ⟨begins, fun after => begins.refusal⟩
  · obtain ⟨list, blocks, balanced⟩ := (reached.sustained sound).exists_balanced started
    have completes := balanced.completes sound power nonzero demanded
    exact ⟨blocks, balanced.freeBlocks_eq, completes, fun after => completes.refusal⟩

/-- In a small buffer in use a request for 64 bytes takes five units. -/
theorem allocation_completes_in_use :
    ∃ (grants : List Grant) (session : Session FixedBuffer Exhausted) (blocks : List FreeBlock),
      Reached smallBuffer grants session ∧ session.heap.freeBlocks = .ok (some blocks) ∧
        Completes (Heap.allocate 64) session blocks 5 64 headerAlignment := by
  obtain ⟨grants, session, reached, -, -, -, started⟩ := exists_reached_smallBuffer
  obtain ⟨-, -, served⟩ := reached.allocation_completes (FixedBuffer.sound smallBuffer_fresh)
    (by decide) (Or.inr ⟨(rfl : Heap.allocate 64 = _), rfl⟩)
  obtain ⟨blocks, listed, completes, -⟩ := (served 5 (by decide) (by decide +kernel)).2 started
  exact ⟨grants, session, blocks, reached, listed, completes⟩

end NextFit
