/-
This file proves that a heap whose callers keep to the rules never stops at a fault of its
own. No sum, difference or product is out of bounds, no block is freed twice or handed out
empty, no walk and no growth is endless: only the grower can stop a request, by a fault of
its own when the request asks it for memory. Fixed buffers and heaps of pages do not, and
so every request on a heap over one of these is answered.
-/

import NextFit.Proofs.Grower.PageHeap
import NextFit.Proofs.Heap.Usage

namespace NextFit

variable {G E : Type} [Grower G E] {fresh : G} {session : Session G E} {grants : List Grant}
  {request : Request}

/-- A request is answered, or the grower has stopped it. -/
theorem Reached.answered_or_stopped (reached : Reached fresh grants session)
    (sound : Grower.Sound fresh) (legal : request.Legal grants session) :
    (∃ answer after, request.run session = .ok answer after) ∨
      ∃ fault after, request.run session = .error fault after ∧
        Stopped fault session after ∧ Grower.Faults fresh fault := by
  have sustained := reached.sustained sound
  have ends := sustained.run_ends sound legal
  cases ran : request.run session with
  | ok answer after => exact Or.inl ⟨answer, after, rfl⟩
  | error fault after =>
    rw [ran] at ends
    exact Or.inr ⟨fault, after, rfl, ends.2, ends.2.faults sustained.kept.grower⟩

theorem Reached.answered_of_faultless (reached : Reached fresh grants session)
    (sound : Grower.Sound fresh) (faultless : ∀ fault, ¬Grower.Faults fresh fault)
    (legal : request.Legal grants session) :
    ∃ answer after, request.run session = .ok answer after := by
  rcases reached.answered_or_stopped sound legal with answered | ⟨fault, -, -, -, faults⟩
  · exact answered
  · exact absurd faults (faultless fault)

/-- The free blocks, their units and their bytes can be counted, and there is nothing else for a
survey to count. -/
theorem Reached.exists_survey (reached : Reached fresh grants session)
    (sound : Grower.Sound fresh) :
    ∃ survey bytes, session.heap.survey = .ok survey ∧ survey.totals.bytes = .ok bytes ∧
      survey.totals.length < 2 ^ 64 ∧ survey.defects.isSound = true := by
  have unitSize : unitBytes.toNat = 16 := rfl
  by_cases idle : session.heap.free = none
  · refine ⟨{}, 0, ?_, by decide, by decide, by decide⟩
    rw [Heap.survey, idle]
  · obtain ⟨list, blocks, balanced⟩ := (reached.sustained sound).exists_balanced idle
    have few := balanced.holds.canonical.card_add_two_le
    have short : blocks.length + 1 < 2 ^ 60 := balanced.holds.canonical.length_lt
    have inWord : (freeUnits blocks).card < 2 ^ 64 := by omega
    have units : (freeUnits blocks).card.toUInt64.toNat = (freeUnits blocks).card :=
      UInt64.toNat_ofNat_of_lt inWord
    have fits : (freeUnits blocks).card.toUInt64.toNat * unitBytes.toNat < 2 ^ 64 := by
      rw [units, unitSize]
      omega
    have length : blocks.length < 2 ^ 64 := by omega
    have surveyed : session.heap.survey = list.survey session.heap.memory := by
      rw [Heap.survey, balanced.free]
    exact ⟨_, _, surveyed.trans balanced.holds.survey_eq, times_of_lt fits, length, rfl⟩

/-- On a heap over a sound grower every request that keeps to the rules is answered, unless the
grower stops it when the request asks it for memory, which a grower that comes to no fault never
does. The questions about live blocks and free units are answered at all times. Fixed buffers and
heaps of pages are sound and stop no request. -/
theorem requests_answered :
    (∀ {G E : Type} [Grower G E] {fresh : G} {grants : List Grant} {session : Session G E},
        Grower.Sound fresh → Reached fresh grants session →
      (∀ request : Request, request.Legal grants session →
        (∃ answer after, request.run session = .ok answer after) ∨
          ∃ fault after, request.run session = .error fault after ∧
            Stopped fault session after ∧ Grower.Faults fresh fault) ∧
      ((∀ fault, ¬Grower.Faults fresh fault) → ∀ request : Request, request.Legal grants session →
        ∃ answer after, request.run session = .ok answer after) ∧
      (∀ grant ∈ grants, ∃ usable, session.heap.usableSize grant.payload = .ok usable) ∧
      ∃ survey bytes, session.heap.survey = .ok survey ∧ survey.totals.bytes = .ok bytes ∧
        survey.totals.length < 2 ^ 64 ∧ survey.defects.isSound = true) ∧
    (∀ {fresh : FixedBuffer}, fresh.Fresh → Grower.Sound fresh ∧
      ∀ {grants : List Grant} {session : Session FixedBuffer Exhausted},
        Reached fresh grants session → ∀ request : Request, request.Legal grants session →
        ∃ answer after, request.run session = .ok answer after) ∧
    (∀ {S : Type} [Mapper S] {fresh : PageHeap S}, fresh.Fresh → Grower.Sound fresh ∧
      ∀ {grants : List Grant} {session : Session (PageHeap S) MapError},
        Reached fresh grants session → ∀ request : Request, request.Legal grants session →
        ∃ answer after, request.run session = .ok answer after) := by
  refine ⟨fun sound reached => ⟨fun request legal => reached.answered_or_stopped sound legal,
    fun faultless request legal => reached.answered_of_faultless sound faultless legal,
    fun grant member => ?_, reached.exists_survey sound⟩,
    fun fresh => ⟨FixedBuffer.sound fresh, fun reached request legal => ?_⟩,
    fun fresh => ⟨PageHeap.sound fresh, fun reached request legal => ?_⟩⟩
  · obtain ⟨usable, computed, -⟩ := ((reached.sustained sound).live grant member).usableSize_eq
    exact ⟨usable, computed⟩
  · exact reached.answered_of_faultless (FixedBuffer.sound fresh) (FixedBuffer.faultless _) legal
  · exact reached.answered_of_faultless (PageHeap.sound fresh) (PageHeap.faultless fresh) legal

/-- A small buffer in use answers a resize to the largest size and alignment, and so does a heap of
pages its first request. -/
theorem requests_answered_smallBuffer :
    (∃ (grants : List Grant) (session : Session FixedBuffer Exhausted) (survey : Survey)
        (usable bytes : Word), Reached smallBuffer grants session ∧
      (∃ answer after, Heap.resizeAligned (some 4128) 18446744073709551600 9223372036854775808
        session = .ok answer after) ∧
      session.heap.usableSize 4128 = .ok usable ∧ session.heap.survey = .ok survey ∧
      survey.totals.bytes = .ok bytes) ∧
    ∃ answer after, Heap.allocate 40 ({ heap := { grower := singlePage } } : Session _ MapError) =
      .ok answer after := by
  obtain ⟨questions, buffers, pages⟩ := requests_answered
  obtain ⟨sound, answers⟩ := buffers smallBuffer_fresh
  obtain ⟨grants, session, reached, -, listed, -⟩ := exists_reached_smallBuffer
  obtain ⟨-, -, sizes, survey, bytes, surveyed, counted, -⟩ := questions sound reached
  obtain ⟨usable, computed⟩ := sizes _ listed
  have resized := answers reached
    (.resizeAligned (some 4128) 18446744073709551600 9223372036854775808)
    ⟨by rintro _ ⟨⟩; exact ⟨_, listed, rfl⟩, by decide, nofun⟩
  have allocated := (pages singlePage_fresh).2 (.start {}) (.allocate 40) ⟨nofun, rfl, nofun⟩
  exact ⟨⟨grants, session, survey, usable, bytes, reached, resized, computed, surveyed, counted⟩,
    allocated⟩

end NextFit
