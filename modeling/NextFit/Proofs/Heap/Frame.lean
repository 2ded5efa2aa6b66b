/-
This file proves what a call on a heap leaves alone. The blocks of all other live payloads
keep their headers and their contents, whatever becomes of the call: whether it hands out
a block, refuses, or stops at a fault of the grower. And no memory is written to that did
not come from the grower.
-/

import NextFit.Proofs.Heap.Usage

namespace NextFit

variable {G E : Type} [Grower G E] {fresh : G} {session after : Session G E} {grants : List Grant}
  {grant : Grant} {request : Request}

/-- Even if the block that was handed in is freed, what is lent to others is spared. -/
theorem Request.Outcome.spares {answer : Option Address}
    (outcome : request.Outcome fresh grants session answer after) :
    Spares session after (lentTo (without request.given grants)) := by
  cases answer with
  | some payload => exact HandsOut.spares outcome
  | none => exact (Keeps.spares outcome).mono (lentTo_mono request.without_sublist_settle)

/-- A call writes to no block of another payload, and to no memory but the grower's. Nothing is
tagged but what is live. -/
theorem Sustained.serve_spares (sustained : Sustained fresh grants session)
    (sound : Grower.Sound fresh) (legal : request.Legal grants session)
    (call : request.isCall = true) :
    Spares session (request.serve grants session).2
        (lentTo (Request.without request.given grants)) ∧
      Confined session (request.serve grants session).2
        (lentTo (request.serve grants session).1) := by
  have ends := sustained.call_ends sound legal call
  rw [Request.serve]
  cases ran : request.run session with
  | ok answer later =>
    rw [ran] at ends
    refine ⟨Request.Outcome.spares ends, ?_⟩
    cases answer with
    | some payload =>
      exact (HandsOut.confined ends).mono (stretch_subset_lentTo List.mem_cons_self)
    | none => exact (Keeps.confined ends).mono (Finset.empty_subset _)
  | error fault later =>
    rw [ran] at ends
    exact ⟨ends.1.spares.mono (lentTo_mono List.filter_sublist),
      ends.1.confined.mono (Finset.empty_subset _)⟩

omit [Grower G E] in
/-- A block that is spared keeps its header and the bytes that its owner may use. -/
theorem Grant.Live.spared (live : grant.Live session.heap.memory)
    (spares : Spares session after grant.stretch) :
    after.heap.memory.header (headerBelow grant.payload) =
        session.heap.memory.header (headerBelow grant.payload) ∧
      ∃ usable, session.heap.usableSize grant.payload = .ok usable ∧
        after.heap.memory.read grant.payload usable.toNat =
          session.heap.memory.read grant.payload usable.toNat := by
  obtain ⟨usable, computed, room⟩ := live.usableSize_eq
  exact ⟨spares _ grant.header_mem, usable, computed, live.read_congr (Nat.le_of_eq room)
    fun address body => spares address (grant.body_subset body)⟩

/-- In every state that a use of a heap over a sound grower leads to, and however a call ends that
keeps to the rules, all live blocks but the one that was handed in keep their headers and
their contents, and so does all memory outside of the grower's regions. -/
theorem Reached.call_leaves (reached : Reached fresh grants session) (sound : Grower.Sound fresh)
    (legal : request.Legal grants session) (call : request.isCall = true)
    (served : (request.serve grants session).2 = after) :
    (∀ grant ∈ grants, request.given ≠ some grant.payload →
      after.heap.memory.header (headerBelow grant.payload) =
          session.heap.memory.header (headerBelow grant.payload) ∧
        ∃ usable, session.heap.usableSize grant.payload = .ok usable ∧
          after.heap.memory.read grant.payload usable.toNat =
            session.heap.memory.read grant.payload usable.toNat) ∧
      Grower.Reaches fresh (grown after.log) after.heap.grower ∧
      ∀ address : Address,
        (∀ region ∈ grown after.log, address.toNat < region.start.toNat ∨
          region.start.toNat + 16 * region.units.toNat ≤ address.toNat) →
        after.heap.memory.byte address = session.heap.memory.byte address := by
  subst served
  have sustained := reached.sustained sound
  have grower := (sustained.serve sound legal).kept.grower
  obtain ⟨spares, confined⟩ := sustained.serve_spares sound legal call
  refine ⟨fun grant member other => ?_, grower, fun address outside => ?_⟩
  · refine (sustained.live grant member).spared (spares.mono (stretch_subset_lentTo ?_))
    exact List.mem_filter.mpr ⟨member, decide_eq_true other⟩
  · refine congrArg (Header.byte · _) (confined.outside address fun inside => ?_)
    obtain ⟨region, member, low, high⟩ := (sound.unitOf_mem_iff grower).mp inside
    have apart := outside region member
    omega

/-- In a small buffer in use, a block of two units is left alone as zeroed memory is handed out. -/
theorem call_leaves_smallBuffer :
    ∃ (grants : List Grant) (session after : Session FixedBuffer Exhausted),
      Reached smallBuffer grants session ∧
        ((Request.allocateZeroed 200).serve grants session).2 = after ∧
        after.heap.memory.header (headerBelow 4128) =
          session.heap.memory.header (headerBelow 4128) ∧
        ∃ usable, session.heap.usableSize 4128 = .ok usable ∧
          after.heap.memory.read 4128 usable.toNat =
            session.heap.memory.read 4128 usable.toNat := by
  obtain ⟨grants, session, reached, -, listed, -⟩ := exists_reached_smallBuffer
  have legal : (Request.allocateZeroed 200).Legal grants session := ⟨nofun, rfl, nofun⟩
  obtain ⟨after, served⟩ :
    ∃ after, ((Request.allocateZeroed 200).serve grants session).2 = after := ⟨_, rfl⟩
  obtain ⟨others, -⟩ :=
    reached.call_leaves (FixedBuffer.sound smallBuffer_fresh) legal rfl served
  have left := others _ listed nofun
  exact ⟨grants, session, after, reached, served, left⟩

end NextFit
