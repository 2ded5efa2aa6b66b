/-
This file follows a heap from one state to another. Its callers make calls and are
answered, or a call stops at a fault; in between they write to their payloads, and memory
that is not the heap's changes as it likes. The books are kept all along, the log only gets
longer, and a free list that is there once stays where it is.
-/

import NextFit.Proofs.Heap.Frame

namespace NextFit

/-! ### Exchanges -/

/-- A call with the answer that its caller got, unless it stopped at a fault. -/
structure Exchange where
  /-- What the caller wanted. -/
  request : Request
  /-- What the caller got. -/
  answer : Except Fault (Option Address)

/-- The grant that an exchange ended with. -/
def Exchange.granted (exchange : Exchange) : Option Grant :=
  match exchange.answer with
  | .ok (some payload) =>
    some { payload, size := exchange.request.size, alignment := exchange.request.alignment }
  | _ => none

variable {G E : Type} [Grower G E] {fresh : G} {session after : Session G E}
  {list : FreeList} {blocks : List FreeBlock} {lent lentAfter : Finset Nat}
  {grants grantsAfter : List Grant} {exchanges : List Exchange} {request : Request}

/-- What the caller gets to know of a call. -/
def Request.reply (request : Request) (session : Session G E) : Except Fault (Option Address) :=
  match request.run session with
  | .ok answer _ => .ok answer
  | .error fault _ => .error fault

/-- The uses of a heap from a state on, with the exchanges that make them up, the last one first.
Memory that did not come from the grower may change at any time. -/
inductive Uses (grants : List Grant) (session : Session G E) :
    List Exchange → List Grant → Session G E → Prop
  | done : Uses grants session [] grants session
  | call {exchanges : List Exchange} {grantsLater : List Grant} {later : Session G E} :
      Uses grants session exchanges grantsLater later → (request : Request) →
      request.isCall = true → request.Legal grantsLater later →
      Uses grants session ({ request, answer := request.reply later } :: exchanges)
        (request.serve grantsLater later).1 (request.serve grantsLater later).2
  | store {exchanges : List Exchange} {grantsLater : List Grant} {later : Session G E} :
      Uses grants session exchanges grantsLater later → (address : Address) → (value : UInt8) →
      (Request.store address value).Legal grantsLater later →
      Uses grants session exchanges grantsLater { later with heap := { later.heap with
        memory := later.heap.memory.setByte address value } }
  | elsewhere {exchanges : List Exchange} {grantsLater : List Grant} {later : Session G E}
      {memory : Memory} :
      Uses grants session exchanges grantsLater later →
      (∀ address, unitOf address ∈ owned (grown later.log) →
        memory.header address = later.heap.memory.header address) →
      Uses grants session exchanges grantsLater
        { later with heap := { later.heap with memory } }

theorem Request.run_of_reply (grants : List Grant) {answer : Option Address}
    (answered : request.reply session = .ok answer) :
    request.run session = .ok answer (request.serve grants session).2 := by
  unfold reply at answered
  unfold serve
  cases ran : request.run session with
  | error fault after =>
    rw [ran] at answered
    cases answered
  | ok reached after =>
    rw [ran] at answered
    cases answered
    rfl

/-- A write to a payload leaves the grants as they are. -/
theorem Request.serve_store (address : Address) (value : UInt8) (grants : List Grant)
    (session : Session G E) :
    (store address value).serve grants session =
      (grants, { session with heap := { session.heap with
        memory := session.heap.memory.setByte address value } }) := by
  show ((store address value).settle grants none, _) = _
  rw [settle_none_of_given rfl]

omit [Grower G E] in
/-- A write to a payload leaves all headers outside of it as they are. -/
theorem Request.Legal.header_store {address : Address} {value : UInt8}
    (legal : (Request.store address value).Legal grants session)
    (live : ∀ grant ∈ grants, grant.Live session.heap.memory) {other : Address}
    (apart : ∀ grant ∈ grants, unitOf other ∉ grant.body) :
    (session.heap.memory.setByte address value).header other =
      session.heap.memory.header other := by
  obtain ⟨grant, member, usable, computed, low, high⟩ := legal.inside address value rfl
  have inside := (live grant member).unitOf_mem_body computed low high
  exact Memory.header_setByte _ value fun equal => apart grant member (equal ▸ inside)

/-- Whatever is live after a call was live before, or the call has handed it out. -/
theorem Request.mem_serve {grant : Grant} (member : grant ∈ (request.serve grants session).1) :
    grant ∈ grants ∨ grant ∈ (Exchange.mk request (request.reply session)).granted := by
  unfold serve at member
  unfold reply
  cases ran : request.run session with
  | error fault after =>
    rw [ran] at member
    exact Or.inl member
  | ok answer after =>
    rw [ran] at member
    cases answer with
    | none => exact Or.inl ((settle_none_sublist request grants).subset member)
    | some payload =>
      rcases List.mem_cons.mp member with rfl | old
      · exact Or.inr rfl
      · exact Or.inl (List.mem_of_mem_filter old)

/-- A use of a heap that has been used is one longer use. -/
theorem Reached.uses (reached : Reached fresh grants session)
    (uses : Uses grants session exchanges grantsAfter after) : Reached fresh grantsAfter after := by
  induction uses with
  | done => exact reached
  | call _ request _ legal inductionHypothesis => exact inductionHypothesis.serve request legal
  | store _ address value legal inductionHypothesis =>
    have stored := inductionHypothesis.serve (.store address value) legal
    rwa [Request.serve_store] at stored
  | elsewhere _ same inductionHypothesis => exact inductionHypothesis.elsewhere same

/-! ### What stays -/

/-- The log tells what was done, and nothing is struck out of it. -/
theorem Reached.log_of_uses (reached : Reached fresh grants session) (sound : Grower.Sound fresh)
    (uses : Uses grants session exchanges grantsAfter after) : session.log <+: after.log := by
  induction uses with
  | done => exact List.prefix_rfl
  | call uses request call legal inductionHypothesis =>
    have sustained := (reached.uses uses).sustained sound
    exact inductionHypothesis.trans (sustained.serve_spares sound legal call).2.log
  | store _ _ _ _ inductionHypothesis => exact inductionHypothesis
  | elsewhere _ _ inductionHypothesis => exact inductionHypothesis

/-- The sentinel of a heap stays where it is. -/
theorem Balanced.sentinel_eq {listAfter : FreeList} {blocksAfter : List FreeBlock}
    (balanced : Balanced fresh session list blocks lent)
    (balancedAfter : Balanced fresh after listAfter blocksAfter lentAfter)
    (log : session.log <+: after.log) : listAfter.sentinel = list.sentinel := by
  obtain ⟨events, same⟩ := log
  obtain ⟨first, last, start⟩ := Option.map_eq_some_iff.mp balanced.root
  -- The first region is still the first one.
  have lastAfter : (grown after.log).getLast? = some first := by
    rw [← same, grown_append_log, List.getLast?_append, last]
    rfl
  have root := balancedAfter.root
  rw [lastAfter] at root
  exact (Option.some_inj.mp root).symm.trans start

/-- A heap with a free list keeps one with the same sentinel. -/
theorem Balanced.exists_later (balanced : Balanced fresh session list blocks lent)
    (kept : Kept fresh after lentAfter) (log : session.log <+: after.log) :
    ∃ listAfter blocksAfter, Balanced fresh after listAfter blocksAfter lentAfter ∧
      listAfter.sentinel = list.sentinel := by
  cases kept with
  | idle idle =>
    have before := owned_grown_mono log
    rw [idle.nothing, ← balanced.covers] at before
    exact absurd (before (Finset.mem_insert_self _ _)) (Finset.notMem_empty _)
  | balanced balancedAfter =>
    exact ⟨_, _, balancedAfter, balanced.sentinel_eq balancedAfter log⟩

end NextFit
