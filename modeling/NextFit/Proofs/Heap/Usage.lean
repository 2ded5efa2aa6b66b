/-
This file follows a heap through its use. Its callers make requests of every kind, in any
order, with any sizes and alignments, and write to the payloads that they have been given.
All they must keep to is that a payload which they hand in is live and that an alignment
is a power of two. Then the books of the heap are kept at all times: what is lent are the
blocks of the live payloads, and each of these is as it was asked for.
-/

import NextFit.Heap.Report
import NextFit.Proofs.FreeList.Survey
import NextFit.Proofs.Grower.FixedBuffer
import NextFit.Proofs.Heap.Resize

namespace NextFit

/-! ### Requests -/

/-- What a caller may do. -/
inductive Request
  | allocate (size : Word)
  | allocateZeroed (size : Word)
  | allocateAligned (size alignment : Word)
  | resize (given : Option Address) (size : Word)
  | resizeAligned (given : Option Address) (size alignment : Word)
  | release (given : Option Address)
  /-- Writes a byte. -/
  | store (address : Address) (value : UInt8)

namespace Request

/-- The payload that the caller hands in. -/
def given : Request → Option Address
  | resize given _ | resizeAligned given _ _ | release given => given
  | _ => none

/-- The bytes that the caller asks for. -/
def size : Request → Word
  | allocate size | allocateZeroed size | allocateAligned size _ | resize _ size
  | resizeAligned _ size _ => size
  | _ => 0

/-- The alignment that the caller asks for. -/
def alignment : Request → Word
  | allocateAligned _ alignment | resizeAligned _ _ alignment => alignment
  | _ => headerAlignment

/-- Whether the heap is called. Otherwise the caller works on memory by himself. -/
def isCall : Request → Bool
  | store .. => false
  | _ => true

/-- Does what the caller wants. The answer is a payload if one is handed out. -/
def run {G E : Type} [Grower G E] : Request → Action G E (Option Address)
  | allocate size => Heap.allocate size
  | allocateZeroed size => Heap.allocateZeroed size
  | allocateAligned size alignment => Heap.allocateAligned size alignment
  | resize given size => Heap.resize given size
  | resizeAligned given size alignment => Heap.resizeAligned given size alignment
  | release given => do
    Heap.release given
    return none
  | store address value => do
    Action.onMemory (modify (·.setByte address value))
    return none

/-- The grants but for that of the given payload. -/
def without (given : Option Address) (grants : List Grant) : List Grant :=
  grants.filter fun grant => given ≠ some grant.payload

/-- The grants once a request has been answered. The payload that the caller handed in is live no
more if another block, or none, was asked for in its place. -/
def settle (request : Request) (grants : List Grant) : Option Address → List Grant
  | some payload => { payload, size := request.size, alignment := request.alignment } ::
      without request.given grants
  | none => if request.size = 0 then without request.given grants else grants

/-- The grants and the session once a request has been served. A request that stopped at a fault has
granted nothing. -/
def serve {G E : Type} [Grower G E] (request : Request) (grants : List Grant)
    (session : Session G E) : List Grant × Session G E :=
  match request.run session with
  | .ok answer after => (request.settle grants answer, after)
  | .error _ after => (grants, after)

/-- What a caller must keep to. -/
structure Legal {G E : Type} (grants : List Grant) (session : Session G E) (request : Request) :
    Prop where
  given : ∀ payload ∈ request.given, ∃ grant ∈ grants, grant.payload = payload
  power : isPowerOfTwo request.alignment = true
  inside : ∀ address value, request = store address value → ∃ grant ∈ grants, ∃ usable,
    session.heap.usableSize grant.payload = .ok usable ∧
      grant.payload.toNat ≤ address.toNat ∧ address.toNat < grant.payload.toNat + usable.toNat

end Request

variable {G E : Type} [Grower G E] {fresh : G} {session after : Session G E} {list : FreeList}
  {blocks : List FreeBlock} {lent : Finset Nat} {grants fewer : List Grant} {grant : Grant}
  {request : Request}

omit [Grower G E] in
/-- What a caller may do with some live payloads he may do with more. -/
theorem Request.Legal.mono (legal : request.Legal fewer session) (subset : fewer ⊆ grants) :
    request.Legal grants session where
  given payload here := by
    obtain ⟨grant, member, same⟩ := legal.given payload here
    exact ⟨grant, subset member, same⟩
  power := legal.power
  inside address value stored := by
    obtain ⟨grant, member, inside⟩ := legal.inside address value stored
    exact ⟨grant, subset member, inside⟩

/-- The uses of a heap over a fresh grower, with the grants that are live. Memory that did not come
from the grower may change at any time. -/
inductive Reached (fresh : G) : List Grant → Session G E → Prop
  | start (memory : Memory) : Reached fresh [] { heap := { memory, grower := fresh } }
  | serve {grants : List Grant} {session : Session G E} : Reached fresh grants session →
      (request : Request) → request.Legal grants session →
      Reached fresh (request.serve grants session).1 (request.serve grants session).2
  | elsewhere {grants : List Grant} {session : Session G E} {memory : Memory} :
      Reached fresh grants session →
      (∀ address, unitOf address ∈ owned (grown session.log) →
        memory.header address = session.heap.memory.header address) →
      Reached fresh grants { session with heap := { session.heap with memory } }

/-! ### Live blocks -/

/-- The units of the blocks that are live. -/
def lentTo (grants : List Grant) : Finset Nat :=
  covered (grants.map Grant.stretch)

theorem mem_lentTo {unit : Nat} :
    unit ∈ lentTo grants ↔ ∃ grant ∈ grants, unit ∈ grant.stretch := by
  simp only [lentTo, mem_covered, List.mem_map, exists_exists_and_eq_and]

theorem stretch_subset_lentTo (member : grant ∈ grants) : grant.stretch ⊆ lentTo grants :=
  fun _ here => mem_lentTo.mpr ⟨grant, member, here⟩

theorem lentTo_mono (sublist : fewer.Sublist grants) : lentTo fewer ⊆ lentTo grants := by
  intro unit here
  obtain ⟨grant, member, inside⟩ := mem_lentTo.mp here
  exact mem_lentTo.mpr ⟨grant, sublist.subset member, inside⟩

theorem Request.without_none : Request.without none grants = grants :=
  List.filter_eq_self.mpr fun _ _ => rfl

theorem Request.settle_none (nothing : request.size = 0) :
    request.settle grants none = without request.given grants :=
  if_pos nothing

theorem Request.settle_none_of_given (given : request.given = none) :
    request.settle grants none = grants := by
  show (if request.size = 0 then without request.given grants else grants) = grants
  rw [given, without_none, ite_self]

theorem Request.settle_none_sublist (request : Request) (grants : List Grant) :
    (request.settle grants none).Sublist grants := by
  unfold Request.settle
  dsimp only
  split
  · exact List.filter_sublist
  · exact .refl _

/-- What is not handed in stays, whether or not there is a new block. -/
theorem Request.without_sublist_settle (request : Request) :
    (without request.given grants).Sublist (request.settle grants none) := by
  unfold Request.settle
  dsimp only
  split
  · exact .refl _
  · exact List.filter_sublist

theorem Request.mem_without {payload : Address} :
    grant ∈ without (some payload) grants ↔ grant ∈ grants ∧ grant.payload ≠ payload := by
  rw [without, List.mem_filter, decide_eq_true_eq, ne_eq, Option.some_inj, ← ne_eq, ne_comm]

theorem Request.mem_without_of_ne {given : Option Address} (member : grant ∈ grants)
    (other : given ≠ some grant.payload) : grant ∈ without given grants :=
  List.mem_filter.mpr ⟨member, decide_eq_true other⟩

/-- A block that is not handed in stays live, whatever the answer. -/
theorem Request.mem_settle (member : grant ∈ grants) (other : request.given ≠ some grant.payload)
    (answer : Option Address) : grant ∈ request.settle grants answer := by
  have left := mem_without_of_ne member other
  cases answer with
  | some payload => exact List.mem_cons_of_mem _ left
  | none => exact request.without_sublist_settle.subset left

theorem disjoint_of_ne (apart : (grants.map Grant.stretch).Pairwise Disjoint) {other : Grant}
    (member : grant ∈ grants) (otherMember : other ∈ grants) (different : other ≠ grant) :
    Disjoint other.stretch grant.stretch := by
  have symmetric : Std.Symm fun first second : Grant => Disjoint first.stretch second.stretch :=
    ⟨fun _ _ disjoint => disjoint.symm⟩
  exact (List.pairwise_map.mp apart).forall otherMember member different

omit [Grower G E] in
/-- The caller of a live payload may use all units of the block but that of the header. -/
theorem Grant.Live.usableSize_eq {heap : Heap G} (live : grant.Live heap.memory) :
    ∃ usable, heap.usableSize grant.payload = .ok usable ∧
      usable.toNat = 16 * ((unitsFor grant.size).toNat - 1) := by
  have few := live.lies.unitOf_add_le
  unfold Heap.usableSize
  rw [live.size_eq]
  exact bytesOf_eq _ (by omega) (unitsFor_ne_zero grant.size)

omit [Grower G E] in
/-- These bytes fall in the units of the payload. -/
theorem Grant.Live.unitOf_mem_body {heap : Heap G} (live : grant.Live heap.memory)
    {address : Address} {usable : Word} (computed : heap.usableSize grant.payload = .ok usable)
    (low : grant.payload.toNat ≤ address.toNat)
    (high : address.toNat < grant.payload.toNat + usable.toNat) : unitOf address ∈ grant.body := by
  obtain ⟨bytes, result, room⟩ := live.usableSize_eq
  rw [result] at computed
  cases computed
  exact live.mem_body low (room ▸ high)

/-- Blocks that are apart have different payloads. -/
theorem Grant.payload_ne {other : Grant} (apart : Disjoint grant.stretch other.stretch) :
    grant.payload ≠ other.payload := by
  intro same
  refine Finset.disjoint_left.mp apart grant.header_mem ?_
  rw [Grant.header, same]
  exact other.header_mem

/-- A live payload has one block. -/
theorem eq_of_payload_eq (apart : (grants.map Grant.stretch).Pairwise Disjoint) {other : Grant}
    (member : grant ∈ grants) (otherMember : other ∈ grants)
    (same : other.payload = grant.payload) : other = grant := by
  by_contra different
  exact Grant.payload_ne (disjoint_of_ne apart member otherMember different) same

theorem lentTo_without (apart : (grants.map Grant.stretch).Pairwise Disjoint)
    (member : grant ∈ grants) :
    lentTo (Request.without (some grant.payload) grants) = lentTo grants \ grant.stretch := by
  ext unit
  rw [Finset.mem_sdiff, mem_lentTo, mem_lentTo]
  constructor
  · rintro ⟨other, listed, here⟩
    obtain ⟨otherMember, different⟩ := Request.mem_without.mp listed
    have disjoint := disjoint_of_ne apart member otherMember fun equal =>
      different (congrArg Grant.payload equal)
    exact ⟨⟨other, otherMember, here⟩, Finset.disjoint_left.mp disjoint here⟩
  · rintro ⟨⟨other, otherMember, here⟩, elsewhere⟩
    refine ⟨other, Request.mem_without.mpr ⟨otherMember, fun same => elsewhere ?_⟩, here⟩
    rwa [← eq_of_payload_eq apart member otherMember same]

/-- What a call leaves behind that serves a request: a block that it has handed out, or none. Memory
that is lent to others is as it was. -/
def Request.Outcome (request : Request) (fresh : G) (grants : List Grant) (session : Session G E) :
    Option Address → Session G E → Prop
  | some payload, after => HandsOut fresh session after (lentTo (without request.given grants))
      { payload, size := request.size, alignment := request.alignment }
  | none, after => Keeps fresh session after (lentTo (request.settle grants none))

/-! ### What use sustains -/

/-- The books are kept: what is lent are the blocks of the grants, no two of which have a unit in
common, and all of them are live. -/
structure Sustained (fresh : G) (grants : List Grant) (session : Session G E) : Prop where
  kept : Kept fresh session (lentTo grants)
  apart : (grants.map Grant.stretch).Pairwise Disjoint
  live : ∀ grant ∈ grants, grant.Live session.heap.memory
  power : ∀ grant ∈ grants, isPowerOfTwo grant.alignment = true

namespace Sustained

/-- The books of a heap that nobody has used yet. -/
theorem start (fresh : G) (memory : Memory) :
    Sustained fresh [] { heap := { memory, grower := fresh } } :=
  ⟨.idle ⟨.fresh, rfl, rfl⟩, List.Pairwise.nil, List.forall_mem_nil _, List.forall_mem_nil _⟩

/-- What is live stays live if nobody writes to it. -/
theorem spared (sustained : Sustained fresh grants session) (sublist : fewer.Sublist grants)
    (kept : Kept fresh after (lentTo fewer)) (spares : Spares session after (lentTo fewer)) :
    Sustained fresh fewer after where
  kept := kept
  apart := sustained.apart.sublist (sublist.map _)
  live grant member := (sustained.live grant (sublist.subset member)).congr
    (spares _ (stretch_subset_lentTo member grant.header_mem))
  power grant member := sustained.power grant (sublist.subset member)

theorem granted (sustained : Sustained fresh grants session) (sublist : fewer.Sublist grants)
    (hands : HandsOut fresh session after (lentTo fewer) grant)
    (power : isPowerOfTwo grant.alignment = true) : Sustained fresh (grant :: fewer) after where
  kept := by
    obtain ⟨list, blocks, balanced⟩ := hands.balanced
    exact .balanced balanced
  apart := List.pairwise_cons.mpr
    ⟨disjoint_covered.mp hands.apart, sustained.apart.sublist (sublist.map _)⟩
  live := List.forall_mem_cons.mpr ⟨hands.live, fun other member =>
    (sustained.live other (sublist.subset member)).congr
      (hands.spares _ (stretch_subset_lentTo member other.header_mem))⟩
  power := List.forall_mem_cons.mpr
    ⟨power, fun other member => sustained.power other (sublist.subset member)⟩

/-- As long as a payload is live there is a free list. -/
theorem exists_balanced_of_mem (sustained : Sustained fresh grants session)
    (member : grant ∈ grants) :
    ∃ list blocks, Balanced fresh session list blocks (lentTo grants) :=
  sustained.kept.exists_balanced (stretch_subset_lentTo member grant.header_mem)

/-- Once a call has been served the grants are settled. -/
theorem settled (sustained : Sustained fresh grants session)
    (power : isPowerOfTwo request.alignment = true) {answer : Option Address}
    (outcome : request.Outcome fresh grants session answer after) :
    Sustained fresh (request.settle grants answer) after := by
  cases answer with
  | some payload => exact sustained.granted List.filter_sublist outcome power
  | none =>
    exact sustained.spared (Request.settle_none_sublist request grants) outcome.kept outcome.spares

/-- A new block is handed out, or there is none. -/
theorem call_new (request : Request) (given : request.given = none)
    {result : EStateM.Result Fault (Session G E) (Option Address)}
    (ends : Ends result
      (fun answer after =>
        match answer with
        | some payload => HandsOut fresh session after (lentTo grants)
            { payload, size := request.size, alignment := request.alignment }
        | none => Keeps fresh session after (lentTo grants))
      (fun fault after =>
        Keeps fresh session after (lentTo grants) ∧ Stopped fault session after)) :
    Ends result (request.Outcome fresh grants session)
      (fun fault after =>
        Keeps fresh session after (lentTo grants) ∧ Stopped fault session after) := by
  have same : Request.without request.given grants = grants := given ▸ Request.without_none
  refine ends.mono (fun answer after ends => ?_) fun _ _ ends => ends
  cases answer with
  | some payload =>
    rw [Request.Outcome, same]
    exact ends
  | none =>
    rw [Request.Outcome, Request.settle_none_of_given given]
    exact ends

/-- A block that is handed in is resized, or there is a new one. -/
theorem call_resize (sustained : Sustained fresh grants session) (sound : Grower.Sound fresh)
    {given : Option Address} {size alignment : Word} (power : isPowerOfTwo alignment = true)
    (live : ∀ payload ∈ given, ∃ grant ∈ grants, grant.payload = payload) :
    Ends (Heap.resizeAligned given size alignment session)
      ((Request.resizeAligned given size alignment).Outcome fresh grants session)
      (fun fault after =>
        Keeps fresh session after (lentTo grants) ∧ Stopped fault session after) := by
  cases given with
  | none =>
    exact call_new (.resizeAligned none size alignment) rfl
      (sustained.kept.allocateAligned_ends sound power)
  | some payload =>
    obtain ⟨grant, member, rfl⟩ := live payload rfl
    refine (sustained.kept.resizeAligned_ends sound (sustained.live grant member)
      (stretch_subset_lentTo member) power).mono (fun answer _ ends => ?_) fun _ _ ends => ends
    rw [← lentTo_without sustained.apart member, ← apply_ite lentTo] at ends
    cases answer <;> exact ends

/-- A block that is handed in is freed. -/
theorem call_release (sustained : Sustained fresh grants session) {given : Option Address}
    (live : ∀ payload ∈ given, ∃ grant ∈ grants, grant.payload = payload) :
    ∃ after, Heap.release given session = .ok () after ∧
      Keeps fresh session after (lentTo (Request.without given grants)) := by
  cases given with
  | none =>
    rw [Request.without_none]
    exact ⟨session, rfl, sustained.kept, fun _ _ => rfl, .refl session ∅⟩
  | some payload =>
    obtain ⟨grant, member, rfl⟩ := live payload rfl
    obtain ⟨list, blocks, balanced⟩ := sustained.exists_balanced_of_mem member
    obtain ⟨after, result, takesBack⟩ :=
      balanced.release (sustained.live grant member) (stretch_subset_lentTo member)
    obtain ⟨listAfter, blocksAfter, balancedAfter, -⟩ := takesBack.balanced
    rw [lentTo_without sustained.apart member]
    exact ⟨after, result, .balanced balancedAfter, takesBack.spares, takesBack.confined⟩

/-- Whatever a caller wants of a heap who keeps to the rules, he gets a block or none, and no other
block is touched. The call stops at a fault only if the grower does. -/
theorem call_ends (sustained : Sustained fresh grants session) (sound : Grower.Sound fresh)
    (legal : request.Legal grants session) (call : request.isCall = true) :
    Ends (request.run session) (request.Outcome fresh grants session)
      (fun fault after =>
        Keeps fresh session after (lentTo grants) ∧ Stopped fault session after) := by
  have power := legal.power
  cases request with
  | allocate size =>
    refine call_new (.allocate size) rfl ?_
    show Ends (Heap.allocate size session) _ _
    rw [Heap.allocate_eq]
    exact sustained.kept.allocateAligned_ends sound power
  | allocateZeroed size =>
    exact call_new (.allocateZeroed size) rfl (sustained.kept.allocateZeroed_ends sound)
  | allocateAligned size alignment =>
    exact call_new (.allocateAligned size alignment) rfl
      (sustained.kept.allocateAligned_ends sound power)
  | resize given size => exact sustained.call_resize sound power legal.given
  | resizeAligned given size alignment => exact sustained.call_resize sound power legal.given
  | release given =>
    have live : ∀ payload ∈ given, ∃ grant ∈ grants, grant.payload = payload := legal.given
    obtain ⟨after, result, keeps⟩ := sustained.call_release live
    show Ends ((Heap.release given >>= _) session) _ _
    rw [bind_of_ok result]
    exact keeps
  | store address value => cases call

/-- Memory may change in live payloads and where nothing of the heap is. -/
theorem written (sustained : Sustained fresh grants session) {memory : Memory}
    (same : ∀ address, unitOf address ∈ owned (grown session.log) →
      (∀ grant ∈ grants, unitOf address ∉ grant.body) →
      memory.header address = session.heap.memory.header address) :
    Sustained fresh grants { session with heap := { session.heap with memory } } := by
  have lentOwned := sustained.kept.subset_owned
  refine ⟨sustained.kept.write (fun address inside => ?_) rfl rfl rfl, sustained.apart,
    fun grant member => (sustained.live grant member).congr (same _ ?_ ?_), sustained.power⟩
  · obtain ⟨here, notLent⟩ := Finset.mem_sdiff.mp inside
    exact same address here fun grant member body =>
      notLent (stretch_subset_lentTo member (Finset.mem_of_mem_erase body))
  · exact lentOwned (stretch_subset_lentTo member grant.header_mem)
  · intro other otherMember body
    by_cases equal : grant = other
    · subst equal
      exact Finset.notMem_erase _ _ body
    · exact Finset.disjoint_left.mp (disjoint_of_ne sustained.apart otherMember member equal)
        grant.header_mem (Finset.mem_of_mem_erase body)

/-- A caller writes to a live payload. -/
theorem store (sustained : Sustained fresh grants session) (member : grant ∈ grants)
    {address : Address} {usable : Word}
    (computed : session.heap.usableSize grant.payload = .ok usable)
    (low : grant.payload.toNat ≤ address.toNat)
    (high : address.toNat < grant.payload.toNat + usable.toNat) (value : UInt8) :
    Sustained fresh grants { session with heap := { session.heap with
      memory := session.heap.memory.setByte address value } } := by
  have inside := (sustained.live grant member).unitOf_mem_body computed low high
  refine sustained.written fun other _ apart => Memory.header_setByte _ value fun equal => ?_
  exact apart grant member (equal ▸ inside)

/-- Whatever a caller does who keeps to the rules, the books are kept. -/
theorem run_ends (sustained : Sustained fresh grants session) (sound : Grower.Sound fresh)
    (legal : request.Legal grants session) :
    Ends (request.run session) (fun answer => Sustained fresh (request.settle grants answer))
      (fun fault after => Sustained fresh grants after ∧ Stopped fault session after) := by
  cases call : request.isCall with
  | true =>
    exact (sustained.call_ends sound legal call).mono
      (fun _ _ outcome => sustained.settled legal.power outcome)
      fun _ _ ends => ⟨sustained.spared (.refl _) ends.1.kept ends.1.spares, ends.2⟩
  | false =>
    cases request with
    | store address value =>
      obtain ⟨grant, member, usable, computed, low, high⟩ := legal.inside address value rfl
      show Sustained fresh (Request.settle _ _ none) _
      rw [Request.settle_none rfl]
      show Sustained fresh (Request.without none grants) _
      rw [Request.without_none]
      exact sustained.store member computed low high value
    | _ => cases call

theorem serve (sustained : Sustained fresh grants session) (sound : Grower.Sound fresh)
    (legal : request.Legal grants session) :
    Sustained fresh (request.serve grants session).1 (request.serve grants session).2 := by
  have ends := sustained.run_ends sound legal
  rw [Request.serve]
  cases ran : request.run session with
  | ok answer after =>
    rw [ran] at ends
    exact ends
  | error fault after =>
    rw [ran] at ends
    exact ends.1

end Sustained

/-- At any time the books are kept. -/
theorem Reached.sustained (reached : Reached fresh grants session) (sound : Grower.Sound fresh) :
    Sustained fresh grants session := by
  induction reached with
  | start memory => exact .start fresh memory
  | serve _ request legal inductionHypothesis => exact inductionHypothesis.serve sound legal
  | elsewhere _ same inductionHypothesis =>
    exact inductionHypothesis.written fun address here _ => same address here

/-- A request that was answered leads on. -/
theorem Reached.answered (reached : Reached fresh grants session)
    (legal : request.Legal grants session) {answer : Option Address}
    (ran : request.run session = .ok answer after) :
    Reached fresh (request.settle grants answer) after := by
  have served := reached.serve request legal
  rwa [Request.serve, ran] at served

/-! ### What a heap shows -/

theorem Balanced.freeBlocks_eq (balanced : Balanced fresh session list blocks lent) :
    session.heap.freeBlocks = .ok (some blocks) := by
  rw [Heap.freeBlocks, balanced.free]
  show (do return some (← list.blocks session.heap.memory)) = _
  rw [balanced.holds.blocks_eq]
  rfl

theorem Balanced.survey_eq (balanced : Balanced fresh session list blocks lent) :
    ∃ survey, session.heap.survey = .ok survey ∧
      survey.totals.units.toNat = (freeUnits blocks).card := by
  have few := balanced.holds.canonical.card_add_two_le
  have surveyed : session.heap.survey = list.survey session.heap.memory := by
    rw [Heap.survey, balanced.free]
  refine ⟨_, surveyed.trans balanced.holds.survey_eq, ?_⟩
  show (Nat.toUInt64 _).toNat = _
  rw [UInt64.toNat_ofNat', Nat.mod_eq_of_lt (by omega)]

theorem Sustained.idle (sustained : Sustained fresh grants session)
    (nothing : session.heap.free = none) : Idle fresh session := by
  have kept := sustained.kept
  generalize lentTo grants = lent at kept
  cases kept with
  | idle idle => exact idle
  | balanced balanced =>
    have free := balanced.free
    rw [nothing] at free
    cases free

theorem Sustained.grants_eq_nil (sustained : Sustained fresh grants session)
    (nothing : session.heap.free = none) : grants = [] := by
  refine List.eq_nil_iff_forall_not_mem.mpr fun grant member => ?_
  obtain ⟨list, blocks, balanced⟩ := sustained.exists_balanced_of_mem member
  have free := balanced.free
  rw [nothing] at free
  cases free

theorem Sustained.exists_balanced (sustained : Sustained fresh grants session)
    (started : session.heap.free ≠ none) :
    ∃ list blocks, Balanced fresh session list blocks (lentTo grants) := by
  have kept := sustained.kept
  generalize lentTo grants = lent at kept
  cases kept with
  | idle idle => exact absurd idle.free started
  | balanced balanced => exact ⟨_, _, balanced⟩

/-! ### A small buffer in use -/

/-- A use of a small buffer: of two blocks, one of them aligned to 64 bytes, the first was
shrunk. -/
theorem exists_reached_smallBuffer :
    ∃ (grants : List Grant) (session : Session FixedBuffer Exhausted),
      Reached smallBuffer grants session ∧ grants.length = 2 ∧ ⟨4128, 8, 16⟩ ∈ grants ∧
        session.heap.memory.size (headerBelow 4128) = 2 ∧ session.heap.free ≠ none := by
  have first := (Reached.start {} : Reached smallBuffer [] _).serve (.allocate 40)
    ⟨nofun, rfl, nofun⟩
  have second := first.serve (.allocateAligned 100 64) ⟨nofun, rfl, nofun⟩
  have third := second.serve (.resize (some 4128) 8)
    ⟨by rintro _ ⟨⟩; decide +kernel, rfl, nofun⟩
  exact ⟨_, _, third, by decide +kernel, by decide +kernel, by decide +kernel, by decide +kernel⟩

end NextFit
