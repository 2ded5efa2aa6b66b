/-
This file proves that the contents of memory never steer the heap. Two uses that make the
same calls, over growers that give the same answers, get the same payloads and leave the
same free list and the same log, whatever was in memory at first and whatever their callers
write to their payloads.
-/

import NextFit.Proofs.Heap.Twins
import NextFit.Proofs.Heap.Uses

namespace NextFit

/-! ### The same calls -/

namespace Request

/-- The request with another payload handed in, if it takes one. -/
def handing (given : Option Address) : Request → Request
  | resize _ size => resize given size
  | resizeAligned _ size alignment => resizeAligned given size alignment
  | release _ => release given
  | request => request

theorem handing_handing (request : Request) :
    (request.handing none).handing request.given = request := by
  cases request <;> rfl

/-- A request is determined by its other arguments and the payload that is handed in. -/
theorem eq_of_handing {request other : Request}
    (arguments : other.handing none = request.handing none)
    (given : other.given = request.given) : other = request := by
  rw [← handing_handing other, arguments, given, handing_handing]

end Request

/-- The payloads that are handed in after two rows of exchanges are what the same earlier exchange
ended with, or there is none. -/
def SamePayload (earlier otherEarlier : List Exchange) (given otherGiven : Option Address) : Prop :=
  given = none ∧ otherGiven = none ∨
    ∃ (position : Nat) (exchange other : Exchange), earlier[position]? = some exchange ∧
      otherEarlier[position]? = some other ∧ exchange.answer = .ok given ∧
      other.answer = .ok otherGiven

/-- Two rows of exchanges make the same calls: their sizes and alignments are equal, and wherever a
payload is handed in it is the one that was returned before at the same place. -/
inductive SameCalls : List Exchange → List Exchange → Prop
  | nil : SameCalls [] []
  | cons {exchange other : Exchange} {earlier otherEarlier : List Exchange} :
      SameCalls earlier otherEarlier →
      other.request.handing none = exchange.request.handing none →
      SamePayload earlier otherEarlier exchange.request.given other.request.given →
      SameCalls (exchange :: earlier) (other :: otherEarlier)

theorem SamePayload.eq {earlier : List Exchange} {given otherGiven : Option Address}
    (same : SamePayload earlier earlier given otherGiven) : otherGiven = given := by
  rcases same with ⟨rfl, rfl⟩ | ⟨position, exchange, other, here, there, answer, otherAnswer⟩
  · rfl
  · rw [here] at there
    cases there
    rw [answer] at otherAnswer
    cases otherAnswer
    rfl

variable {G E : Type} [Grower G E] {fresh : G}
  {session first second later after : Session G E} {lent : Finset Nat}
  {grants grantsAfter : List Grant} {exchange : Exchange} {exchanges : List Exchange}
  {request : Request} {grant : Grant}

/-! ### Calls -/

theorem Sustained.twins (sustained : Sustained fresh grants first)
    (otherSustained : Sustained fresh grants second) (alike : Alike first second)
    (member : grant ∈ grants) : Twins fresh first second (lentTo grants) :=
  ⟨alike, sustained.exists_balanced_of_mem member, otherSustained.exists_balanced_of_mem member⟩

section Calls

variable (sustained : Sustained fresh grants first) (otherSustained : Sustained fresh grants second)
  (alike : Alike first second) (sound : Grower.Sound fresh)

include sustained otherSustained alike sound

theorem Sustained.resize_twins {given : Option Address} {size alignment : Word}
    (live : ∀ payload ∈ given, ∃ grant ∈ grants, grant.payload = payload)
    (power : isPowerOfTwo alignment = true) :
    Matches (fun _ => Alike) (Heap.resizeAligned given size alignment first)
      (Heap.resizeAligned given size alignment second) := by
  cases given with
  | none => exact Heap.allocateAligned_twins sustained.kept otherSustained.kept alike sound power
  | some payload =>
    obtain ⟨grant, member, rfl⟩ := live payload rfl
    exact Heap.resizeAligned_twins sustained.kept otherSustained.kept alike sound
      (sustained.live grant member) (otherSustained.live grant member)
      (stretch_subset_lentTo member) power

/-- A call on two heaps that differ in their memory only ends in the same way. -/
theorem Sustained.run_twins (legal : request.Legal grants first) (call : request.isCall = true) :
    Matches (fun _ => Alike) (request.run first) (request.run second) := by
  have power := legal.power
  have plain : ∀ size, Matches (fun _ => Alike) (Heap.allocate size first)
      (Heap.allocate size second) := by
    intro size
    rw [Heap.allocate_eq]
    exact Heap.allocateAligned_twins sustained.kept otherSustained.kept alike sound
      isPowerOfTwo_headerAlignment
  cases request with
  | allocate size => exact plain size
  | allocateZeroed size =>
    show Matches _ (Heap.allocateZeroed size first) (Heap.allocateZeroed size second)
    unfold Heap.allocateZeroed
    refine (plain size).bind fun answer later otherLater both => ?_
    cases answer with
    | none => exact .ok both
    | some payload => exact .ok (both.memory _ _)
  | allocateAligned size alignment =>
    exact Heap.allocateAligned_twins sustained.kept otherSustained.kept alike sound power
  | resize given size => exact sustained.resize_twins otherSustained alike sound legal.given power
  | resizeAligned given size alignment =>
    exact sustained.resize_twins otherSustained alike sound legal.given power
  | release given =>
    cases given with
    | none => exact .ok alike
    | some payload =>
      obtain ⟨grant, member, rfl⟩ := legal.given payload rfl
      obtain ⟨after, otherAfter, ran, otherRan, alikeAfter⟩ :=
        (sustained.twins otherSustained alike member).release (sustained.live grant member)
          (otherSustained.live grant member) (stretch_subset_lentTo member)
      show Matches _ ((Heap.release (some grant.payload) >>= _) first)
        ((Heap.release (some grant.payload) >>= _) second)
      rw [bind_of_ok ran, bind_of_ok otherRan]
      exact .ok alikeAfter
  | store address value => cases call

/-- Both callers get to know the same. -/
theorem Sustained.serve_twins (legal : request.Legal grants first) (call : request.isCall = true) :
    request.reply second = request.reply first ∧
      (request.serve grants second).1 = (request.serve grants first).1 ∧
      Alike (request.serve grants first).2 (request.serve grants second).2 := by
  unfold Request.reply Request.serve
  rcases (sustained.run_twins otherSustained alike sound legal call).cases with
    ⟨answer, after, otherAfter, ran, otherRan, alikeAfter⟩ |
    ⟨fault, after, otherAfter, ran, otherRan, alikeAfter⟩ <;>
  · rw [ran, otherRan]
    exact ⟨rfl, rfl, alikeAfter⟩

omit sound

/-- Both heaps show the same. -/
theorem Sustained.shows_twins : second.heap.freeBlocks = first.heap.freeBlocks ∧
    second.heap.survey = first.heap.survey ∧
    ∀ grant ∈ grants, second.heap.memory.header (headerBelow grant.payload) =
      first.heap.memory.header (headerBelow grant.payload) := by
  have live : ∀ grant ∈ grants, second.heap.memory.header (headerBelow grant.payload) =
      first.heap.memory.header (headerBelow grant.payload) := fun grant member =>
    (otherSustained.live grant member).header_eq.trans (sustained.live grant member).header_eq.symm
  rcases alike.twins_or_idle sustained.kept otherSustained.kept with twins | ⟨idle, otherIdle, -⟩
  · obtain ⟨list, blocks, balanced, otherBalanced⟩ := twins.exists_balanced
    refine ⟨otherBalanced.freeBlocks_eq.trans balanced.freeBlocks_eq.symm, ?_, live⟩
    rw [Heap.survey, Heap.survey, balanced.free, otherBalanced.free]
    exact otherBalanced.holds.survey_eq.trans balanced.holds.survey_eq.symm
  · refine ⟨?_, ?_, live⟩
    · rw [Heap.freeBlocks, Heap.freeBlocks, idle.free, otherIdle.free]
    · rw [Heap.survey, Heap.survey, idle.free, otherIdle.free]

end Calls

/-! ### Uses -/

omit [Grower G E] in
theorem Alike.trans (one : Alike first second) (other : Alike second after) :
    Alike first after :=
  ⟨other.grower.trans one.grower, other.free.trans one.free, other.log.trans one.log⟩

omit [Grower G E] in
theorem Alike.refl (session : Session G E) : Alike session session :=
  ⟨rfl, rfl, rfl⟩

/-- Without a call, only memory changes. -/
theorem Uses.alike_of_nil (uses : Uses grants session [] grantsAfter after) :
    grantsAfter = grants ∧ Alike session after := by
  generalize none : ([] : List Exchange) = exchanges at uses
  induction uses with
  | done => exact ⟨rfl, .refl session⟩
  | call => cases none
  | store _ _ _ _ inductionHypothesis =>
    obtain ⟨same, alike⟩ := inductionHypothesis none
    exact ⟨same, alike.trans ⟨rfl, rfl, rfl⟩⟩
  | elsewhere _ _ inductionHypothesis =>
    obtain ⟨same, alike⟩ := inductionHypothesis none
    exact ⟨same, alike.trans ⟨rfl, rfl, rfl⟩⟩

/-- After the last call, only memory changes. -/
theorem Uses.exists_last (uses : Uses grants session (exchange :: exchanges) grantsAfter after) :
    ∃ grantsLater later, Uses grants session exchanges grantsLater later ∧
      exchange.answer = exchange.request.reply later ∧
      grantsAfter = (exchange.request.serve grantsLater later).1 ∧
      Alike (exchange.request.serve grantsLater later).2 after := by
  generalize row : exchange :: exchanges = all at uses
  induction uses with
  | done => cases row
  | call earlier request _ _ =>
    cases row
    exact ⟨_, _, earlier, rfl, rfl, .refl _⟩
  | store _ _ _ _ inductionHypothesis =>
    obtain ⟨grantsLater, later, earlier, answer, same, alike⟩ := inductionHypothesis row
    exact ⟨grantsLater, later, earlier, answer, same, alike.trans ⟨rfl, rfl, rfl⟩⟩
  | elsewhere _ _ inductionHypothesis =>
    obtain ⟨grantsLater, later, earlier, answer, same, alike⟩ := inductionHypothesis row
    exact ⟨grantsLater, later, earlier, answer, same, alike.trans ⟨rfl, rfl, rfl⟩⟩

/-- Two uses that make the same calls stay in step. -/
theorem Uses.in_step (sound : Grower.Sound fresh) {memory otherMemory : Memory}
    {otherExchanges : List Exchange} {otherGrants : List Grant}
    (uses : Uses [] { heap := { memory, grower := fresh } } exchanges grants first)
    (otherUses : Uses [] { heap := { memory := otherMemory, grower := fresh } } otherExchanges
      otherGrants second)
    (same : SameCalls exchanges otherExchanges) :
    otherExchanges = exchanges ∧ otherGrants = grants ∧ Alike first second := by
  induction uses generalizing otherExchanges otherGrants second with
  | done =>
    cases same
    obtain ⟨rfl, alike⟩ := otherUses.alike_of_nil
    exact ⟨rfl, rfl, alike.grower, alike.free, alike.log⟩
  | @call exchanges grantsLater later earlier request call legal inductionHypothesis =>
    cases same with
    | @cons _ other _ otherEarlier sameEarlier arguments payload =>
      obtain ⟨otherGrantsLater, otherLater, otherUsesEarlier, answer, rfl, alikeAfter⟩ :=
        otherUses.exists_last
      obtain ⟨rfl, rfl, alike⟩ := inductionHypothesis otherUsesEarlier sameEarlier
      obtain ⟨otherRequest, otherAnswer⟩ := other
      obtain rfl : otherRequest = request := Request.eq_of_handing arguments payload.eq
      replace answer : otherAnswer = otherRequest.reply otherLater := answer
      have sustained := ((Reached.start memory).uses earlier).sustained sound
      have otherSustained := ((Reached.start otherMemory).uses otherUsesEarlier).sustained sound
      obtain ⟨reply, served, alikeServed⟩ :=
        sustained.serve_twins otherSustained alike sound legal call
      rw [answer, reply]
      exact ⟨rfl, served, alikeServed.trans alikeAfter⟩
  | store _ _ _ _ inductionHypothesis =>
    obtain ⟨rfl, rfl, alike⟩ := inductionHypothesis otherUses same
    exact ⟨rfl, rfl, alike.grower, alike.free, alike.log⟩
  | elsewhere _ _ inductionHypothesis =>
    obtain ⟨rfl, rfl, alike⟩ := inductionHypothesis otherUses same
    exact ⟨rfl, rfl, alike.grower, alike.free, alike.log⟩

/-- Take two uses of heaps over the same sound grower. If they make the same calls, then whatever was
in memory at first and whatever was written to it that is not the heap's or to payloads, both
callers are answered with the same payloads, and both heaps have the same free list and
statistics, the same grower, the same headers of live blocks and the same log. -/
theorem contents_never_steer (sound : Grower.Sound fresh) {memory otherMemory : Memory}
    {otherExchanges : List Exchange} {otherGrants : List Grant}
    (uses : Uses [] { heap := { memory, grower := fresh } } exchanges grants first)
    (otherUses : Uses [] { heap := { memory := otherMemory, grower := fresh } } otherExchanges
      otherGrants second)
    (same : SameCalls exchanges otherExchanges) :
    otherExchanges = exchanges ∧ otherGrants = grants ∧
      second.heap.grower = first.heap.grower ∧ second.heap.free = first.heap.free ∧
      second.heap.freeBlocks = first.heap.freeBlocks ∧ second.heap.survey = first.heap.survey ∧
      second.log = first.log ∧
      ∀ grant ∈ grants, second.heap.memory.header (headerBelow grant.payload) =
        first.heap.memory.header (headerBelow grant.payload) := by
  obtain ⟨rfl, rfl, alike⟩ := uses.in_step sound otherUses same
  have sustained := ((Reached.start memory).uses uses).sustained sound
  have otherSustained := ((Reached.start otherMemory).uses otherUses).sustained sound
  obtain ⟨blocks, survey, live⟩ := sustained.shows_twins otherSustained alike
  exact ⟨rfl, rfl, alike.grower, alike.free, blocks, survey, alike.log, live⟩

/-- Two uses of small buffers, one of which held something else at first and has another payload
written to. -/
theorem contents_never_steer_smallBuffer :
    ∃ (memory otherMemory : Memory) (exchanges otherExchanges : List Exchange)
        (grants otherGrants : List Grant) (first second : Session FixedBuffer Exhausted),
      Uses [] { heap := { memory, grower := smallBuffer } } exchanges grants first ∧
        Uses [] { heap := { memory := otherMemory, grower := smallBuffer } } otherExchanges
          otherGrants second ∧
        exchanges.length = 2 ∧ otherExchanges = exchanges ∧
        second.heap.memory.byte 4135 ≠ first.heap.memory.byte 4135 ∧
        second.heap.freeBlocks = first.heap.freeBlocks ∧ second.log = first.log := by
  have granted : ∀ memory : Memory, Uses [] { heap := { memory, grower := smallBuffer } } _ _ _ :=
    fun memory => Uses.done.call (.allocate 40) rfl ⟨nofun, rfl, nofun⟩
  have otherGranted := granted (({} : Memory).setHeader 4112 ⟨1, 7⟩)
  have stored := otherGranted.store 4135 9 ⟨nofun, rfl, by
    rintro _ _ ⟨⟩
    exact ⟨⟨4128, 40, 16⟩, by decide +kernel, 48, by decide +kernel, by decide, by decide⟩⟩
  have freed := (granted {}).call (.release (some 4128)) rfl
    ⟨by rintro _ ⟨⟩; decide +kernel, rfl, nofun⟩
  have otherFreed := stored.call (.release (some 4128)) rfl
    ⟨by rintro _ ⟨⟩; decide +kernel, rfl, nofun⟩
  obtain ⟨exchanges, -, -, -, blocks, -, log, -⟩ :=
    contents_never_steer (FixedBuffer.sound smallBuffer_fresh) freed otherFreed
      (.cons (.cons .nil rfl (Or.inl ⟨rfl, rfl⟩)) rfl
        (Or.inr ⟨0, _, _, rfl, rfl, by decide +kernel, by decide +kernel⟩))
  exact ⟨_, _, _, _, _, _, _, _, freed, otherFreed, rfl, exchanges, by decide +kernel, blocks, log⟩

end NextFit
