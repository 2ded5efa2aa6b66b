/-
This file follows what a heap records of its blocks. An entry is an event that hands out,
frees or shrinks a block. Making room and putting units back enters nothing, a request enters
the block that it hands out, and a call that stops at a fault of the grower has entered
nothing at all.
-/

import NextFit.Proofs.Heap.Resize

namespace NextFit

/-! ### Entries -/

/-- Whether an event tells what has become of a block. -/
def Event.isEntry {E : Type} : Event E → Bool
  | allocated .. | freeing .. | shrank .. => true
  | _ => false

/-- The entries of a log, the first one first. -/
def auditTrail {E : Type} (log : List (Event E)) : List (Event E) :=
  log.filter Event.isEntry

theorem auditTrail_append {E : Type} (log events : List (Event E)) :
    auditTrail (log ++ events) = auditTrail log ++ auditTrail events :=
  List.filter_append _ _

theorem auditTrail_of_entry {E : Type} {event : Event E} (entry : event.isEntry = true) :
    auditTrail [event] = [event] :=
  List.filter_cons_of_pos entry

theorem auditTrail_of_other {E : Type} {event : Event E} (other : event.isEntry = false) :
    auditTrail [event] = [] :=
  List.filter_cons_of_neg (Bool.eq_false_iff.mp other)

variable {G E α β : Type}

/-- The work enters some events if it ends with a value, and nothing if it stops at a fault. -/
def Enters (work : Action G E α) (entries : α → List (Event E)) : Prop :=
  ∀ session, Ends (work session)
    (fun value after => auditTrail after.log = auditTrail session.log ++ entries value)
    (fun _ after => auditTrail after.log = auditTrail session.log)

namespace Enters

variable {work : Action G E α} {rest : α → Action G E β} {entries : β → List (Event E)}

theorem of_log (same : ∀ session, Ends (work session) (fun _ after => after.log = session.log)
    (fun _ after => after.log = session.log)) : Enters work fun _ => [] := fun session =>
  (same session).mono
    (fun _ _ log => (congrArg auditTrail log).trans (List.append_nil _).symm)
    fun _ _ log => congrArg auditTrail log

theorem pure {value : α} {entries : α → List (Event E)} (nothing : entries value = []) :
    Enters (Pure.pure value : Action G E α) entries := fun session => by
  show auditTrail session.log = auditTrail session.log ++ entries value
  rw [nothing, List.append_nil]

theorem throw (fault : Fault) (entries : α → List (Event E)) :
    Enters (MonadExcept.throw fault : Action G E α) entries := fun _ => rfl

theorem get : Enters (MonadState.get : Action G E (Session G E)) fun _ => [] :=
  of_log fun _ => rfl

theorem setFree (list : FreeList) : Enters (Action.setFree list : Action G E Unit) fun _ => [] :=
  of_log fun _ => rfl

theorem onMemory (work : Surgery α) : Enters (Action.onMemory work : Action G E α) fun _ => [] := by
  refine of_log fun session => ?_
  unfold Action.onMemory
  cases work session.heap.memory <;> rfl

theorem onGrower (work : EStateM Fault G α) :
    Enters (Action.onGrower work : Action G E α) fun _ => [] := by
  refine of_log fun session => ?_
  unfold Action.onGrower
  cases work session.heap.grower <;> rfl

theorem record {event : Event E} (other : event.isEntry = false) :
    Enters (Action.record event : Action G E Unit) fun _ => [] := fun session => by
  show auditTrail (session.log ++ [event]) = auditTrail session.log ++ []
  rw [auditTrail_append, auditTrail_of_other other]

/-- An entry is made at the end. -/
theorem entered {event : Event E} {value : β} (entry : event.isEntry = true)
    (last : entries value = [event]) :
    Enters (do Action.record event; return value : Action G E β) entries := fun session => by
  show auditTrail (session.log ++ [event]) = auditTrail session.log ++ entries value
  rw [auditTrail_append, auditTrail_of_entry entry, last]

/-- Work in two parts, the first of which enters nothing, enters what its second part does. -/
theorem bind (first : Enters work fun _ => []) (second : ∀ value, Enters (rest value) entries) :
    Enters (work >>= rest) entries := fun session => by
  refine (first session).bind fun value middle same => ?_
  have ends := second value middle
  rw [same, List.append_nil] at ends
  exact ends

theorem of_ok {session after : Session G E} {value : α} {entries : α → List (Event E)}
    (enters : Enters work entries) (done : work session = .ok value after) :
    auditTrail after.log = auditTrail session.log ++ entries value := by
  have ends := enters session
  rw [done] at ends
  exact ends

theorem ofExcept_bind {answer : Except Fault α}
    (second : ∀ value, answer = .ok value → Enters (rest value) entries) :
    Enters (ofExcept answer >>= rest) entries := fun session => by
  cases answer with
  | ok value => exact second value rfl session
  | error fault => exact (rfl : auditTrail session.log = auditTrail session.log)

end Enters

/-! ### Steps -/

namespace Action

theorem takeFree_enters (units : Word) :
    Enters (takeFree units : Action G E (Option Address)) fun _ => [] := by
  unfold takeFree
  refine .bind .get fun session => ?_
  cases session.heap.free with
  | none => exact .pure rfl
  | some list =>
    exact .bind (.onMemory _) fun found => .bind (.setFree _) fun _ => .pure rfl

theorem addFree_enters (start : Address) (units : Word) :
    Enters (addFree start units : Action G E Unit) fun _ => [] := by
  unfold addFree
  refine .bind .get fun session => ?_
  cases session.heap.free with
  | none => exact .pure rfl
  | some list => exact .bind (.onMemory _) fun list => .setFree list

theorem addSpare_enters (start : Address) (units : Word) :
    Enters (addSpare start units : Action G E Unit) fun _ => [] := by
  unfold addSpare
  split
  · exact addFree_enters start units
  · exact .pure rfl

variable [Grower G E]

theorem growBy_enters (units : Word) :
    Enters (growBy units : Action G E (Option Region)) fun _ => [] := by
  unfold growBy
  refine .bind (.onGrower _) fun answer => ?_
  cases answer with
  | error error => exact .bind (.record rfl) fun _ => .pure rfl
  | ok region =>
    refine .bind (.record rfl) fun _ => ?_
    split
    · exact .throw _ _
    · exact .pure rfl

theorem start_enters : Enters (start : Action G E (Option FreeList)) fun _ => [] := by
  unfold start
  refine .bind (growBy_enters 1) fun granted => ?_
  cases granted with
  | none => exact .pure rfl
  | some region =>
    refine .bind (.onMemory _) fun list => ?_
    split
    · exact .bind (.onMemory _) fun list => .pure rfl
    · exact .pure rfl

theorem ready_enters : Enters (ready : Action G E Bool) fun _ => [] := by
  unfold ready
  refine .bind .get fun session => ?_
  cases session.heap.free with
  | some list => exact .pure rfl
  | none =>
    refine .bind start_enters fun started => ?_
    cases started with
    | none => exact .pure rfl
    | some list => exact .bind (.setFree list) fun _ => .pure rfl

theorem takeOrGrow_enters (units : Word) (fuel : Nat) :
    Enters (takeOrGrow units fuel : Action G E (Option Address)) fun _ => [] := by
  induction fuel with
  | zero => exact .throw _ _
  | succ fuel inductionHypothesis =>
    unfold takeOrGrow
    refine .bind (takeFree_enters units) fun found => ?_
    cases found with
    | some header => exact .pure rfl
    | none =>
      refine .bind (growBy_enters units) fun granted => ?_
      cases granted with
      | none => exact .pure rfl
      | some region => exact .bind (addFree_enters _ _) fun _ => inductionHypothesis

/-- However often the heap is grown for it, obtaining a block enters nothing. -/
theorem obtain_enters (units : Word) :
    Enters (Action.obtain units : Action G E (Option Address)) fun _ => [] := by
  unfold Action.obtain
  refine .bind ready_enters fun isReady => ?_
  split
  · exact takeOrGrow_enters units mostGrowths
  · exact .pure rfl

end Action

/-! ### Requests -/

/-- The entry of a request that was answered: the block that was handed out, if there is one. -/
def handedOut (size alignment : Word) (answer : Option Address) : List (Event E) :=
  answer.toList.map fun payload =>
    .allocated size (unitsFor size) payload
      (if alignment ≤ headerAlignment then none else some alignment)

namespace Heap

theorem carve_enters (header : Address) (total wanted : Word) (alignment : Alignment) :
    Enters (carve header total wanted alignment : Action G E Address) fun _ => [] := by
  unfold carve
  refine .ofExcept_bind fun padding _ => ?_
  dsimp only
  refine .ofExcept_bind fun trail _ => ?_
  exact .bind (.onMemory _) fun _ => .bind (Action.addSpare_enters _ _) fun _ =>
    .bind (Action.addSpare_enters _ _) fun _ => .pure rfl

variable [Grower G E] {size alignment : Word}

theorem allocate_enters (size : Word) :
    Enters (allocate size : Action G E (Option Address)) (handedOut size headerAlignment) := by
  unfold allocate
  split
  · exact .bind (.record rfl) fun _ => .pure rfl
  refine .ofExcept_bind fun units needed => ?_
  cases units with
  | none => exact .bind (.record rfl) fun _ => .pure rfl
  | some units =>
    obtain ⟨-, rfl⟩ := fits_of_blockUnits needed
    refine .bind (Action.obtain_enters _) fun found => ?_
    cases found with
    | none => exact .pure rfl
    | some header => exact .bind (.onMemory _) fun _ => .entered rfl rfl

/-- A request enters the block that it hands out. -/
theorem allocateAligned_enters (size alignment : Word) :
    Enters (allocateAligned size alignment : Action G E (Option Address))
      (handedOut size alignment) := by
  unfold allocateAligned
  refine .ofExcept_bind fun power isPower => ?_
  obtain rfl := Alignment.value_of_ofWord isPower
  by_cases small : power.value ≤ headerAlignment
  · have plain : (handedOut size power.value : Option Address → List (Event E)) =
        handedOut size headerAlignment := by
      funext answer
      rw [handedOut, handedOut, if_pos small, if_pos (UInt64.le_refl _)]
    rw [if_pos small, plain]
    exact allocate_enters size
  rw [if_neg small]
  split
  · exact .bind (.record rfl) fun _ => .pure rfl
  refine .ofExcept_bind fun needed computed => ?_
  rw [alignedUnits_eq_demand small] at computed
  cases demanded : demand size power.value with
  | none =>
    rw [demanded] at computed
    cases computed
    exact .bind (.record rfl) fun _ => .pure rfl
  | some total =>
    rw [demanded] at computed
    cases computed
    refine .bind (Action.obtain_enters total) fun found => ?_
    cases found with
    | none => exact .pure rfl
    | some header =>
      refine .bind (carve_enters header total _ power) fun carved => .entered rfl ?_
      rw [handedOut, if_neg small]
      rfl

/-- Setting the bytes to zero enters nothing more. -/
theorem allocateZeroed_enters (size : Word) :
    Enters (allocateZeroed size : Action G E (Option Address))
      (handedOut size headerAlignment) := by
  intro session
  refine (allocate_enters size session).bind fun answer middle same => ?_
  cases answer <;> exact same

end Heap

/-! ### Freed and shrunk blocks -/

variable {session after : Session G E} {list : FreeList} {payload header : Address}

/-- A call that freed a block has entered it with the units that its header told of. -/
theorem Heap.release_auditTrail (free : session.heap.free = some list)
    (tagged : (session.heap.memory.header (headerBelow payload)).isTagged = true)
    (released : Heap.release (some payload) session = .ok () after) :
    auditTrail after.log = auditTrail session.log ++
      [.freeing payload (session.heap.memory.size (headerBelow payload))] := by
  have inserts : Enters (do
      Action.setFree (← Action.onMemory (list.insert (headerBelow payload))) : Action G E Unit)
      fun _ => [] := .bind (.onMemory _) fun list => .setFree list
  rw [release_eq free tagged, bind_of_ok (rfl : Action.record _ session = .ok () _)] at released
  have same : auditTrail after.log = auditTrail (session.log ++ [.freeing payload _]) ++ [] :=
    inserts.of_ok released
  rw [same, List.append_nil, auditTrail_append, auditTrail_of_entry rfl]
  rfl

/-- A call that cut a block down has entered it, unless the block kept all its units. -/
theorem Heap.shrink_auditTrail {units surplus : Word} (free : session.heap.free = some list)
    (difference : minus (session.heap.memory.header header).size units = .ok surplus)
    (shrunk : Heap.shrink header units session = .ok () after) :
    auditTrail after.log = auditTrail session.log ++
      if surplus ≠ 0 then [.shrank header units] else [] := by
  rw [shrink_eq free difference] at shrunk
  split at shrunk
  · next more =>
    have cuts : Enters (do
        Action.writeHeader header (.tagged units)
        Action.addFree (Address.above header units) surplus
        Action.record (.shrank header units) : Action G E Unit)
        fun _ => [.shrank header units] :=
      .bind (.onMemory _) fun _ => .bind (Action.addFree_enters _ _) fun _ => .entered rfl rfl
    rw [if_pos more]
    exact cuts.of_ok shrunk
  · next none =>
    cases shrunk
    rw [if_neg none, List.append_nil]

end NextFit
