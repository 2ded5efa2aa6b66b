/-
This file says how work that may stop at a fault goes on, step after step. A step that
succeeds hands its value to the rest of the work, and a fault ends it. What the whole work
does is described by what is left when it ends, with a value or at a fault.
-/

import NextFit.Fault

namespace NextFit

variable {ε σ α β : Type}

theorem bind_of_ok {work : EStateM ε σ α} {rest : α → EStateM ε σ β} {state later : σ} {value : α}
    (done : work state = .ok value later) : (work >>= rest) state = rest value later := by
  show EStateM.bind work rest state = rest value later
  rw [EStateM.bind, done]

theorem bind_of_error {work : EStateM ε σ α} {rest : α → EStateM ε σ β} {state later : σ}
    {fault : ε} (stopped : work state = .error fault later) :
    (work >>= rest) state = .error fault later := by
  show EStateM.bind work rest state = .error fault later
  rw [EStateM.bind, stopped]

theorem get_bind {rest : σ → EStateM ε σ β} (state : σ) :
    ((get : EStateM ε σ σ) >>= rest) state = rest state state := rfl

theorem ofExcept_bind {answer : Except ε α} {value : α} {rest : α → EStateM ε σ β} {state : σ}
    (here : answer = .ok value) : ((ofExcept answer : EStateM ε σ α) >>= rest) state =
      rest value state := by
  rw [here]
  rfl

theorem ofExcept_bind_of_error {answer : Except ε α} {fault : ε} {rest : α → EStateM ε σ β}
    {state : σ} (here : answer = .error fault) :
    ((ofExcept answer : EStateM ε σ α) >>= rest) state = .error fault state := by
  rw [here]
  rfl

/-- The work has ended with a value and in a state as described or, if it stopped at a fault, with
a fault and in a state as described. -/
def Ends (result : EStateM.Result ε σ α) (normal : α → σ → Prop) (faulty : ε → σ → Prop) : Prop :=
  match result with
  | .ok value state => normal value state
  | .error fault state => faulty fault state

namespace Ends

variable {normal weaker : α → σ → Prop} {faulty weakerFaulty : ε → σ → Prop}
  {result : EStateM.Result ε σ α} {state : σ}

theorem of_ok {value : α} (done : result = .ok value state) (here : normal value state) :
    Ends result normal faulty := by
  rw [done]
  exact here

theorem mono (ends : Ends result normal faulty)
    (normalMono : ∀ value later, normal value later → weaker value later)
    (faultyMono : ∀ fault later, faulty fault later → weakerFaulty fault later) :
    Ends result weaker weakerFaulty := by
  cases result with
  | ok value later => exact normalMono value later ends
  | error fault later => exact faultyMono fault later ends

/-- Work in two parts ends as its second part does, or at a fault in the first. -/
theorem bind {work : EStateM ε σ α} {rest : α → EStateM ε σ β} {middle : α → σ → Prop}
    {normal : β → σ → Prop} (first : Ends (work state) middle faulty)
    (second : ∀ value later, middle value later → Ends (rest value later) normal faulty) :
    Ends ((work >>= rest) state) normal faulty := by
  cases done : work state with
  | ok value later =>
    rw [done] at first
    rw [bind_of_ok done]
    exact second value later first
  | error fault later =>
    rw [done] at first
    rw [bind_of_error done]
    exact first

end Ends

end NextFit
