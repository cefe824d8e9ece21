import SyrFilter.Lib.Runs

namespace SyrFilter.Lib

/-! # Machines that can stop

An event may come to a call that never returns.  `step` says what an event does
that is carried through, `stops` what state it leaves when it is not; a machine
that has stopped stays as it is.
-/

structure Halting (σ : Type*) where
  state : σ
  halted : Bool

namespace Halting

variable {σ ε : Type*} {step : σ → ε → σ} {stops : σ → ε → Option σ} {machine : Halting σ} {state last : σ}
  {event : ε}

def next (step : σ → ε → σ) (stops : σ → ε → Option σ) (machine : Halting σ) (event : ε) : Halting σ :=
  if machine.halted then machine
  else
    match stops machine.state event with
    | some last => { state := last, halted := true }
    | none => { state := step machine.state event, halted := false }

def start (state : σ) : Halting σ := { state, halted := false }

theorem next_of_halted (halted : machine.halted = true) : machine.next step stops event = machine := if_pos halted

theorem next_stops (stopped : stops state event = some last) :
    (start state).next step stops event = { state := last, halted := true } := by
  simp [next, start, stopped]

theorem next_goes (goes : stops state event = none) :
    (start state).next step stops event = start (step state event) := by
  simp [next, start, goes]

theorem next_cases (step : σ → ε → σ) (stops : σ → ε → Option σ) (machine : Halting σ) (event : ε) :
    machine.halted = true ∧ machine.next step stops event = machine ∨
      machine.halted = false ∧ stops machine.state event = none ∧
          machine.next step stops event = start (step machine.state event) ∨
        ∃ last, machine.halted = false ∧ stops machine.state event = some last ∧
          machine.next step stops event = { state := last, halted := true } := by
  rcases machine with ⟨state, halted⟩
  cases halted with
  | true => exact .inl ⟨rfl, next_of_halted rfl⟩
  | false =>
      cases stopped : stops state event with
      | none => exact .inr (.inl ⟨rfl, rfl, next_goes stopped⟩)
      | some last => exact .inr (.inr ⟨last, rfl, rfl, next_stops stopped⟩)

end Halting

end SyrFilter.Lib
