import SyrFilter.Serial.Port

namespace SyrFilter.Serial

/-! # What reaches the receiving thread

Characters are never repeated and never change their order.  They are lost only
by an interrupt that finds more than the fifo has room for, and then the oldest
ones are.
-/

open Lib

namespace Port

variable {bufsz : Nat} {port : Port} {events rest : List PortEvent}

/-- The characters that the interrupts of a run have found. -/
def arrived (events : List PortEvent) : List UInt8 :=
  events.flatMap fun event =>
    match event with
    | .interrupt received => received
    | .thread => []

/-- The fifo has room for what an interrupt finds. -/
def Fits (bufsz : Nat) (port : Port) : PortEvent → Prop
  | .interrupt received => (port.waiting bufsz).length + received.length < bufsz
  | .thread => True

instance (event : PortEvent) : Decidable (port.Fits bufsz event) := by
  cases event with
  | interrupt received => exact inferInstanceAs (Decidable (_ < _))
  | thread => exact inferInstanceAs (Decidable True)

/-- How many characters an event makes the fifo drop. -/
def overrun (bufsz : Nat) (port : Port) : PortEvent → Nat
  | .interrupt received => (port.waiting bufsz).length + received.length - (bufsz - 1)
  | .thread => 0

/-- How many characters the events of a run have made the fifo drop. -/
def overruns (bufsz : Nat) : Port → List PortEvent → Nat
  | _, [] => 0
  | port, event :: rest => port.overrun bufsz event + overruns bufsz (port.step bufsz event).1 rest

theorem arrived_cons (event : PortEvent) : arrived (event :: rest) = arrived [event] ++ arrived rest := by
  cases event <;> simp [arrived]

theorem overrun_eq_zero_iff (two : 2 ≤ bufsz) (event : PortEvent) :
    port.overrun bufsz event = 0 ↔ port.Fits bufsz event := by
  cases event with
  | interrupt received =>
      rw [overrun, Fits]
      omega
  | thread => exact iff_of_true rfl trivial

theorem overruns_eq_zero_iff (two : 2 ≤ bufsz) :
    overruns bufsz port events = 0 ↔ EachStep (fun port event => (port.step bufsz event).1) (Fits bufsz) port events := by
  induction events generalizing port with
  | nil => exact iff_of_true rfl eachStep_nil
  | cons event rest ih =>
      rw [overruns, Nat.add_eq_zero_iff, eachStep_cons, overrun_eq_zero_iff two, ih]

/-- One event: all that waits or arrives is handed on, waits, or is dropped from the front. -/
theorem step_waiting (two : 2 ≤ bufsz) (wellFormed : port.WellFormed bufsz) (event : PortEvent) :
    (port.step bufsz event).2 ++ (port.step bufsz event).1.waiting bufsz =
      (port.waiting bufsz ++ arrived [event]).drop (port.overrun bufsz event) := by
  cases event with
  | interrupt received =>
      have filled := waiting_hwSerialIsr received two wellFormed
      simpa [step, arrived, overrun] using filled
  | thread =>
      have same := (stepped wellFormed).waiting wellFormed
      simpa [step, arrived, overrun] using same.symm

theorem run_sublist (two : 2 ≤ bufsz) (wellFormed : port.WellFormed bufsz) :
    (emits (step bufsz) port events ++ (after (step bufsz) port events).waiting bufsz).Sublist
      (port.waiting bufsz ++ arrived events) := by
  induction events generalizing port with
  | nil => simp [arrived]
  | cons event rest ih =>
      have later := ih (step_wellFormed two wellFormed event)
      have now : ((port.step bufsz event).2 ++ (port.step bufsz event).1.waiting bufsz).Sublist
          (port.waiting bufsz ++ arrived [event]) := by
        rw [step_waiting two wellFormed event]
        exact List.drop_sublist _ _
      rw [emits_cons, after_cons, List.append_assoc, arrived_cons, ← List.append_assoc (port.waiting bufsz)]
      refine ((List.Sublist.refl _).append later).trans ?_
      rw [← List.append_assoc]
      exact now.append (List.Sublist.refl _)

theorem run_suffix (two : 2 ≤ bufsz) (wellFormed : port.WellFormed bufsz) :
    (after (step bufsz) port events).waiting bufsz <:+ port.waiting bufsz ++ arrived events := by
  induction events generalizing port with
  | nil => simp [arrived]
  | cons event rest ih =>
      have later := ih (step_wellFormed two wellFormed event)
      have now : (port.step bufsz event).1.waiting bufsz <:+ port.waiting bufsz ++ arrived [event] := by
        have kept := List.drop_suffix (port.overrun bufsz event) (port.waiting bufsz ++ arrived [event])
        rw [← step_waiting two wellFormed event] at kept
        exact (List.suffix_append _ _).trans kept
      obtain ⟨lost, split⟩ := now
      rw [after_cons, arrived_cons, ← List.append_assoc, ← split, List.append_assoc]
      exact later.trans (List.suffix_append _ _)

theorem run_length (two : 2 ≤ bufsz) (wellFormed : port.WellFormed bufsz) :
    (emits (step bufsz) port events).length + ((after (step bufsz) port events).waiting bufsz).length +
        overruns bufsz port events = (port.waiting bufsz).length + (arrived events).length := by
  induction events generalizing port with
  | nil => simp [arrived, overruns]
  | cons event rest ih =>
      have later := ih (step_wellFormed two wellFormed event)
      have now := congrArg List.length (step_waiting two wellFormed event)
      have within : port.overrun bufsz event ≤ (port.waiting bufsz ++ arrived [event]).length := by
        rw [List.length_append]
        cases event with
        | interrupt received => simp [overrun, arrived]
        | thread => exact Nat.zero_le _
      rw [List.length_drop] at now
      rw [emits_cons, after_cons, overruns, arrived_cons]
      simp only [List.length_append] at now within later ⊢
      omega

/-- In every interleaving, what the thread has been handed and what waits are
the characters that came, in order and each at most once; what waits are the
newest of them; the rest are the overruns, and there are none exactly when
every interrupt found room. -/
theorem handed_in_order (device : Device) (cells : Nat → UInt8) (early : List UInt8) (events : List PortEvent) :
    let port := opened device.bufsz cells early
    let handed := emits (step device.bufsz) port events
    let left := (after (step device.bufsz) port events).waiting device.bufsz
    let came := port.waiting device.bufsz ++ arrived events
    (handed ++ left).Sublist came ∧ left <:+ came ∧
      handed.length + left.length + overruns device.bufsz port events = came.length ∧
      (handed ++ left = came ↔
        EachStep (fun port event => (port.step device.bufsz event).1) (Fits device.bufsz) port events) := by
  intro port handed left came
  have two := device.two_le_bufsz
  have wellFormed : port.WellFormed device.bufsz := opened_wellFormed cells early two
  have ordered : (handed ++ left).Sublist came := run_sublist two wellFormed
  have counted : handed.length + left.length + overruns device.bufsz port events = came.length :=
    (run_length two wellFormed).trans List.length_append.symm
  refine ⟨ordered, run_suffix two wellFormed, counted, ?_⟩
  rw [← overruns_eq_zero_iff two]
  constructor
  · intro all
    have same := congrArg List.length all
    rw [List.length_append] at same
    omega
  · intro none
    apply ordered.eq_of_length
    rw [List.length_append]
    omega

end Port

end SyrFilter.Serial
