import SyrFilter.Serial.Port

namespace SyrFilter.Serial

/-! # The thread that sleeps on characters

An interrupt between the read that finds nothing and the reset of the semaphore
is forgotten by the reset: the thread goes to sleep on what it brought, until
the next interrupt.  No other interrupt is.
-/

open Lib

namespace Port

variable {bufsz : Nat} {port : Port} {received : List UInt8} {events : List PortEvent}

/-- The thread sleeps although there is something to read. -/
def Stalled (bufsz : Nat) (port : Port) : Prop := port.rxSem.suspended = true ∧ port.waiting bufsz ≠ []

instance : Decidable (port.Stalled bufsz) := inferInstanceAs (Decidable (_ ∧ _))

/-- An interrupt before the reset, not yet forgotten. -/
def Overlooked (bufsz : Nat) (port : Port) : Prop := port.phase = .reset ∧ port.waiting bufsz ≠ []

/-- The same interrupt after the reset. -/
def Forgotten (bufsz : Nat) (port : Port) : Prop :=
  port.phase = .take ∧ port.rxSem.value = 0 ∧ port.waiting bufsz ≠ []

/-- The last interrupt of a run that brought the thread something came while it
was about to reset, and it has gone on for `steps` since. -/
def Missed (bufsz : Nat) (start : Port) (events : List PortEvent) (steps : Nat) : Prop :=
  ∃ before received, events = before ++ .interrupt received :: List.replicate steps .thread ∧
    (after (step bufsz) start before).phase = .reset ∧
    ((after (step bufsz) start before).hwSerialIsr bufsz received).waiting bufsz ≠ []

theorem WellFormed.running (wellFormed : port.WellFormed bufsz) (phase : port.phase ≠ .read) :
    port.rxSem.suspended = false := by
  cases asleep : port.rxSem.suspended with
  | false => rfl
  | true => exact absurd (wellFormed.suspended asleep).1 phase

theorem released_of_interrupt (some : (port.hwSerialIsr bufsz received).waiting bufsz ≠ []) :
    (port.hwSerialIsr bufsz received).rxSem.suspended = false ∧
      (port.rxSem.suspended = false → 0 < (port.hwSerialIsr bufsz received).rxSem.value) := by
  rw [rxSem_hwSerialIsr, if_neg some]
  refine ⟨suspended_release port.rxSem, fun running => ?_⟩
  rw [Semaphore.release, running, if_neg Bool.false_ne_true]
  split
  · exact Nat.succ_pos _
  · rename_i full
    rw [Semaphore.valueMax] at full
    omega

/-! ## From the interrupt to the sleep -/

theorem Overlooked.forgotten (wellFormed : port.WellFormed bufsz) (overlooked : port.Overlooked bufsz) :
    (port.step bufsz .thread).1.Forgotten bufsz := by
  obtain ⟨phase, some⟩ := overlooked
  have awake := wellFormed.running (by simp [phase])
  rw [step, sampleGetChar, awake, if_neg Bool.false_ne_true, phase]
  exact ⟨rfl, rfl, some⟩

theorem Forgotten.stalled (wellFormed : port.WellFormed bufsz) (forgotten : port.Forgotten bufsz) :
    (port.step bufsz .thread).1.Stalled bufsz := by
  obtain ⟨phase, unreleased, some⟩ := forgotten
  have awake := wellFormed.running (by simp [phase])
  rw [step, sampleGetChar, awake, if_neg Bool.false_ne_true, phase]
  dsimp only
  rw [Semaphore.take, unreleased, if_neg (Nat.lt_irrefl 0)]
  exact ⟨rfl, some⟩

theorem Stalled.thread (stalled : port.Stalled bufsz) : port.step bufsz .thread = (port, []) := by
  rw [step, sampleGetChar, if_pos stalled.1]

theorem Stalled.lasts (stalled : port.Stalled bufsz) (count : Nat) :
    after (step bufsz) port (List.replicate count .thread) = port ∧
      emits (step bufsz) port (List.replicate count .thread) = [] := by
  induction count with
  | zero => exact ⟨rfl, rfl⟩
  | succ count ih =>
      rw [List.replicate_succ, after_cons, emits_cons, stalled.thread]
      exact ih

/-- Two steps after an overlooked interrupt the thread sleeps, and goes on sleeping. -/
theorem Overlooked.sleeps (two : 2 ≤ bufsz) (wellFormed : port.WellFormed bufsz) (overlooked : port.Overlooked bufsz)
    (more : Nat) :
    (after (step bufsz) port (List.replicate (more + 2) .thread)).Stalled bufsz ∧
      emits (step bufsz) port (List.replicate (more + 2) .thread) = [] := by
  have forgotten := overlooked.forgotten wellFormed
  have stalled := forgotten.stalled (step_wellFormed two wellFormed .thread)
  obtain ⟨stays, silent⟩ := stalled.lasts more
  rw [List.replicate_succ, List.replicate_succ, after_cons, after_cons, emits_cons, emits_cons, stays, silent]
  refine ⟨stalled, ?_⟩
  have resets : (port.step bufsz .thread).2 = [] := by
    rw [step, sampleGetChar, wellFormed.running (by simp [overlooked.1]), if_neg Bool.false_ne_true, overlooked.1]
  have takes : ((port.step bufsz .thread).1.step bufsz .thread).2 = [] := by
    have awake := (step_wellFormed two wellFormed .thread).running (by simp [forgotten.1])
    rw [step, sampleGetChar, awake, if_neg Bool.false_ne_true, forgotten.1]
  rw [resets, takes]
  rfl

theorem missed_concat {start : Port} {steps : Nat} :
    Missed bufsz start (events ++ [.thread]) (steps + 1) ↔ Missed bufsz start events steps := by
  constructor
  · rintro ⟨before, received, split, phase, some⟩
    rw [List.replicate_succ', ← List.cons_append, ← List.append_assoc] at split
    exact ⟨before, received, List.append_cancel_right split, phase, some⟩
  · rintro ⟨before, received, rfl, phase, some⟩
    refine ⟨before, received, ?_, phase, some⟩
    rw [List.replicate_succ', List.append_assoc, List.cons_append]

/-! ## From the sleep back to the interrupt -/

theorem missed_of_interrupt {start : Port} (received : List UInt8) (wellFormed : (after (step bufsz) start events).WellFormed bufsz) :
    let port := after (step bufsz) start (events ++ [.interrupt received])
    (port.Overlooked bufsz → Missed bufsz start (events ++ [.interrupt received]) 0) ∧ ¬port.Forgotten bufsz ∧
      ¬port.Stalled bufsz := by
  rw [after_concat]
  refine ⟨?_, ?_, ?_⟩
  · rintro ⟨phase, some⟩
    exact ⟨events, received, rfl, phase_hwSerialIsr.symm.trans phase, some⟩
  · rintro ⟨phase, unreleased, some⟩
    rw [step, phase_hwSerialIsr] at phase
    have running := wellFormed.running (by simp [phase])
    have released := (released_of_interrupt some).2 running
    exact absurd unreleased (Nat.ne_of_gt released)
  · rintro ⟨suspended, some⟩
    have awake := (released_of_interrupt some).1
    rw [step, awake] at suspended
    cases suspended

theorem not_overlooked_of_stepped {result : Port × List UInt8} (wellFormed : port.WellFormed bufsz)
    (stepped : Stepped bufsz port result) : ¬result.1.Overlooked bufsz := by
  rintro ⟨resets, some⟩
  cases stepped with
  | asleep suspended =>
      rw [(wellFormed.suspended suspended).1] at resets
      cases resets
  | returns running phase taken => cases phase.symm.trans resets
  | empty running phase none => exact some none
  | resets running phase => cases resets
  | takes running phase released => cases resets
  | sleeps running phase unreleased => cases resets

theorem overlooked_of_forgotten {result : Port × List UInt8} (wellFormed : port.WellFormed bufsz)
    (stepped : Stepped bufsz port result) (forgotten : result.1.Forgotten bufsz) : port.Overlooked bufsz := by
  obtain ⟨takes, unreleased, some⟩ := forgotten
  cases stepped with
  | asleep suspended =>
      rw [(wellFormed.suspended suspended).1] at takes
      cases takes
  | returns running phase taken => cases phase.symm.trans takes
  | empty running phase none => cases takes
  | resets running phase => exact ⟨phase, some⟩
  | takes running phase released => cases takes
  | sleeps running phase unreleased => cases takes

theorem forgotten_of_stalled {result : Port × List UInt8} (stepped : Stepped bufsz port result)
    (stalled : result.1.Stalled bufsz) : port.Stalled bufsz ∨ port.Forgotten bufsz := by
  obtain ⟨suspends, some⟩ := stalled
  cases stepped with
  | asleep suspended => exact .inl ⟨suspended, some⟩
  | returns running phase taken => cases running.symm.trans suspends
  | empty running phase none => cases running.symm.trans suspends
  | resets running phase => cases suspends
  | takes running phase released => cases running.symm.trans suspends
  | sleeps running phase unreleased => exact .inr ⟨phase, unreleased, some⟩

theorem missed_of_run (two : 2 ≤ bufsz) (cells : Nat → UInt8) (early : List UInt8) :
    let start := opened bufsz cells early
    let port := after (step bufsz) start events
    (port.Overlooked bufsz → Missed bufsz start events 0) ∧ (port.Forgotten bufsz → Missed bufsz start events 1) ∧
      (port.Stalled bufsz → ∃ more, Missed bufsz start events (more + 2)) := by
  intro start port
  induction events using List.reverseRecOn with
  | nil =>
      refine ⟨?_, ?_, ?_⟩
      · rintro ⟨phase, -⟩
        cases phase
      · rintro ⟨phase, -⟩
        cases phase
      · rintro ⟨suspended, -⟩
        cases suspended
  | append_singleton events event ih =>
      have wellFormed : (after (step bufsz) start events).WellFormed bufsz := after_wellFormed cells early two
      cases event with
      | interrupt received =>
          obtain ⟨overlooked, notForgotten, notStalled⟩ := missed_of_interrupt received wellFormed
          exact ⟨overlooked, fun forgotten => absurd forgotten notForgotten, fun stalled => absurd stalled notStalled⟩
      | thread =>
          have steps : Stepped bufsz (after (step bufsz) start events)
              ((after (step bufsz) start events).sampleGetChar bufsz) := stepped wellFormed
          have leads : port = ((after (step bufsz) start events).sampleGetChar bufsz).1 := after_concat
          rw [leads]
          refine ⟨fun overlooked => absurd overlooked (not_overlooked_of_stepped wellFormed steps), ?_, ?_⟩
          · intro forgotten
            have overlooked := overlooked_of_forgotten wellFormed steps forgotten
            exact missed_concat.mpr (ih.1 overlooked)
          · intro stalled
            rcases forgotten_of_stalled steps stalled with asleep | forgotten
            · obtain ⟨more, missed⟩ := ih.2.2 asleep
              exact ⟨more + 1, missed_concat.mpr missed⟩
            · exact ⟨0, missed_concat.mpr (ih.2.1 forgotten)⟩

/-- The thread sleeps on characters exactly when the last interrupt that
brought some came between a read that found nothing and the reset after it. -/
theorem stalled_iff (device : Device) (cells : Nat → UInt8) (early : List UInt8) (events : List PortEvent) :
    let start := opened device.bufsz cells early
    (after (step device.bufsz) start events).Stalled device.bufsz ↔ ∃ more, Missed device.bufsz start events (more + 2) := by
  intro start
  constructor
  · exact (missed_of_run device.two_le_bufsz cells early).2.2
  · rintro ⟨more, before, received, rfl, phase, some⟩
    have wellFormed : (after (step device.bufsz) start before).WellFormed device.bufsz :=
      after_wellFormed cells early device.two_le_bufsz
    have overlooked : ((after (step device.bufsz) start before).hwSerialIsr device.bufsz received).Overlooked device.bufsz :=
      ⟨phase_hwSerialIsr.trans phase, some⟩
    rw [after_append, after_cons]
    exact (overlooked.sleeps device.two_le_bufsz (hwSerialIsr_wellFormed device.two_le_bufsz wellFormed) more).1

/-! ## What an interrupt leads to -/

theorem emits_of_empty (two : 2 ≤ bufsz) (wellFormed : port.WellFormed bufsz) (none : port.waiting bufsz = [])
    (count : Nat) : emits (step bufsz) port (List.replicate count .thread) = [] := by
  induction count generalizing port with
  | zero => rfl
  | succ count ih =>
      have same := (stepped wellFormed).waiting wellFormed
      rw [none] at same
      obtain ⟨silent, stillNone⟩ := List.nil_eq_append_iff.mp same
      have later := ih (step_wellFormed two wellFormed .thread) stillNone
      rw [List.replicate_succ, emits_cons, later]
      exact List.append_eq_nil_iff.mpr ⟨silent, rfl⟩

/-- A thread that is about to read hands on all that waits. -/
theorem emits_of_reading (two : 2 ≤ bufsz) (wellFormed : port.WellFormed bufsz)
    (running : port.rxSem.suspended = false) (phase : port.phase = .read) {queue : List UInt8}
    (holds : port.waiting bufsz = queue) (more : Nat) :
    emits (step bufsz) port (List.replicate (queue.length + more) .thread) = queue := by
  induction queue generalizing port with
  | nil => exact emits_of_empty two wellFormed holds _
  | cons oldest rest ih =>
      cases taken : port.rxFifo.take bufsz with
      | none =>
          have none := (LossyRing.take_eq_none_iff wellFormed.rxFifo).mp taken
          cases none.symm.trans holds
      | some result =>
          obtain ⟨ch, rxFifo⟩ := result
          have reads : port.step bufsz .thread = ({ port with rxFifo }, [ch]) := by
            rw [step, sampleGetChar, running, if_neg Bool.false_ne_true, phase]
            dsimp only
            rw [taken]
          have split := (LossyRing.contents_take wellFormed.rxFifo taken).symm.trans holds
          obtain ⟨same, left⟩ := List.cons_eq_cons.mp split
          have next := step_wellFormed two wellFormed .thread
          rw [reads] at next
          have later := ih next running phase left
          have count : (oldest :: rest).length + more = (rest.length + more) + 1 := by
            rw [List.length_cons]
            omega
          rw [count, List.replicate_succ, emits_cons, reads, later, same]
          rfl

/-- However the run went before, an interrupt followed by enough steps of the
thread has all that waits handed on, unless it came between an empty read and
the reset: then nothing is. -/
theorem interrupt_served (device : Device) (cells : Nat → UInt8) (early : List UInt8) (events : List PortEvent)
    (received : List UInt8) (more : Nat) :
    let port := after (step device.bufsz) (opened device.bufsz cells early) events
    let woken := port.hwSerialIsr device.bufsz received
    emits (step device.bufsz) woken (List.replicate ((woken.waiting device.bufsz).length + 1 + more) .thread) =
      if port.phase = .reset then [] else woken.waiting device.bufsz := by
  intro port woken
  have two := device.two_le_bufsz
  have before : port.WellFormed device.bufsz := after_wellFormed cells early two
  have wellFormed : woken.WellFormed device.bufsz := hwSerialIsr_wellFormed two before
  have same : woken.phase = port.phase := phase_hwSerialIsr
  by_cases none : woken.waiting device.bufsz = []
  · rw [emits_of_empty two wellFormed none, none, ite_self]
  obtain ⟨awake, released⟩ := released_of_interrupt none
  cases phase : port.phase with
  | reset =>
      have positive := List.length_pos_of_ne_nil none
      obtain ⟨further, count⟩ := Nat.exists_eq_add_of_le' (show 2 ≤ (woken.waiting device.bufsz).length + 1 + more by omega)
      rw [count, if_pos rfl]
      exact (Overlooked.sleeps two wellFormed ⟨same.trans phase, none⟩ further).2
  | read =>
      have apart : Phase.read ≠ .reset := by decide
      rw [if_neg apart, Nat.add_assoc]
      exact emits_of_reading two wellFormed awake (same.trans phase) rfl _
  | take =>
      have takes : woken.step device.bufsz .thread =
          ({ woken with rxSem := { woken.rxSem with value := woken.rxSem.value - 1 }, phase := .read }, []) := by
        have positive := released (before.running (by simp [phase]))
        rw [step, sampleGetChar, awake, if_neg Bool.false_ne_true, same.trans phase]
        dsimp only
        rw [Semaphore.take, if_pos positive]
      have next := step_wellFormed two wellFormed .thread
      rw [takes] at next
      have count : (woken.waiting device.bufsz).length + 1 + more = ((woken.waiting device.bufsz).length + more) + 1 := by
        omega
      have apart : Phase.take ≠ .reset := by decide
      rw [if_neg apart, count, List.replicate_succ, emits_cons, takes]
      exact emits_of_reading two next awake rfl rfl more

end Port

end SyrFilter.Serial
