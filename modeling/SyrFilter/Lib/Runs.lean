import Mathlib.Data.List.Basic
import Mathlib.Data.List.Infix

namespace SyrFilter.Lib

/-! # Runs of event-driven machines

A machine is a total step function on a state, driven by a list of events.
The rules below turn facts about one step into facts about every state a run
passes through.  The last of them is exact: when one step keeps a property
precisely under some condition on the state it starts from, a whole run keeps
the property precisely when each of its steps meets that condition.
-/

variable {σ ε : Type*} {step : σ → ε → σ} {good inv : σ → Prop} {allowed fine : σ → ε → Prop}
  {start : σ} {event : ε} {events rest : List ε}

def run (step : σ → ε → σ) (start : σ) (events : List ε) : σ := events.foldl step start

@[simp] theorem run_nil : run step start [] = start := rfl

@[simp] theorem run_cons : run step start (event :: rest) = run step (step start event) rest := rfl

theorem run_append (first second : List ε) : run step start (first ++ second) = run step (run step start first) second :=
  List.foldl_append

/-- Every state the run passes through, its first and its last included. -/
def Throughout (step : σ → ε → σ) (good : σ → Prop) (start : σ) (events : List ε) : Prop :=
  ∀ count, good (run step start (events.take count))

/-- Every event of the run, together with the state it arrives in. -/
def EachStep (step : σ → ε → σ) (allowed : σ → ε → Prop) (start : σ) (events : List ε) : Prop :=
  ∀ count event, events[count]? = some event → allowed (run step start (events.take count)) event

theorem throughout_nil : Throughout step good start ([] : List ε) ↔ good start := by
  simp [Throughout]

theorem throughout_cons :
    Throughout step good start (event :: rest) ↔
      good start ∧ Throughout step good (step start event) rest := by
  constructor
  · intro holds
    exact ⟨holds 0, fun count => holds (count + 1)⟩
  · rintro ⟨first, later⟩ count
    cases count with
    | zero => exact first
    | succ count => exact later count

theorem eachStep_nil : EachStep step allowed start ([] : List ε) := by
  intro count event found
  simp at found

theorem eachStep_cons :
    EachStep step allowed start (event :: rest) ↔
      allowed start event ∧ EachStep step allowed (step start event) rest := by
  constructor
  · intro holds
    exact ⟨holds 0 event rfl, fun count next found => holds (count + 1) next found⟩
  · rintro ⟨first, later⟩ count next found
    cases count with
    | zero =>
        simp only [List.getElem?_cons_zero, Option.some.injEq] at found
        subst found
        exact first
    | succ count => exact later count next found

instance EachStep.decidable (step : σ → ε → σ) (allowed : σ → ε → Prop)
    [∀ state event, Decidable (allowed state event)] :
    (start : σ) → (events : List ε) → Decidable (EachStep step allowed start events)
  | _, [] => isTrue eachStep_nil
  | start, event :: rest =>
      have : Decidable (EachStep step allowed (step start event) rest) :=
        EachStep.decidable step allowed (step start event) rest
      decidable_of_iff (allowed start event ∧ EachStep step allowed (step start event) rest)
        eachStep_cons.symm

theorem EachStep.take (steps : EachStep step allowed start events) (length : Nat) :
    EachStep step allowed start (events.take length) := by
  intro count event found
  rw [List.getElem?_take] at found
  split at found
  · rename_i inside
    rw [List.take_take, Nat.min_eq_left (Nat.le_of_lt inside)]
    exact steps count event found
  · cases found

theorem eachStep_and_iff :
    EachStep step (fun state event => allowed state event ∧ fine state event) start events ↔
      EachStep step allowed start events ∧ EachStep step fine start events := by
  constructor
  · intro steps
    exact ⟨fun count event found => (steps count event found).1,
      fun count event found => (steps count event found).2⟩
  · rintro ⟨first, second⟩ count event found
    exact ⟨first count event found, second count event found⟩

/-- A property of the states, seen from the steps that lead to them. -/
theorem Throughout.eachStep (holds : Throughout step good start events) :
    EachStep step (fun state event => good (step state event)) start events := by
  induction events generalizing start with
  | nil => exact eachStep_nil
  | cons event rest ih =>
      obtain ⟨-, later⟩ := throughout_cons.mp holds
      exact eachStep_cons.mpr ⟨later 0, ih later⟩

theorem Throughout.last (holds : Throughout step good start events) :
    good (run step start events) := by
  simpa using holds events.length

theorem throughout_of_eachStep (initial : inv start)
    (preserved : ∀ state event, inv state → allowed state event → inv (step state event))
    (steps : EachStep step allowed start events) : Throughout step inv start events := by
  induction events generalizing start with
  | nil => exact throughout_nil.mpr initial
  | cons event rest ih =>
      obtain ⟨first, later⟩ := eachStep_cons.mp steps
      exact throughout_cons.mpr ⟨initial, ih (preserved start event initial first) later⟩

theorem throughout_of_step (initial : inv start)
    (preserved : ∀ state event, inv state → inv (step state event)) :
    Throughout step inv start events := by
  have unconstrained : EachStep step (fun _ _ => True) start events := fun _ _ _ => trivial
  exact throughout_of_eachStep initial (fun state event holds _ => preserved state event holds)
    unconstrained

theorem eachStep_congr (inv : σ → Prop) (initial : inv start)
    (preserved : ∀ state event, inv state → inv (step state event))
    (agree : ∀ state event, inv state → (fine state event ↔ allowed state event)) :
    EachStep step fine start events ↔ EachStep step allowed start events := by
  have holds : Throughout step inv start events := throughout_of_step initial preserved
  constructor
  · intro steps count event found
    exact (agree _ event (holds count)).mp (steps count event found)
  · intro steps count event found
    exact (agree _ event (holds count)).mpr (steps count event found)

/-- The exact rule, for a property of the states together with one of the steps.
`inv` is what the argument carries along besides; it need only survive the
steps that keep the properties. -/
theorem throughout_and_eachStep_iff (inv : σ → Prop) (initial : inv start) (goodInitial : good start)
    (preserved : ∀ state event, inv state → good state → allowed state event → inv (step state event))
    (exact_ : ∀ state event, inv state → good state →
      (good (step state event) ∧ fine state event ↔ allowed state event)) :
    Throughout step good start events ∧ EachStep step fine start events ↔
      EachStep step allowed start events := by
  induction events generalizing start with
  | nil => exact iff_of_true ⟨throughout_nil.mpr goodInitial, eachStep_nil⟩ eachStep_nil
  | cons event rest ih =>
      rw [throughout_cons, eachStep_cons, eachStep_cons]
      constructor
      · intro holds
        obtain ⟨⟨_, later⟩, now, after⟩ := holds
        have kept : good (step start event) := later 0
        have first := (exact_ start event initial goodInitial).mp ⟨kept, now⟩
        have next := ih (preserved start event initial goodInitial first) kept
        exact ⟨first, next.mp ⟨later, after⟩⟩
      · intro holds
        obtain ⟨first, later⟩ := holds
        obtain ⟨kept, now⟩ := (exact_ start event initial goodInitial).mpr first
        have next := ih (preserved start event initial goodInitial first) kept
        obtain ⟨states, steps⟩ := next.mpr later
        exact ⟨⟨goodInitial, states⟩, now, steps⟩

theorem throughout_iff_eachStep (inv : σ → Prop) (initial : inv start) (goodInitial : good start)
    (preserved : ∀ state event, inv state → good state → allowed state event → inv (step state event))
    (exact_ : ∀ state event, inv state → good state → (good (step state event) ↔ allowed state event)) :
    Throughout step good start events ↔ EachStep step allowed start events := by
  have steps : EachStep step (fun _ _ => True) start events := fun _ _ _ => trivial
  refine (and_iff_left steps).symm.trans ?_
  apply throughout_and_eachStep_iff inv initial goodInitial preserved
  intro state event holds kept
  exact (and_iff_left trivial).trans (exact_ state event holds kept)

/-- Two properties of the steps agree over a run when they agree wherever the
second has held so far. -/
theorem eachStep_iff_of_allowed (inv : σ → Prop) (initial : inv start)
    (preserved : ∀ state event, inv state → allowed state event → inv (step state event))
    (agree : ∀ state event, inv state → (fine state event ↔ allowed state event)) :
    EachStep step fine start events ↔ EachStep step allowed start events := by
  have anywhere : Throughout step (fun _ => True) start events := fun _ => trivial
  refine (and_iff_right anywhere).symm.trans ?_
  apply throughout_and_eachStep_iff inv initial trivial
  · exact fun state event holds _ => preserved state event holds
  · exact fun state event holds _ => (and_iff_right trivial).trans (agree state event holds)

/-! ## Runs with their history -/

/-- The machine together with the events it has been given. -/
def recording (step : σ → ε → σ) (record : List ε × σ) (event : ε) : List ε × σ :=
  (record.1 ++ [event], step record.2 event)

theorem run_recording (past : List ε) :
    run (recording step) (past, start) events = (past ++ events, run step start events) := by
  induction events generalizing past start with
  | nil => simp
  | cons event rest ih =>
      rw [run_cons, recording, ih, List.append_assoc]
      rfl

theorem throughout_recording (past : List ε) :
    Throughout (recording step) (fun record => good record.2) (past, start) events ↔
      Throughout step good start events := by
  refine forall_congr' fun count => ?_
  rw [run_recording]

end SyrFilter.Lib
