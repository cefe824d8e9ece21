import SyrFilter.Lib.Runs

namespace SyrFilter.Lib

/-! # Machines that put something out

A step gives the next state and a list of what it put out.  A run puts out what
its steps do, in order.
-/

variable {σ ε ω : Type*} {step : σ → ε → σ × List ω} {inv : σ → Prop} {start : σ}
  {event : ε} {events rest first second : List ε}

/-- Where a run leads. -/
def after (step : σ → ε → σ × List ω) (start : σ) (events : List ε) : σ :=
  run (fun state event => (step state event).1) start events

/-- What a run puts out. -/
def emits (step : σ → ε → σ × List ω) : σ → List ε → List ω
  | _, [] => []
  | state, event :: rest => (step state event).2 ++ emits step (step state event).1 rest

@[simp] theorem after_nil : after step start [] = start := rfl

@[simp] theorem after_cons : after step start (event :: rest) = after step (step start event).1 rest := rfl

theorem after_append : after step start (first ++ second) = after step (after step start first) second :=
  List.foldl_append

theorem after_concat : after step start (events ++ [event]) = (step (after step start events) event).1 :=
  after_append

@[simp] theorem emits_nil : emits step start [] = [] := rfl

@[simp] theorem emits_cons :
    emits step start (event :: rest) = (step start event).2 ++ emits step (step start event).1 rest := rfl

theorem emits_append :
    emits step start (first ++ second) = emits step start first ++ emits step (after step start first) second := by
  induction first generalizing start with
  | nil => rfl
  | cons event rest ih => simp [ih]

theorem emits_concat :
    emits step start (events ++ [event]) = emits step start events ++ (step (after step start events) event).2 := by
  simp [emits_append]

theorem after_of_step (initial : inv start) (preserved : ∀ state event, inv state → inv (step state event).1) :
    inv (after step start events) := by
  induction events generalizing start with
  | nil => exact initial
  | cons event rest ih => exact ih (preserved start event initial)

end SyrFilter.Lib
