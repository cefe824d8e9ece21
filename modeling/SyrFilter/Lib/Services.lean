import SyrFilter.Lib.Runs

namespace SyrFilter.Lib

/-! # Services

A service answers one request after another from a state of its own, and may
fail to return.  One that does what a specification says in each of its steps
gives the answers of the specification to any number of requests.
-/

variable {σ τ ρ α : Type*} {step : σ → ρ → Option (α × σ)} {spec : τ → ρ → α × τ}
  {related : σ → τ → Prop} {allowed : τ → ρ → Prop}
  {state : σ} {abstract : τ} {requests : List ρ}

def serveAll (step : σ → ρ → Option (α × σ)) : σ → List ρ → Option (List α × σ)
  | state, [] => some ([], state)
  | state, request :: rest =>
      (step state request).bind fun served =>
        (serveAll step served.2 rest).map fun later => (served.1 :: later.1, later.2)

def specifyAll (spec : τ → ρ → α × τ) : τ → List ρ → List α × τ
  | abstract, [] => ([], abstract)
  | abstract, request :: rest =>
      let later := specifyAll spec (spec abstract request).2 rest
      ((spec abstract request).1 :: later.1, later.2)

/-- The state of a specification, as a machine. -/
def advance (spec : τ → ρ → α × τ) (abstract : τ) (request : ρ) : τ := (spec abstract request).2

/-- Each step of the service does what the specification says. -/
def Simulates (step : σ → ρ → Option (α × σ)) (spec : τ → ρ → α × τ) (related : σ → τ → Prop)
    (allowed : τ → ρ → Prop) : Prop :=
  ∀ state abstract request, related state abstract → allowed abstract request →
    ∃ state', step state request = some ((spec abstract request).1, state') ∧ related state' (spec abstract request).2

/-- So does the service as a whole. -/
theorem Simulates.serveAll (simulates : Simulates step spec related allowed) (start : related state abstract)
    (steps : EachStep (advance spec) allowed abstract requests) :
    ∃ state', Lib.serveAll step state requests = some ((specifyAll spec abstract requests).1, state') ∧
      related state' (specifyAll spec abstract requests).2 := by
  induction requests generalizing state abstract with
  | nil => exact ⟨state, rfl, start⟩
  | cons request rest ih =>
      obtain ⟨first, later⟩ := eachStep_cons.mp steps
      obtain ⟨state1, served, related1⟩ := simulates state abstract request start first
      obtain ⟨state2, servedAll, related2⟩ := ih related1 later
      refine ⟨state2, ?_, related2⟩
      have unfolded : Lib.serveAll step state (request :: rest) =
          (step state request).bind fun served =>
            (Lib.serveAll step served.2 rest).map fun later => (served.1 :: later.1, later.2) := rfl
      rw [unfolded, served, Option.bind_some, servedAll]
      rfl

end SyrFilter.Lib
