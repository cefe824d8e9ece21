import Mathlib.Data.List.Basic

namespace SyrFilter.Lib

/-! # Histories

What a machine has done, the newest entry first.  A property of the entries may
look at everything that lies behind an entry, and an entry may be asked for
since the last time one of a kind was made.
-/

variable {α : Type*} {starts : α → Prop} {entry mark : α} {history : List α} {good : α → List α → Prop}

/-- The entry was made, and none that starts anew has been made since. -/
def RecordedSince (starts : α → Prop) (entry : α) (history : List α) : Prop :=
  ∃ between before, history = between ++ entry :: before ∧ ∀ mark ∈ between, ¬starts mark

theorem RecordedSince.head : RecordedSince starts entry (entry :: history) :=
  ⟨[], history, rfl, List.forall_mem_nil _⟩

theorem RecordedSince.cons (recorded : RecordedSince starts entry history) (other : ¬starts mark) :
    RecordedSince starts entry (mark :: history) := by
  obtain ⟨between, before, rfl, since⟩ := recorded
  exact ⟨mark :: between, before, rfl, List.forall_mem_cons.mpr ⟨other, since⟩⟩

/-- Every entry has the property, together with what had been done before it. -/
def EachEntry (good : α → List α → Prop) (history : List α) : Prop :=
  ∀ later mark earlier, history = later ++ mark :: earlier → good mark earlier

theorem eachEntry_nil : EachEntry good ([] : List α) := by
  intro later mark earlier split
  simp at split

theorem eachEntry_cons : EachEntry good (mark :: history) ↔ good mark history ∧ EachEntry good history := by
  constructor
  · intro each
    refine ⟨each [] mark history rfl, fun later other earlier split => ?_⟩
    exact each (mark :: later) other earlier (congrArg (List.cons mark) split)
  · rintro ⟨newest, each⟩ later other earlier split
    cases later with
    | nil =>
        obtain ⟨rfl, rfl⟩ := List.cons.inj split
        exact newest
    | cons head later =>
        obtain ⟨-, rest⟩ := List.cons.inj split
        exact each later other earlier rest

end SyrFilter.Lib
