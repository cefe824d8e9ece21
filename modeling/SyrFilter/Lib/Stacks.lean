import Mathlib.Data.List.Chain

namespace SyrFilter.Lib

/-! # Stacks on a bottom

A stack, its top first, in which every element may lie on the one below it, and
which never loses its last element.
-/

variable {α : Type*} {above : α → α → Prop} {bottom element top below : α} {stack rest : List α}

structure Piled (above : α → α → Prop) (bottom : α) (stack : List α) : Prop where
  chain : stack.IsChain above
  last : stack.getLast? = some bottom

namespace Piled

theorem singleton : Piled above bottom [bottom] := ⟨.singleton _, rfl⟩

theorem ne_nil (piled : Piled above bottom stack) : stack ≠ [] := by
  rintro rfl
  cases piled.last

theorem push (piled : Piled above bottom stack) (lies : ∀ top ∈ stack.head?, above element top) :
    Piled above bottom (element :: stack) := by
  refine ⟨List.isChain_cons.mpr ⟨lies, piled.chain⟩, ?_⟩
  obtain ⟨top, rest, rfl⟩ := List.exists_cons_of_ne_nil piled.ne_nil
  rw [List.getLast?_cons_cons]
  exact piled.last

theorem pop (piled : Piled above bottom (top :: below :: rest)) : Piled above bottom (below :: rest) := by
  refine ⟨piled.chain.tail, ?_⟩
  rw [← List.getLast?_cons_cons (a := top)]
  exact piled.last

theorem lies (piled : Piled above bottom (top :: below :: rest)) : above top below :=
  (List.isChain_cons_cons.mp piled.chain).1

/-- Something lies below every element but the bottom. -/
theorem exists_below (piled : Piled above bottom (top :: rest)) (other : top ≠ bottom) :
    ∃ below under, rest = below :: under := by
  cases rest with
  | nil => exact absurd (Option.some.inj piled.last) other
  | cons below under => exact ⟨below, under, rfl⟩

/-- An element that lies on nothing is the whole stack. -/
theorem eq_nil (piled : Piled above bottom (top :: rest)) (ground : ∀ below, ¬above top below) : rest = [] := by
  cases rest with
  | nil => rfl
  | cons below under => exact absurd piled.lies (ground below)

/-- Elements of a kind that lie on lower ones of that kind alone pile up no higher than their rank. -/
theorem length_le (kind : α → Prop) (rank : α → Nat) (piled : Piled above bottom (top :: rest))
    (lower : ∀ top below, kind top → above top below → kind below ∧ rank below < rank top)
    (member : kind top) : (top :: rest).length ≤ rank top + 1 := by
  induction rest generalizing top with
  | nil => exact Nat.le_add_left 1 _
  | cons below under ih =>
      obtain ⟨next, less⟩ := lower top below member piled.lies
      have height := ih piled.pop next
      rw [List.length_cons]
      omega

end Piled

end SyrFilter.Lib
