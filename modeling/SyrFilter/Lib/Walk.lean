import Mathlib.Data.List.Pairwise

namespace SyrFilter.Lib

/-! # Loops that stop at the first hit

A loop over a table that changes the first entry it looks for, and perhaps those
it passes on the way there.
-/

variable {α : Type*} {which : α → Bool} {hit miss : α → α} {table : List α} {entry : α} {relates : α → α → Prop}
  {holds : α → Prop}

def walk (which : α → Bool) (hit miss : α → α) : List α → List α
  | [] => []
  | entry :: rest => if which entry then hit entry :: rest else miss entry :: walk which hit miss rest

/-- Where an entry of the changed table comes from. -/
theorem mem_walk (member : entry ∈ walk which hit miss table) :
    entry ∈ table ∨ ∃ old ∈ table, (which old = true ∧ entry = hit old) ∨ (which old = false ∧ entry = miss old) := by
  induction table with
  | nil => cases member
  | cons first rest ih =>
      rw [walk] at member
      split at member
      · rename_i found
        rcases List.mem_cons.mp member with rfl | later
        · exact .inr ⟨first, List.mem_cons_self, .inl ⟨found, rfl⟩⟩
        · exact .inl (List.mem_cons_of_mem _ later)
      · rename_i passed
        rcases List.mem_cons.mp member with rfl | later
        · exact .inr ⟨first, List.mem_cons_self, .inr ⟨Bool.not_eq_true _ ▸ passed, rfl⟩⟩
        · rcases ih later with same | ⟨old, inRest, from_⟩
          · exact .inl (List.mem_cons_of_mem _ same)
          · exact .inr ⟨old, List.mem_cons_of_mem _ inRest, from_⟩

/-- Behind the first hit nothing is changed: an entry there stands in the
relation to the hit that the table has. -/
theorem mem_walk_of_pairwise (pairwise : table.Pairwise relates) (member : entry ∈ walk which hit miss table) :
    (∃ old ∈ table, which old = true ∧ entry = hit old) ∨
      (∃ old ∈ table, which old = false ∧ entry = miss old) ∨
        (entry ∈ table ∧ ∃ before ∈ table, which before = true ∧ relates before entry) := by
  induction table with
  | nil => cases member
  | cons first rest ih =>
      obtain ⟨related, others⟩ := List.pairwise_cons.mp pairwise
      rw [walk] at member
      split at member
      · rename_i found
        rcases List.mem_cons.mp member with rfl | later
        · exact .inl ⟨first, List.mem_cons_self, found, rfl⟩
        · exact .inr (.inr ⟨List.mem_cons_of_mem _ later, first, List.mem_cons_self, found, related entry later⟩)
      · rename_i passed
        rcases List.mem_cons.mp member with rfl | later
        · exact .inr (.inl ⟨first, List.mem_cons_self, Bool.not_eq_true _ ▸ passed, rfl⟩)
        · rcases ih others later with ⟨old, inRest, from_⟩ | ⟨old, inRest, from_⟩ | ⟨same, before, inRest, from_⟩
          · exact .inl ⟨old, List.mem_cons_of_mem _ inRest, from_⟩
          · exact .inr (.inl ⟨old, List.mem_cons_of_mem _ inRest, from_⟩)
          · exact .inr (.inr ⟨List.mem_cons_of_mem _ same, before, List.mem_cons_of_mem _ inRest, from_⟩)

/-- A relation of earlier to later entries is kept when both changes keep it. -/
theorem pairwise_walk (pairwise : table.Pairwise relates)
    (hitLeft : ∀ old ∈ table, ∀ other ∈ table, which old = true → relates old other → relates (hit old) other)
    (hitRight : ∀ old ∈ table, ∀ other ∈ table, which old = true → which other = false → relates other old →
      relates (miss other) (hit old))
    (missLeft : ∀ old other, relates old other → relates (miss old) other)
    (missBoth : ∀ old other, relates old other → relates (miss old) (miss other)) :
    (walk which hit miss table).Pairwise relates := by
  induction table with
  | nil => exact .nil
  | cons first rest ih =>
      obtain ⟨related, others⟩ := List.pairwise_cons.mp pairwise
      rw [walk]
      split
      · rename_i found
        refine List.pairwise_cons.mpr ⟨fun other member => ?_, others⟩
        exact hitLeft first List.mem_cons_self other (List.mem_cons_of_mem _ member) found (related other member)
      · rename_i passed
        have later := ih others (fun old inRest other inOther => hitLeft old (List.mem_cons_of_mem _ inRest) other
          (List.mem_cons_of_mem _ inOther)) (fun old inRest other inOther => hitRight old (List.mem_cons_of_mem _ inRest)
          other (List.mem_cons_of_mem _ inOther))
        refine List.pairwise_cons.mpr ⟨fun other member => ?_, later⟩
        rcases mem_walk member with same | ⟨old, inRest, ⟨found, rfl⟩ | ⟨-, rfl⟩⟩
        · exact missLeft first other (related other same)
        · exact hitRight old (List.mem_cons_of_mem _ inRest) first List.mem_cons_self found
            (Bool.not_eq_true _ ▸ passed) (related old inRest)
        · exact missBoth first old (related old inRest)

end SyrFilter.Lib
