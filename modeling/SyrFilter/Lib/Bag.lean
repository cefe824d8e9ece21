import Mathlib.Algebra.BigOperators.Group.Finset.Basic
import Mathlib.Algebra.Order.BigOperators.Group.Finset
import Mathlib.Algebra.Order.Group.Nat
import Mathlib.Logic.Function.Basic
import Mathlib.Tactic.Abel

namespace SyrFilter.Lib

/-! # Bags of pairs as maps

A log or an area holds pairs in whatever order and place; where no key occurs
twice, it holds a map.
-/

variable {κ ν : Type*} {bag : Multiset (κ × ν)} {map : κ → Option ν} {key : κ} {value old : ν}

structure Means (bag : Multiset (κ × ν)) (map : κ → Option ν) : Prop where
  nodup : (bag.map Prod.fst).Nodup
  mem : ∀ key value, (key, value) ∈ bag ↔ map key = some value

theorem Means.not_mem (means : Means bag map) (absent : map key = none) : key ∉ bag.map Prod.fst := by
  intro member
  obtain ⟨⟨_, value⟩, held, rfl⟩ := Multiset.mem_map.mp member
  have found := (means.mem _ value).mp held
  rw [absent] at found
  cases found

/-- What the pairs weigh is what the map weighs. -/
theorem Means.sum_le (means : Means bag map) (weight : κ → ν → Nat) {keys : Finset κ}
    (within : ∀ key value, map key = some value → key ∈ keys) :
    (bag.map fun pair => weight pair.1 pair.2).sum ≤ ∑ key ∈ keys, ((map key).map (weight key)).getD 0 := by
  have looked : bag.map (fun pair => weight pair.1 pair.2) =
      (bag.map Prod.fst).map fun key => ((map key).map (weight key)).getD 0 := by
    rw [Multiset.map_map]
    apply Multiset.map_congr rfl
    intro pair member
    simp [(means.mem pair.1 pair.2).mp member]
  have listed : (⟨bag.map Prod.fst, means.nodup⟩ : Finset κ) ⊆ keys := by
    intro key member
    obtain ⟨⟨_, value⟩, held, rfl⟩ := Multiset.mem_map.mp member
    exact within _ value ((means.mem _ value).mp held)
  rw [looked]
  exact Finset.sum_le_sum_of_subset listed

variable [DecidableEq κ]

theorem Means.insert (means : Means bag map) (absent : map key = none) (value : ν) :
    Means ((key, value) ::ₘ bag) (Function.update map key (some value)) := by
  constructor
  · rw [Multiset.map_cons, Multiset.nodup_cons]
    exact ⟨means.not_mem absent, means.nodup⟩
  · intro other found
    rw [Multiset.mem_cons, means.mem]
    by_cases same : other = key
    · subst same
      simp [absent, eq_comm]
    · simp [same]

theorem Means.erase (means : Means ((key, value) ::ₘ bag) map) : Means bag (Function.update map key none) := by
  obtain ⟨nodup, mem⟩ := means
  rw [Multiset.map_cons, Multiset.nodup_cons] at nodup
  refine ⟨nodup.2, fun other found => ?_⟩
  by_cases same : other = key
  · subst same
    rw [Function.update_self]
    constructor
    · intro held
      exact absurd (Multiset.mem_map_of_mem Prod.fst held) nodup.1
    · exact fun none => absurd none (by simp)
  · rw [Function.update_of_ne same, ← mem other found, Multiset.mem_cons]
    simp [same]

theorem Means.replace (means : Means ((key, old) ::ₘ bag) map) (value : ν) :
    Means ((key, value) ::ₘ bag) (Function.update map key (some value)) := by
  have inserted := means.erase.insert (Function.update_self key none map) value
  rwa [Function.update_idem] at inserted

/-- Some of the pairs mean a part of the map. -/
theorem Means.restrict (means : Means bag map) {part : Multiset (κ × ν)} (le : part ≤ bag) :
    Means part fun key => if key ∈ part.map Prod.fst then map key else none := by
  constructor
  · exact Multiset.nodup_of_le (Multiset.map_le_map le) means.nodup
  · intro key value
    constructor
    · intro member
      rw [if_pos (Multiset.mem_map_of_mem Prod.fst member)]
      exact (means.mem key value).mp (Multiset.mem_of_le le member)
    · intro held
      split at held
      · rename_i listed
        obtain ⟨⟨_, found⟩, member, rfl⟩ := Multiset.mem_map.mp listed
        rw [(means.mem _ found).mp (Multiset.mem_of_le le member)] at held
        cases held
        exact member
      · cases held

/-- A sum over indexed parts, one of which changes. -/
theorem sum_update_add {ι α β : Type*} [DecidableEq ι] [AddCommMonoid β] {parts : Finset ι} {index : ι}
    (member : index ∈ parts) (amount : α → β) (values : ι → α) (value : α) :
    ∑ i ∈ parts, amount (Function.update values index value i) + amount (values index) =
      ∑ i ∈ parts, amount (values i) + amount value := by
  have others : ∑ i ∈ parts.erase index, amount (Function.update values index value i) =
      ∑ i ∈ parts.erase index, amount (values i) :=
    Finset.sum_congr rfl fun i outside => by rw [Function.update_of_ne (Finset.ne_of_mem_erase outside)]
  rw [← Finset.add_sum_erase parts (fun i => amount (Function.update values index value i)) member,
    ← Finset.add_sum_erase parts (fun i => amount (values i)) member, others, Function.update_self]
  abel

end SyrFilter.Lib
