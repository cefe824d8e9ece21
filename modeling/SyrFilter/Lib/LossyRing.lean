import Mathlib.Logic.Function.Basic
import Mathlib.Data.List.Basic
import Mathlib.Data.List.Infix

namespace SyrFilter.Lib

/-! # Rings that forget their oldest value

A queue of bounded capacity that makes room by dropping its head, and the ring
of cells with two indices that implements it.  The ring keeps one cell free, so
that equal indices mean an empty ring; its flag is then only a trace of the
last value it has forgotten.
-/

variable {α : Type*}

/-! ## The queue -/

/-- A value joins the queue; a full queue drops its oldest one for it. -/
def push (capacity : Nat) (queue : List α) (value : α) : List α :=
  if queue.length < capacity then queue ++ [value] else queue.tail ++ [value]

section Queue

variable {capacity : Nat} {queue values : List α} {value : α}

theorem push_eq_drop (positive : 0 < capacity) (within : queue.length ≤ capacity) :
    push capacity queue value = (queue ++ [value]).drop (queue.length + 1 - capacity) := by
  rw [push]
  split
  · rename_i room
    have none : queue.length + 1 - capacity = 0 := by omega
    rw [none, List.drop_zero]
  · rename_i full
    have one : queue.length + 1 - capacity = 1 := by omega
    rw [one]
    cases queue with
    | nil => exact absurd positive full
    | cons oldest rest => rfl

theorem length_push_le (positive : 0 < capacity) (within : queue.length ≤ capacity) :
    (push capacity queue value).length ≤ capacity := by
  rw [push_eq_drop positive within, List.length_drop, List.length_append, List.length_singleton]
  omega

/-- Of all that has been put in, the queue holds the newest. -/
theorem pushAll_eq_drop (positive : 0 < capacity) (within : queue.length ≤ capacity) :
    values.foldl (push capacity) queue = (queue ++ values).drop (queue.length + values.length - capacity) := by
  induction values generalizing queue with
  | nil =>
      have none : queue.length - capacity = 0 := by omega
      simp [none]
  | cons value rest ih =>
      rw [List.foldl_cons, ih (length_push_le positive within), push_eq_drop positive within, List.length_drop,
        List.length_append, List.length_singleton, List.length_cons]
      have early : queue.length + 1 - capacity ≤ (queue ++ [value]).length := by
        rw [List.length_append, List.length_singleton]
        omega
      rw [← List.drop_append_of_le_length early, List.drop_drop, List.append_assoc, List.singleton_append]
      congr 1
      omega

end Queue

/-! ## The ring -/

/-- An index up to one lap ahead, brought back into the cells. -/
def slot (size index : Nat) : Nat := if index < size then index else index - size

/-- `count` cells from `start` on, around the end of the cells. -/
def circular (cells : Nat → α) (size start count : Nat) : List α :=
  (List.range count).map fun i => cells (slot size (start + i))

section Circular

variable {cells : Nat → α} {size start count : Nat}

@[simp] theorem length_circular : (circular cells size start count).length = count := by
  rw [circular, List.length_map, List.length_range]

theorem circular_snoc :
    circular cells size start (count + 1) = circular cells size start count ++ [cells (slot size (start + count))] := by
  rw [circular, List.range_succ, List.map_append]
  rfl

theorem circular_cons (inside : start < size) (short : count < size) :
    circular cells size start (count + 1) = cells start :: circular cells size (slot size (start + 1)) count := by
  have first : slot size start = start := if_pos inside
  rw [circular, List.range_succ_eq_map, List.map_cons, List.map_map, Nat.add_zero, first]
  congr 1
  apply List.map_congr_left
  intro i member
  have below := List.mem_range.mp member
  have same : slot size (start + (i + 1)) = slot size (slot size (start + 1) + i) := by
    simp only [slot]
    split <;> split <;> split <;> omega
  exact congrArg cells same

theorem circular_update (value : α) {index : Nat} (outside : ∀ i, i < count → slot size (start + i) ≠ index) :
    circular (Function.update cells index value) size start count = circular cells size start count := by
  apply List.map_congr_left
  intro i member
  exact Function.update_of_ne (outside i (List.mem_range.mp member)) _ _

end Circular

structure LossyRing (α : Type*) where
  cells : Nat → α
  putIndex : Nat
  getIndex : Nat
  isFull : Bool

namespace LossyRing

variable {size : Nat} {ring : LossyRing α} {value : α}

def next (size index : Nat) : Nat := if size ≤ index + 1 then 0 else index + 1

/-- A writer that meets the reader pushes it on. -/
def put (size : Nat) (ring : LossyRing α) (value : α) : LossyRing α :=
  if next size ring.putIndex = ring.getIndex then
    { cells := Function.update ring.cells ring.putIndex value
      putIndex := next size ring.putIndex
      getIndex := next size ring.getIndex
      isFull := true }
  else
    { ring with
      cells := Function.update ring.cells ring.putIndex value
      putIndex := next size ring.putIndex }

def take (size : Nat) (ring : LossyRing α) : Option (α × LossyRing α) :=
  if ring.getIndex = ring.putIndex ∧ ring.isFull = false then none
  else some (ring.cells ring.getIndex, { ring with getIndex := next size ring.getIndex, isFull := false })

/-- How far the writer is ahead of the reader. -/
def held (size : Nat) (ring : LossyRing α) : Nat :=
  if ring.getIndex ≤ ring.putIndex then ring.putIndex - ring.getIndex
  else size - (ring.getIndex - ring.putIndex)

def contents (size : Nat) (ring : LossyRing α) : List α :=
  circular ring.cells size ring.getIndex (ring.held size)

/-- Both indices are within the cells, and equal ones mean an empty ring. -/
structure WellFormed (size : Nat) (ring : LossyRing α) : Prop where
  putIndex_lt : ring.putIndex < size
  getIndex_lt : ring.getIndex < size
  empty : ring.getIndex = ring.putIndex → ring.isFull = false

@[simp] theorem length_contents : (ring.contents size).length = ring.held size := length_circular

theorem held_lt (wellFormed : ring.WellFormed size) : ring.held size < size := by
  obtain ⟨putLt, getLt, -⟩ := wellFormed
  rw [held]
  split <;> omega

theorem put_wellFormed (two : 2 ≤ size) (wellFormed : ring.WellFormed size) : (ring.put size value).WellFormed size := by
  obtain ⟨putLt, getLt, empty⟩ := wellFormed
  have inside (index : Nat) : next size index < size := by
    rw [next]
    split <;> omega
  have moves (index : Nat) (below : index < size) : next size index ≠ index := by
    rw [next]
    split <;> omega
  rw [put]
  split
  · rename_i meets
    have apart : next size ring.getIndex ≠ next size ring.putIndex := by
      rw [meets]
      exact moves _ getLt
    exact ⟨inside _, inside _, fun same => absurd same apart⟩
  · rename_i free
    exact ⟨inside _, getLt, fun same => absurd same.symm free⟩

theorem take_wellFormed (two : 2 ≤ size) (wellFormed : ring.WellFormed size) {rest : LossyRing α}
    (taken : ring.take size = some (value, rest)) : rest.WellFormed size := by
  obtain ⟨putLt, getLt, -⟩ := wellFormed
  rw [take] at taken
  split at taken
  · cases taken
  · cases taken
    refine ⟨putLt, ?_, fun _ => rfl⟩
    dsimp only [next]
    split <;> omega

/-- The slots of the queue are not the one the writer is at. -/
theorem slot_ne_putIndex (wellFormed : ring.WellFormed size) {i : Nat} (below : i < ring.held size) :
    slot size (ring.getIndex + i) ≠ ring.putIndex := by
  obtain ⟨putLt, getLt, -⟩ := wellFormed
  rw [held] at below
  rw [slot]
  split at below <;> split <;> omega

theorem slot_held (wellFormed : ring.WellFormed size) : slot size (ring.getIndex + ring.held size) = ring.putIndex := by
  obtain ⟨putLt, getLt, -⟩ := wellFormed
  rw [held, slot]
  split <;> split <;> omega

/-- A ring that the writer has written to, its reader not yet pushed on. -/
theorem circular_written (value : α) (wellFormed : ring.WellFormed size) :
    circular (Function.update ring.cells ring.putIndex value) size ring.getIndex (ring.held size + 1) =
      ring.contents size ++ [value] := by
  rw [circular_snoc, circular_update value (fun i below => slot_ne_putIndex wellFormed below), slot_held wellFormed,
    Function.update_self]
  rfl

/-- The ring is the queue that drops its oldest value, one cell short of its size. -/
theorem contents_put (two : 2 ≤ size) (wellFormed : ring.WellFormed size) :
    (ring.put size value).contents size = push (size - 1) (ring.contents size) value := by
  have written := circular_written value wellFormed
  have short := held_lt wellFormed
  obtain ⟨putLt, getLt, -⟩ := wellFormed
  rw [push, length_contents]
  by_cases meets : next size ring.putIndex = ring.getIndex
  · have full : ring.held size + 1 = size := by
      rw [next] at meets
      rw [held]
      split at meets <;> split <;> omega
    have still : (ring.put size value).held size = ring.held size := by
      rw [put, if_pos meets]
      dsimp only [held, next] at full meets ⊢
      split at full <;> split at meets <;> split <;> split <;> omega
    have pushed : next size ring.getIndex = slot size (ring.getIndex + 1) := by
      rw [next, slot]
      split <;> split <;> omega
    rw [circular_cons getLt (by omega)] at written
    have dropped := congrArg List.tail written
    rw [List.tail_cons] at dropped
    rw [if_neg (by omega), contents, still, put, if_pos meets]
    dsimp only
    rw [pushed, dropped]
    cases queue : ring.contents size with
    | nil =>
        have none := congrArg List.length queue
        rw [length_contents, List.length_nil] at none
        omega
    | cons oldest rest => rfl
  · have room : ring.held size < size - 1 := by
      rw [next] at meets
      rw [held] at short ⊢
      split at meets <;> split at short <;> split <;> omega
    have longer : (ring.put size value).held size = ring.held size + 1 := by
      rw [put, if_neg meets]
      simp only [held, next] at meets room ⊢
      split at meets <;> split at room <;> split <;> split <;> omega
    rw [if_pos room, contents, longer, put, if_neg meets]
    exact written

theorem contents_eq_nil_iff (wellFormed : ring.WellFormed size) :
    ring.contents size = [] ↔ ring.getIndex = ring.putIndex := by
  obtain ⟨putLt, getLt, -⟩ := wellFormed
  rw [← List.length_eq_zero_iff, length_contents, held]
  split <;> omega

theorem take_eq_none_iff (wellFormed : ring.WellFormed size) : ring.take size = none ↔ ring.contents size = [] := by
  rw [contents_eq_nil_iff wellFormed, take]
  constructor
  · intro none
    split at none
    · rename_i empty
      exact empty.1
    · cases none
  · intro same
    exact if_pos ⟨same, wellFormed.empty same⟩

theorem contents_take (wellFormed : ring.WellFormed size) {rest : LossyRing α}
    (taken : ring.take size = some (value, rest)) : ring.contents size = value :: rest.contents size := by
  have short := held_lt wellFormed
  have filled : ring.contents size ≠ [] := by
    intro none
    rw [(take_eq_none_iff wellFormed).mpr none] at taken
    cases taken
  have apart : ring.getIndex ≠ ring.putIndex := fun same => filled ((contents_eq_nil_iff wellFormed).mpr same)
  obtain ⟨putLt, getLt, -⟩ := wellFormed
  rw [take, if_neg (fun empty => apart empty.1)] at taken
  cases taken
  have fewer : ring.held size =
      held size { ring with getIndex := next size ring.getIndex, isFull := false } + 1 := by
    dsimp only [held, next]
    by_cases last : size ≤ ring.getIndex + 1
    · rw [if_pos last]
      split <;> split <;> omega
    · rw [if_neg last]
      split <;> split <;> omega
  have pushed : next size ring.getIndex = slot size (ring.getIndex + 1) := by
    rw [next, slot]
    split <;> split <;> omega
  rw [contents, fewer, circular_cons getLt (by omega), contents, ← pushed]

end LossyRing

end SyrFilter.Lib
