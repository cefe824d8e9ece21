import Mathlib.Data.List.Basic

namespace SyrFilter.Lib

/-! # The newest changes of a signal

An array that is shifted by one cell before a value is put in front holds the
newest values of a sequence.  A value that repeats its predecessor is no change
and is left out of the sequence.
-/

variable {α : Type*} {size : Nat}

/-! ## Shifting -/

/-- Copies each of the cells `last - 1, …, 0` to the one above it, in this order. -/
def shiftUp : (last : Nat) → last < size → Vector α size → Vector α size
  | 0, _, array => array
  | last + 1, inside, array => shiftUp last (by omega) (array.set (last + 1) array[last])

theorem getElem_shiftUp (last : Nat) (inside : last < size) (array : Vector α size) (index : Nat)
    (bound : index < size) :
    (shiftUp last inside array)[index] =
      if 0 < index ∧ index ≤ last then array[index - 1] else array[index] := by
  induction last generalizing array with
  | zero =>
      have none : ¬ (0 < index ∧ index ≤ 0) := by omega
      rw [shiftUp, if_neg none]
  | succ last induction =>
      rw [shiftUp, induction]
      by_cases top : index = last + 1
      · subst top
        simp
      · have above : last + 1 ≠ index := Ne.symm top
        by_cases moved : 0 < index ∧ index ≤ last
        · have wider : 0 < index ∧ index ≤ last + 1 := by omega
          have apart : last + 1 ≠ index - 1 := by omega
          rw [if_pos moved, if_pos wider, Vector.getElem_set_ne _ _ apart]
        · have still : ¬ (0 < index ∧ index ≤ last + 1) := by omega
          rw [if_neg moved, if_neg still, Vector.getElem_set_ne _ _ above]

/-- All cells moved up, and the new value in front. -/
def pushFront (array : Vector α (size + 1)) (value : α) : Vector α (size + 1) :=
  (shiftUp size (Nat.lt_succ_self size) array).set 0 value

@[simp] theorem getElem_pushFront_zero (array : Vector α (size + 1)) (value : α) :
    (pushFront array value)[0] = value := by
  simp [pushFront]

theorem toList_pushFront (array : Vector α (size + 1)) (value : α) :
    (pushFront array value).toList = value :: array.toList.take size := by
  apply List.ext_getElem
  · simp
  · intro index left right
    have bound : index < size + 1 := by simpa using left
    cases index with
    | zero => simp
    | succ index =>
        have moved : 0 < index + 1 ∧ index + 1 ≤ size := by omega
        simp only [pushFront, Vector.getElem_toList, List.getElem_cons_succ, List.getElem_take]
        rw [Vector.getElem_set_ne (by omega) bound (by omega), getElem_shiftUp, if_pos moved]
        rfl

/-! ## The newest values of a sequence -/

/-- The newest `size` values of the sequence, newest first. -/
def latest (size : Nat) (sequence : List α) : List α := sequence.reverse.take size

theorem latest_concat (sequence : List α) (value : α) :
    latest (size + 1) (sequence ++ [value]) = value :: (latest (size + 1) sequence).take size := by
  simp [latest, List.take_take]

theorem head?_latest (sequence : List α) :
    (latest (size + 1) sequence).head? = sequence.getLast? := by
  simp [latest, List.head?_take]

/-- The array keeps up with the sequence. -/
theorem toList_pushFront_latest {array : Vector α (size + 1)} {sequence : List α}
    (follows : array.toList = latest (size + 1) sequence) (value : α) :
    (pushFront array value).toList = latest (size + 1) (sequence ++ [value]) := by
  rw [toList_pushFront, latest_concat, follows]

/-! ## Changes -/

section Changes

variable [DecidableEq α]

/-- The sequence with a further value, unless the value only repeats the last one. -/
def appendChange (sequence : List α) (value : α) : List α :=
  if sequence.getLast? = some value then sequence else sequence ++ [value]

/-- What is left of the values behind `earlier`, each compared with the one kept before it. -/
def changes (earlier values : List α) : List α := values.foldl appendChange earlier

theorem changes_concat (earlier values : List α) (value : α) :
    changes earlier (values ++ [value]) = appendChange (changes earlier values) value := by
  simp [changes]

theorem prefix_appendChange (sequence : List α) (value : α) :
    sequence <+: appendChange sequence value := by
  rw [appendChange]
  split
  · exact List.prefix_rfl
  · exact List.prefix_append _ _

theorem prefix_changes (earlier values : List α) : earlier <+: changes earlier values := by
  induction values generalizing earlier with
  | nil => exact List.prefix_rfl
  | cons value rest induction => exact (prefix_appendChange earlier value).trans (induction _)

end Changes

end SyrFilter.Lib
