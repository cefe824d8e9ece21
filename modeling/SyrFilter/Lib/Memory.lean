import Mathlib.Logic.Function.Basic
import Mathlib.Data.List.Basic
import Mathlib.Data.List.TakeDrop

namespace SyrFilter.Lib

/-! # Memory as a function of the address

A region of memory is read as a list through `window`.  The two copy loops
move bytes one at a time within the same memory, so that what they do to
overlapping regions has to be proved.
-/

variable {α : Type*} {memory other : Nat → α} {start count dest src : Nat}

def window (memory : Nat → α) (start count : Nat) : List α :=
  (List.range count).map fun i => memory (start + i)

@[simp] theorem length_window : (window memory start count).length = count := by
  simp [window]

@[simp] theorem window_zero : window memory start 0 = [] := rfl

theorem getElem?_window {i : Nat} (inside : i < count) :
    (window memory start count)[i]? = some (memory (start + i)) := by
  simp [window, inside]

@[simp] theorem getElem_window {i : Nat} (inside : i < (window memory start count).length) :
    (window memory start count)[i] = memory (start + i) := by
  simp [window]

theorem window_add (first second : Nat) :
    window memory start (first + second) =
      window memory start first ++ window memory (start + first) second := by
  simp [window, List.range_add, Function.comp_def, Nat.add_assoc]

theorem window_cons : window memory start (count + 1) =
    memory start :: window memory (start + 1) count := by
  rw [Nat.add_comm, window_add]
  simp [window]

theorem window_snoc : window memory start (count + 1) =
    window memory start count ++ [memory (start + count)] := by
  rw [window_add]
  simp [window]

theorem drop_window (skipped : Nat) :
    (window memory start count).drop skipped = window memory (start + skipped) (count - skipped) := by
  apply List.ext_getElem
  · simp
  · intro i _ _
    simp [Nat.add_assoc]

theorem take_window {kept : Nat} (inside : kept ≤ count) :
    (window memory start count).take kept = window memory start kept := by
  apply List.ext_getElem
  · simp [inside]
  · intro i _ _
    simp

theorem window_congr (agree : ∀ i, i < count → memory (start + i) = other (start + i)) :
    window memory start count = window other start count := by
  apply List.map_congr_left
  intro i member
  exact agree i (List.mem_range.mp member)

theorem window_update {address : Nat} (value : α) (outside : address < start ∨ start + count ≤ address) :
    window (Function.update memory address value) start count = window memory start count := by
  apply window_congr
  intro i inside
  have different : start + i ≠ address := by omega
  exact Function.update_of_ne different value memory

/-! ## Copy loops -/

/-- Copies the values at index `next`, `next + 1`, ... of the source. -/
def copyUp (memory : Nat → α) (dest src next : Nat) : Nat → Nat → α
  | 0 => memory
  | left + 1 =>
      copyUp (Function.update memory (dest + next) (memory (src + next))) dest src (next + 1) left

/-- Copies the values at index `count - 1` down to 0 of the source. -/
def copyDown (memory : Nat → α) (dest src : Nat) : Nat → Nat → α
  | 0 => memory
  | last + 1 =>
      copyDown (Function.update memory (dest + last) (memory (src + last))) dest src last

/-- Copying upwards never reads a cell it has written when the destination is
not inside the part of the source still to be read. -/
theorem copyUp_apply {next left : Nat} (apart : dest ≤ src ∨ src + next + left ≤ dest)
    (address : Nat) :
    copyUp memory dest src next left address =
      if dest + next ≤ address ∧ address < dest + next + left
      then memory (src + (address - dest)) else memory address := by
  induction left generalizing memory next with
  | zero =>
      have outside : ¬(dest + next ≤ address ∧ address < dest + next + 0) := by omega
      rw [copyUp, if_neg outside]
  | succ left ih =>
      have stillApart : dest ≤ src ∨ src + (next + 1) + left ≤ dest := by omega
      rw [copyUp, ih stillApart]
      by_cases here : address = dest + next
      · have written : dest + next ≤ address ∧ address < dest + next + (left + 1) := by omega
        have notLater : ¬(dest + (next + 1) ≤ address ∧ address < dest + (next + 1) + left) := by omega
        rw [if_neg notLater, if_pos written, here, Function.update_self]
        congr 1
        omega
      · by_cases later : dest + (next + 1) ≤ address ∧ address < dest + (next + 1) + left
        · have written : dest + next ≤ address ∧ address < dest + next + (left + 1) := by omega
          have unread : src + (address - dest) ≠ dest + next := by omega
          rw [if_pos later, if_pos written, Function.update_of_ne unread]
        · have outside : ¬(dest + next ≤ address ∧ address < dest + next + (left + 1)) := by omega
          rw [if_neg later, if_neg outside, Function.update_of_ne here]

theorem copyDown_apply {count : Nat} (above : src ≤ dest) (address : Nat) :
    copyDown memory dest src count address =
      if dest ≤ address ∧ address < dest + count
      then memory (src + (address - dest)) else memory address := by
  induction count generalizing memory with
  | zero =>
      have outside : ¬(dest ≤ address ∧ address < dest + 0) := by omega
      rw [copyDown, if_neg outside]
  | succ last ih =>
      rw [copyDown, ih]
      by_cases later : dest ≤ address ∧ address < dest + last
      · have written : dest ≤ address ∧ address < dest + (last + 1) := by omega
        have unread : src + (address - dest) ≠ dest + last := by omega
        rw [if_pos later, if_pos written, Function.update_of_ne unread]
      · by_cases here : address = dest + last
        · have written : dest ≤ address ∧ address < dest + (last + 1) := by omega
          rw [if_neg later, if_pos written, here, Function.update_self, Nat.add_sub_cancel_left]
        · have outside : ¬(dest ≤ address ∧ address < dest + (last + 1)) := by omega
          rw [if_neg later, if_neg outside, Function.update_of_ne here]

/-! ## Moves

A move in progress: so far it has copied the source as it was at the start, and
touched nothing else.  Whether it goes upwards or downwards only decides which
end of the part copied so far moves on.
-/

section Move

variable {ι : Type*} {target source : Nat → ι} {before after : ι → α} {low high : Nat}

structure Moved (target source : Nat → ι) (before after : ι → α) (low high : Nat) : Prop where
  copied : ∀ i, low ≤ i → i < high → after (target i) = before (source i)
  frame : ∀ address, (∀ i, low ≤ i → i < high → address ≠ target i) → after address = before address

namespace Moved

theorem nothing : Moved target source before before low low :=
  ⟨fun _ above below => absurd below (Nat.not_lt_of_le above), fun _ _ => rfl⟩

variable [DecidableEq ι]

/-- One more element at the upper end, read where nothing has been written yet. -/
theorem up (moved : Moved target source before after low high) (ordered : low ≤ high)
    (fresh : ∀ i, low ≤ i → i < high → target i ≠ target high)
    (unread : ∀ i, low ≤ i → i < high → source high ≠ target i) :
    Moved target source before (Function.update after (target high) (after (source high))) low (high + 1) := by
  constructor
  · intro i above below
    rcases Nat.lt_succ_iff_lt_or_eq.mp below with earlier | rfl
    · rw [Function.update_of_ne (fresh i above earlier)]
      exact moved.copied i above earlier
    · rw [Function.update_self]
      exact moved.frame _ unread
  · intro address outside
    rw [Function.update_of_ne (outside high ordered (Nat.lt_succ_self high))]
    exact moved.frame address fun i above below => outside i above (Nat.lt_succ_of_lt below)

/-- One more element at the lower end. -/
theorem down (moved : Moved target source before after (low + 1) high) (ordered : low < high)
    (fresh : ∀ i, low < i → i < high → target i ≠ target low)
    (unread : ∀ i, low < i → i < high → source low ≠ target i) :
    Moved target source before (Function.update after (target low) (after (source low))) low high := by
  constructor
  · intro i above below
    rcases Nat.eq_or_lt_of_le above with rfl | later
    · rw [Function.update_self]
      exact moved.frame _ unread
    · rw [Function.update_of_ne (fresh i later below)]
      exact moved.copied i later below
  · intro address outside
    rw [Function.update_of_ne (outside low (Nat.le_refl low) ordered)]
    exact moved.frame address fun i above below => outside i (Nat.le_of_lt above) below

end Moved

end Move

end SyrFilter.Lib
