import SyrFilter.Lib.Memory

namespace SyrFilter.Lib

/-! # A ring buffer with lazily wrapped pointers

Both pointers run from the start of the cells to one past their end, and the
one past the end moves back only when it is next used.  Equal pointers mean an
empty ring.  A value is refused when the reader is one cell ahead of the
writer, or when the writer is `limit` cells ahead of the reader.  The ring
behaves as a queue unless the writer wraps onto a reader that has taken one
value of the current lap, which a `limit` that leaves two cells free rules out.
-/

variable {α : Type*}

structure RingBuffer (α : Type*) where
  cells : Nat → α
  queueIn : Nat
  queueOut : Nat

namespace RingBuffer

variable {size limit : Nat} {ring : RingBuffer α} {value : α}

def Accepts (limit : Nat) (ring : RingBuffer α) : Prop :=
  ring.queueOut ≠ ring.queueIn + 1 ∧
    ¬(ring.queueOut < ring.queueIn ∧ limit ≤ ring.queueIn - ring.queueOut)

instance : Decidable (ring.Accepts limit) := inferInstanceAs (Decidable (_ ∧ _))

/-- A pointer as it is used: one past the end means the start. -/
def wrap (size pointer : Nat) : Nat := if size ≤ pointer then 0 else pointer

def put (size limit : Nat) (ring : RingBuffer α) (value : α) : RingBuffer α :=
  if ring.Accepts limit then
    { ring with
      cells := Function.update ring.cells (wrap size ring.queueIn) value
      queueIn := wrap size ring.queueIn + 1 }
  else ring

/-- The next value and the ring without it; only used when the ring is not empty. -/
def take (size : Nat) (ring : RingBuffer α) : α × RingBuffer α :=
  (ring.cells (wrap size ring.queueOut), { ring with queueOut := wrap size ring.queueOut + 1 })

def contents (size : Nat) (ring : RingBuffer α) : List α :=
  if ring.queueOut ≤ ring.queueIn then
    window ring.cells ring.queueOut (ring.queueIn - ring.queueOut)
  else
    window ring.cells ring.queueOut (size - ring.queueOut) ++ window ring.cells 0 ring.queueIn

/-- Both pointers are within the cells, and a writer behind the reader has
written since it wrapped. -/
structure WellFormed (size : Nat) (ring : RingBuffer α) : Prop where
  queueIn_le : ring.queueIn ≤ size
  queueOut_le : ring.queueOut ≤ size
  wrapped : ring.queueIn < ring.queueOut → 0 < ring.queueIn

theorem contents_eq_nil_iff (wellFormed : ring.WellFormed size) :
    ring.contents size = [] ↔ ring.queueIn = ring.queueOut := by
  have ahead := wellFormed.wrapped
  rw [← List.length_eq_zero_iff, contents]
  split
  · rw [length_window]
    omega
  · rw [List.length_append, length_window, length_window]
    omega

/-- The writer is about to wrap, and would meet the reader. -/
def Lapping (size : Nat) (ring : RingBuffer α) : Prop := ring.queueIn = size ∧ ring.queueOut = 1

theorem not_lapping (room : limit + 2 ≤ size) (accepts : ring.Accepts limit) :
    ¬ring.Lapping size := by
  rintro ⟨atEnd, behind⟩
  have notFar := accepts.2
  omega

theorem put_wellFormed (nonempty : 0 < size) (wellFormed : ring.WellFormed size) :
    (ring.put size limit value).WellFormed size := by
  have inLe := wellFormed.queueIn_le
  rw [put]
  split
  · refine ⟨?_, wellFormed.queueOut_le, fun _ => Nat.succ_pos _⟩
    rw [wrap]
    dsimp only
    split <;> omega
  · exact wellFormed

/-- An accepted value joins the queue at its end and overwrites nothing. -/
theorem contents_put (nonempty : 0 < size) (limited : limit ≤ size)
    (wellFormed : ring.WellFormed size) (accepts : ring.Accepts limit)
    (notLapping : ¬ring.Lapping size) :
    (ring.put size limit value).contents size = ring.contents size ++ [value] := by
  obtain ⟨inLe, outLe, ahead⟩ := wellFormed
  have fits := accepts
  obtain ⟨notBehind, notFar⟩ := fits
  rw [put, if_pos accepts]
  by_cases atEnd : size ≤ ring.queueIn
  · -- The writer wraps: the oldest value is at address 2 or later.
    have wraps : wrap size ring.queueIn = 0 := if_pos atEnd
    have before : ring.queueOut ≤ ring.queueIn := by omega
    have filled : ring.queueIn = size := by omega
    have notNext : ring.queueOut ≠ 1 := fun next => notLapping ⟨filled, next⟩
    have after : ¬ring.queueOut ≤ 0 + 1 := by omega
    have untouched : window (Function.update ring.cells 0 value) ring.queueOut (size - ring.queueOut) =
        window ring.cells ring.queueOut (size - ring.queueOut) := window_update value (by omega)
    simp only [contents, wraps]
    rw [if_pos before, if_neg after, untouched, filled, window_snoc, Function.update_self]
    rfl
  · have stays : wrap size ring.queueIn = ring.queueIn := if_neg atEnd
    simp only [contents, stays]
    by_cases before : ring.queueOut ≤ ring.queueIn
    · have later : ring.queueOut ≤ ring.queueIn + 1 := by omega
      have untouched : window (Function.update ring.cells ring.queueIn value) ring.queueOut
          (ring.queueIn - ring.queueOut) =
          window ring.cells ring.queueOut (ring.queueIn - ring.queueOut) :=
        window_update value (by omega)
      have longer : ring.queueIn + 1 - ring.queueOut = ring.queueIn - ring.queueOut + 1 := by omega
      have last : ring.queueOut + (ring.queueIn - ring.queueOut) = ring.queueIn := by omega
      rw [if_pos later, if_pos before, longer, window_snoc, untouched, last, Function.update_self]
    · have stillBehind : ¬ring.queueOut ≤ ring.queueIn + 1 := by omega
      have oldUntouched : window (Function.update ring.cells ring.queueIn value) ring.queueOut
          (size - ring.queueOut) = window ring.cells ring.queueOut (size - ring.queueOut) :=
        window_update value (by omega)
      have newUntouched : window (Function.update ring.cells ring.queueIn value) 0 ring.queueIn =
          window ring.cells 0 ring.queueIn := window_update value (by omega)
      rw [if_neg stillBehind, if_neg before, window_snoc, oldUntouched, newUntouched,
        Nat.zero_add, Function.update_self, List.append_assoc]

theorem take_wellFormed (wellFormed : ring.WellFormed size) (filled : ring.queueIn ≠ ring.queueOut) :
    (ring.take size).2.WellFormed size := by
  obtain ⟨inLe, outLe, ahead⟩ := wellFormed
  rw [take, wrap]
  refine ⟨inLe, ?_, ?_⟩
  · dsimp only
    split <;> omega
  · dsimp only
    split <;> omega

theorem contents_take (wellFormed : ring.WellFormed size) (filled : ring.queueIn ≠ ring.queueOut) :
    ring.contents size = (ring.take size).1 :: (ring.take size).2.contents size := by
  obtain ⟨inLe, outLe, ahead⟩ := wellFormed
  by_cases atEnd : size ≤ ring.queueOut
  · have wraps : wrap size ring.queueOut = 0 := if_pos atEnd
    have behind : ¬ring.queueOut ≤ ring.queueIn := by omega
    have ready : 0 + 1 ≤ ring.queueIn := by omega
    have empty : size - ring.queueOut = 0 := by omega
    have count : ring.queueIn = ring.queueIn - (0 + 1) + 1 := by omega
    simp only [take, contents, wraps]
    rw [if_neg behind, if_pos ready, empty, window_zero, List.nil_append]
    conv_lhs => rw [count, window_cons]
  · have stays : wrap size ring.queueOut = ring.queueOut := if_neg atEnd
    simp only [take, contents, stays]
    by_cases before : ring.queueOut ≤ ring.queueIn
    · have ready : ring.queueOut + 1 ≤ ring.queueIn := by omega
      have count : ring.queueIn - ring.queueOut = ring.queueIn - (ring.queueOut + 1) + 1 := by omega
      rw [if_pos before, if_pos ready, count, window_cons]
    · have behind : ¬ring.queueOut + 1 ≤ ring.queueIn := by omega
      have count : size - ring.queueOut = size - (ring.queueOut + 1) + 1 := by omega
      rw [if_neg before, if_neg behind, count, window_cons, List.cons_append]

/-- The cells between the reader and the writer. -/
def Unread (size : Nat) (ring : RingBuffer α) (index : Nat) : Prop :=
  if ring.queueOut ≤ ring.queueIn then ring.queueOut ≤ index ∧ index < ring.queueIn
  else ring.queueOut ≤ index ∧ index < size ∨ index < ring.queueIn

theorem put_keeps_unread (limited : limit ≤ size) (wellFormed : ring.WellFormed size) {index : Nat}
    (unread : ring.Unread size index) :
    (ring.put size limit value).cells index = ring.cells index := by
  obtain ⟨inLe, outLe, ahead⟩ := wellFormed
  rw [put]
  split
  · rename_i accepts
    obtain ⟨notBehind, notFar⟩ := accepts
    apply Function.update_of_ne
    rw [wrap]
    rw [Unread] at unread
    split at unread
    · split <;> omega
    · split <;> omega
  · rfl

theorem length_contents_of_refused (wellFormed : ring.WellFormed size) (limited : limit < size)
    (refused : ¬ring.Accepts limit) : limit ≤ (ring.contents size).length := by
  obtain ⟨inLe, outLe, ahead⟩ := wellFormed
  rw [Accepts, not_and_or, not_not, not_not] at refused
  rw [contents]
  split
  · rw [length_window]
    omega
  · rw [List.length_append, length_window, length_window]
    omega

end RingBuffer

/-! ## Histories

A ring together with what it has accepted and what has been taken from it.
-/

inductive Access (α : Type*) where
  | input (value : α)
  | read

structure Traced (α : Type*) where
  ring : RingBuffer α
  accepted : List α
  returned : List α

namespace Traced

open RingBuffer

variable {size limit : Nat} {traced : Traced α} {access : Access α}

def step (size limit : Nat) (traced : Traced α) : Access α → Traced α
  | .input value =>
      { traced with
        ring := traced.ring.put size limit value
        accepted := if traced.ring.Accepts limit then traced.accepted ++ [value] else traced.accepted }
  | .read =>
      if traced.ring.queueOut ≠ traced.ring.queueIn then
        { traced with
          ring := (traced.ring.take size).2
          returned := traced.returned ++ [(traced.ring.take size).1] }
      else traced

/-- First in, first out: what was accepted has been returned, in order, or waits in the ring. -/
def Ordered (size : Nat) (traced : Traced α) : Prop :=
  traced.accepted = traced.returned ++ traced.ring.contents size

/-- A value arrives although it makes the ring forget all it holds. -/
def Laps (size limit : Nat) (traced : Traced α) : Access α → Prop
  | .input _ => traced.ring.Lapping size ∧ traced.ring.Accepts limit
  | .read => False

theorem step_wellFormed (nonempty : 0 < size) (wellFormed : traced.ring.WellFormed size) :
    (traced.step size limit access).ring.WellFormed size := by
  cases access with
  | input value => exact put_wellFormed nonempty wellFormed
  | read =>
      rw [step]
      split
      · rename_i filled
        exact take_wellFormed wellFormed filled.symm
      · exact wellFormed

theorem empty_iff (wellFormed : traced.ring.WellFormed size) (ordered : traced.Ordered size) :
    traced.ring.queueIn = traced.ring.queueOut ↔ traced.accepted = traced.returned := by
  rw [← contents_eq_nil_iff wellFormed, ordered, List.append_right_eq_self]

theorem next_eq_take (wellFormed : traced.ring.WellFormed size) (ordered : traced.Ordered size)
    (filled : traced.ring.queueIn ≠ traced.ring.queueOut) :
    traced.accepted[traced.returned.length]? = some (traced.ring.take size).1 := by
  rw [ordered, contents_take wellFormed filled]
  simp

theorem step_ordered (nonempty : 0 < size) (limited : limit ≤ size)
    (wellFormed : traced.ring.WellFormed size) (ordered : traced.Ordered size)
    (notLapping : ¬traced.Laps size limit access) :
    (traced.step size limit access).Ordered size := by
  cases access with
  | input value =>
      by_cases accepts : traced.ring.Accepts limit
      · have distinct : ¬traced.ring.Lapping size := fun lapping => notLapping ⟨lapping, accepts⟩
        simp only [step, Ordered, if_pos accepts]
        rw [contents_put nonempty limited wellFormed accepts distinct, ordered, List.append_assoc]
      · simp only [step, Ordered, put, if_neg accepts]
        exact ordered
  | read =>
      by_cases filled : traced.ring.queueOut ≠ traced.ring.queueIn
      · simp only [step, Ordered, if_pos filled]
        rw [ordered, contents_take wellFormed filled.symm, List.append_assoc, List.singleton_append]
      · simp only [step, if_neg filled]
        exact ordered

/-- A lap loses everything: the ring then looks empty with values outstanding. -/
theorem not_ordered_of_laps (nonempty : 0 < size) (wellFormed : traced.ring.WellFormed size)
    (ordered : traced.Ordered size) (laps : traced.Laps size limit access) :
    ¬(traced.step size limit access).Ordered size := by
  cases access with
  | input value =>
      obtain ⟨⟨atEnd, behind⟩, accepts⟩ := laps
      have wraps : wrap size traced.ring.queueIn = 0 := if_pos (by omega)
      intro after
      have same : (traced.step size limit (.input value)).ring.queueIn =
          (traced.step size limit (.input value)).ring.queueOut := by
        simp only [step, put, if_pos accepts, wraps, behind]
      have all := (empty_iff (step_wellFormed nonempty wellFormed) after).mp same
      simp only [step, if_pos accepts] at all
      have longer := congrArg List.length ordered
      have equal := congrArg List.length all
      simp only [List.length_append, List.length_singleton] at longer equal
      omega
  | read => exact laps.elim

end Traced

end SyrFilter.Lib
