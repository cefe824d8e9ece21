import Mathlib.Data.List.Basic
import Mathlib.Data.List.Forall2

namespace SyrFilter.Lib

/-! # Message queues with slots of one size

A pool of slots, each either queued or free.  A send copies its message over
the front of a free slot and leaves what lies behind it; a receive hands out
the whole slot.  A queued slot therefore begins with its message, and is the
message only when the message fills it.
-/

variable {α β : Type*} {size : Nat}

structure Slot (α : Type*) (size : Nat) where
  cells : List α
  full : cells.length = size

/-- The message copied to the front of the slot. -/
def Slot.overwrite (slot : Slot α size) (message : List α) (fits : message.length ≤ size) :
    Slot α size where
  cells := message ++ slot.cells.drop message.length
  full := by rw [List.length_append, List.length_drop, slot.full, Nat.add_sub_cancel' fits]

structure Mailbox (α : Type*) (size : Nat) where
  queued : List (Slot α size)
  free : List (Slot α size)

namespace Mailbox

variable {mailbox rest : Mailbox α size} {message : List α}

def create (pool : List (Slot α size)) : Mailbox α size := { queued := [], free := pool.reverse }

/-- A message that is too long, or finds no free slot, is refused. -/
def send (mailbox : Mailbox α size) (message : List α) : Mailbox α size :=
  if fits : message.length ≤ size then
    match mailbox.free with
    | [] => mailbox
    | slot :: others => { queued := mailbox.queued ++ [slot.overwrite message fits], free := others }
  else mailbox

def recv (mailbox : Mailbox α size) : Option (List α × Mailbox α size) :=
  match mailbox.queued with
  | [] => none
  | slot :: others => some (slot.cells, { queued := others, free := slot :: mailbox.free })

def reset (mailbox : Mailbox α size) : Mailbox α size where
  queued := []
  free := mailbox.queued.foldl (fun free slot => slot :: free) mailbox.free

theorem length_queued_recv (received : mailbox.recv = some (message, rest)) :
    rest.queued.length < mailbox.queued.length := by
  rw [recv] at received
  split at received
  · cases received
  · rename_i slot others queued
    cases received
    rw [queued]
    exact Nat.lt_succ_self _

/-- Receives until there is nothing left: what came out, and the mailbox then. -/
def drain (mailbox : Mailbox α size) : List (List α) × Mailbox α size :=
  match _received : mailbox.recv with
  | none => ([], mailbox)
  | some (message, rest) =>
      let later := rest.drain
      (message :: later.1, later.2)
termination_by mailbox.queued.length
decreasing_by exact length_queued_recv _received

/-- The slots of the pool, wherever they are. -/
def slots (mailbox : Mailbox α size) : Nat := mailbox.queued.length + mailbox.free.length

theorem slots_send : (mailbox.send message).slots = mailbox.slots := by
  rw [send]
  split
  · split
    · rfl
    · rename_i slot others free
      simp only [slots, free, List.length_append, List.length_cons, List.length_nil]
      omega
  · rfl

theorem slots_reset : mailbox.reset.slots = mailbox.slots := by
  have pushed : ∀ (queued free : List (Slot α size)),
      (queued.foldl (fun free slot => slot :: free) free).length = queued.length + free.length := by
    intro queued
    induction queued with
    | nil => simp
    | cons slot others ih =>
        intro free
        rw [List.foldl_cons, ih, List.length_cons, List.length_cons]
        omega
  rw [slots, slots, reset, pushed]
  exact Nat.zero_add _

/-- Everything queued comes out in order, the slots whole. -/
theorem drain_eq :
    mailbox.drain.1 = mailbox.queued.map Slot.cells ∧ mailbox.drain.2.queued = [] ∧
      mailbox.drain.2.slots = mailbox.slots := by
  fun_induction drain mailbox with
  | case1 mailbox nothing =>
      rw [recv] at nothing
      split at nothing
      · rename_i queued
        exact ⟨by rw [queued]; rfl, queued, rfl⟩
      · cases nothing
  | case2 mailbox message rest received later ih =>
      obtain ⟨cells, empty, count⟩ := ih
      rw [recv] at received
      split at received
      · cases received
      · rename_i slot others queued
        cases received
        refine ⟨?_, empty, count.trans ?_⟩
        · rw [queued, List.map_cons, ← cells]
        · simp only [slots, queued, List.length_cons]
          omega

/-- The queued slots begin with the given messages, in the same order. -/
def Holds (mailbox : Mailbox α size) (messages : List (List α)) : Prop :=
  List.Forall₂ (fun message slot => message <+: slot.cells) messages mailbox.queued

theorem Holds.length {messages : List (List α)} (holds : mailbox.Holds messages) :
    messages.length = mailbox.queued.length := List.Forall₂.length_eq holds

theorem holds_of_empty (empty : mailbox.queued = []) : mailbox.Holds [] := by
  rw [Holds, empty]
  exact .nil

theorem Holds.send {messages : List (List α)} (holds : mailbox.Holds messages)
    (fits : message.length ≤ size) (room : messages.length < mailbox.slots) :
    (mailbox.send message).Holds (messages ++ [message]) := by
  rw [holds.length, slots] at room
  rw [Mailbox.send, dif_pos fits]
  split
  · rename_i none
    rw [none] at room
    exact absurd room (Nat.lt_irrefl _)
  · exact List.rel_append holds (.cons (List.prefix_append _ _) .nil)

/-- What is drained are the messages themselves only if there are none, as
long as no message fills its slot. -/
theorem Holds.drain_eq_iff {messages : List (List α)} (holds : mailbox.Holds messages)
    (short : ∀ message ∈ messages, message.length < size) :
    mailbox.drain.1.flatten = messages.flatten ↔ mailbox.queued = [] := by
  rw [drain_eq.1, ← List.flatMap_def]
  constructor
  · intro same
    have lengths := congrArg List.length same
    have slotsLong : ∀ queued : List (Slot α size),
        (queued.flatMap Slot.cells).length = queued.length * size := by
      intro queued
      induction queued with
      | nil => simp
      | cons slot others ih =>
          rw [List.flatMap_cons, List.length_append, ih, slot.full, List.length_cons, Nat.succ_mul, Nat.add_comm]
    have messagesShort : messages.flatten.length + messages.length ≤ messages.length * size := by
      clear holds same lengths
      induction messages with
      | nil => simp
      | cons message others ih =>
          have first := short message List.mem_cons_self
          have later := ih fun other member => short other (List.mem_cons_of_mem _ member)
          rw [List.flatten_cons, List.length_append, List.length_cons, Nat.succ_mul]
          omega
    rw [slotsLong, ← holds.length] at lengths
    have none : mailbox.queued.length = 0 := by
      rw [← holds.length]
      omega
    exact List.length_eq_zero_iff.mp none
  · intro empty
    have none := holds.length
    rw [empty] at none
    rw [empty, List.length_eq_zero_iff.mp none]
    rfl

end Mailbox

end SyrFilter.Lib
