import SyrFilter.Tds.Receiver

namespace SyrFilter.Tds

open SyrFilter.Lib

/-! # The sensor's receive ring

The ring has as many cells as the fullness test allows bytes.  With one byte of
the lap read and the writer one past the end, 74 bytes are unread and the test
still lets the next one in: the writer wraps, meets the reader, and all 75
bytes are gone.  In every other state the ring is a queue.
-/

/-- The receiver, the bytes its ring has accepted, and the bytes read from it
while it reported data; both oldest first. -/
structure Traffic where
  receiver : Receiver
  accepted : List UInt8
  returned : List UInt8

namespace Traffic

variable {traffic : Traffic} {access : Access UInt8}

def step (traffic : Traffic) : Access UInt8 → Traffic
  | .input value =>
      { traffic with
        receiver := traffic.receiver.tdsUartReceiveInput value
        accepted :=
          if traffic.receiver.ring.Accepts bufSize then traffic.accepted ++ [value]
          else traffic.accepted }
  | .read =>
      { traffic with
        receiver := { traffic.receiver with ring := traffic.receiver.queueReadByte.2 }
        returned :=
          if 0 < traffic.receiver.getQueueTotalData then
            traffic.returned ++ [traffic.receiver.queueReadByte.1]
          else traffic.returned }

def start (cells buf : Nat → UInt8) : Traffic where
  receiver := tdsServiceInit cells buf
  accepted := []
  returned := []

/-- What holds of a queue between two calls: nothing accepted is forgotten. -/
structure Faithful (traffic : Traffic) : Prop where
  inOrder : traffic.accepted = traffic.returned ++ traffic.receiver.ring.contents bufSize
  empty_iff : traffic.receiver.getQueueTotalData = 0 ↔ traffic.accepted = traffic.returned

/-- A call leaves every unread byte where it is, and a read returns the oldest. -/
def Careful (traffic : Traffic) (access : Access UInt8) : Prop :=
  (∀ index, traffic.receiver.ring.Unread bufSize index →
    (traffic.step access).receiver.ring.cells index = traffic.receiver.ring.cells index) ∧
  (access = .read → 0 < traffic.receiver.getQueueTotalData →
    traffic.accepted[traffic.returned.length]? = some traffic.receiver.queueReadByte.1)

/-- No byte arrives with the writer one past the end and the reader at the second cell. -/
def Clear (traffic : Traffic) : Access UInt8 → Prop
  | .input _ => ¬(traffic.receiver.ring.queueIn = bufSize ∧ traffic.receiver.ring.queueOut = 1)
  | .read => True

/-! ## As a traced ring -/

def traced (traffic : Traffic) : Traced UInt8 :=
  ⟨traffic.receiver.ring, traffic.accepted, traffic.returned⟩

theorem traced_step : (traffic.step access).traced = traffic.traced.step bufSize bufSize access := by
  cases access with
  | input value => rfl
  | read =>
      by_cases filled : traffic.receiver.ring.queueOut ≠ traffic.receiver.ring.queueIn
      · have reports := Receiver.getQueueTotalData_pos_iff.mpr filled.symm
        simp only [step, traced, Traced.step, Receiver.queueReadByte, if_pos filled, if_pos reports]
        exact (if_pos filled).symm
      · have silent : ¬0 < traffic.receiver.getQueueTotalData := fun reports =>
          filled (Receiver.getQueueTotalData_pos_iff.mp reports).symm
        simp only [step, traced, Traced.step, Receiver.queueReadByte, if_neg filled, if_neg silent]
        exact (if_neg filled).symm

def WellFormed (traffic : Traffic) : Prop := traffic.traced.ring.WellFormed bufSize

theorem start_wellFormed (cells buf : Nat → UInt8) : (start cells buf).WellFormed :=
  ⟨Nat.zero_le _, Nat.zero_le _, fun behind => behind⟩

theorem step_wellFormed (wellFormed : traffic.WellFormed) : (traffic.step access).WellFormed := by
  rw [WellFormed, traced_step]
  exact Traced.step_wellFormed (by decide) wellFormed

theorem faithful_iff (wellFormed : traffic.WellFormed) :
    traffic.Faithful ↔ traffic.traced.Ordered bufSize := by
  constructor
  · intro faithful
    exact faithful.inOrder
  · intro ordered
    have empty := @Traced.empty_iff _ bufSize traffic.traced wellFormed ordered
    exact ⟨ordered, Receiver.getQueueTotalData_eq_zero_iff.trans empty⟩

/-- Where the writer meets the reader the fullness test lets the byte in. -/
theorem clear_iff : traffic.Clear access ↔ ¬traffic.traced.Laps bufSize bufSize access := by
  cases access with
  | input value =>
      refine not_congr ⟨fun meets => ⟨meets, ?_⟩, fun laps => laps.1⟩
      obtain ⟨atEnd, second⟩ := meets
      simp only [traced, RingBuffer.Accepts, atEnd, second, bufSize]
      omega
  | read => exact iff_of_true trivial not_false

theorem step_faithful_iff (wellFormed : traffic.WellFormed) (faithful : traffic.Faithful) :
    (traffic.step access).Faithful ↔ traffic.Clear access := by
  have ordered := (faithful_iff wellFormed).mp faithful
  rw [faithful_iff (step_wellFormed wellFormed), traced_step, clear_iff]
  constructor
  · intro after laps
    have nonempty : 0 < bufSize := by decide
    exact Traced.not_ordered_of_laps nonempty wellFormed ordered laps after
  · exact Traced.step_ordered (by decide) (by decide) wellFormed ordered

theorem Faithful.careful (wellFormed : traffic.WellFormed) (faithful : traffic.Faithful) :
    traffic.Careful access := by
  cases access with
  | input value =>
      refine ⟨fun index unread => RingBuffer.put_keeps_unread (by decide) wellFormed unread, ?_⟩
      rintro ⟨⟩
  | read =>
      refine ⟨fun index _ => ?_, ?_⟩
      · simp only [step, Receiver.queueReadByte]
        split
        · rfl
        · rfl
      · intro _ reports
        have filled := Receiver.getQueueTotalData_pos_iff.mp reports
        have oldest := Traced.next_eq_take wellFormed faithful.inOrder filled
        rw [Receiver.queueReadByte, if_pos filled.symm]
        exact oldest

end Traffic

/-- The ring is a queue over a whole run exactly when no byte arrives while
the writer is about to wrap onto the reader. -/
theorem tdsRing_isFifo_iff (cells buf : Nat → UInt8) (accesses : List (Access UInt8)) :
    (Throughout Traffic.step Traffic.Faithful (Traffic.start cells buf) accesses ∧
        EachStep Traffic.step Traffic.Careful (Traffic.start cells buf) accesses) ↔
      EachStep Traffic.step Traffic.Clear (Traffic.start cells buf) accesses := by
  have initial := Traffic.start_wellFormed cells buf
  apply throughout_and_eachStep_iff Traffic.WellFormed initial ((Traffic.faithful_iff initial).mpr rfl)
  · intro traffic access wellFormed _ _
    exact Traffic.step_wellFormed wellFormed
  · intro traffic access wellFormed faithful
    rw [Traffic.step_faithful_iff wellFormed faithful]
    exact and_iff_left (faithful.careful wellFormed)

/-- Seventy-five bytes arrive, one is read, and one more arrives. -/
def lappingRun : List (Access UInt8) := List.replicate 75 (.input 1) ++ [.read, .input 2]

theorem tdsRing_forgets :
    ¬(Throughout Traffic.step Traffic.Faithful (Traffic.start (fun _ => 0) fun _ => 0) lappingRun ∧
      EachStep Traffic.step Traffic.Careful (Traffic.start (fun _ => 0) fun _ => 0) lappingRun) := by
  rintro ⟨faithful, -⟩
  have last := faithful.last.empty_iff
  revert last
  decide +kernel

end SyrFilter.Tds
