import SyrFilter.Uart.Receiver

namespace SyrFilter.Uart

open SyrFilter.Lib

/-! # The WiFi receive ring as a queue

`wifi_uart_receive_input` and `Queue_Read_Byte` in any order, from
`wifi_protocol_init` on.  The fullness tests refuse a byte well before the
writer can meet the reader, so no byte that was accepted is lost.
-/

namespace Receiver

def wifiUartReceiveInput (receiver : Receiver) (value : UInt8) : Receiver :=
  { receiver with ring := receiver.ring.put rxSize processSize value }

def getQueueTotalData (receiver : Receiver) : UInt8 :=
  if receiver.ring.queueIn ≠ receiver.ring.queueOut then 1 else 0

theorem getQueueTotalData_eq_zero_iff {receiver : Receiver} :
    receiver.getQueueTotalData = 0 ↔ receiver.ring.queueIn = receiver.ring.queueOut := by
  by_cases same : receiver.ring.queueIn = receiver.ring.queueOut
  · simp [getQueueTotalData, same]
  · simp [getQueueTotalData, same]

theorem getQueueTotalData_eq_one_iff {receiver : Receiver} :
    receiver.getQueueTotalData = 1 ↔ receiver.ring.queueIn ≠ receiver.ring.queueOut := by
  by_cases same : receiver.ring.queueIn = receiver.ring.queueOut
  · simp [getQueueTotalData, same]
  · simp [getQueueTotalData, same]

end Receiver

/-- The receiver, the bytes its ring has accepted, and the bytes read from it
while it reported data; both oldest first. -/
structure Traffic where
  receiver : Receiver
  accepted : List UInt8
  returned : List UInt8

namespace Traffic

variable {traffic : Traffic} {access : Access UInt8}

def step (traffic : Traffic) : Access UInt8 → Traffic
  | .input value =>
      { traffic with
        receiver := traffic.receiver.wifiUartReceiveInput value
        accepted :=
          if traffic.receiver.ring.Accepts processSize then traffic.accepted ++ [value]
          else traffic.accepted }
  | .read =>
      { traffic with
        receiver := { traffic.receiver with ring := traffic.receiver.queueReadByte.2 }
        returned :=
          if traffic.receiver.getQueueTotalData = 1 then
            traffic.returned ++ [traffic.receiver.queueReadByte.1]
          else traffic.returned }

def start (cells buf : Nat → UInt8) : Traffic where
  receiver := wifiProtocolInit cells buf
  accepted := []
  returned := []

/-- What holds between two calls. -/
structure Faithful (traffic : Traffic) : Prop where
  inOrder : traffic.accepted = traffic.returned ++ traffic.receiver.ring.contents rxSize
  empty_iff : traffic.receiver.getQueueTotalData = 0 ↔ traffic.accepted = traffic.returned
  queueIn_le : traffic.receiver.ring.queueIn ≤ rxSize
  queueOut_le : traffic.receiver.ring.queueOut ≤ rxSize

/-- What a call does: it leaves every unread byte where it is, an input is
refused only with 1207 bytes unread, and a read returns the oldest of them. -/
def Careful (traffic : Traffic) (access : Access UInt8) : Prop :=
  (∀ index, traffic.receiver.ring.Unread rxSize index →
    (traffic.step access).receiver.ring.cells index = traffic.receiver.ring.cells index) ∧
  match access with
  | .input _ =>
      ¬traffic.receiver.ring.Accepts processSize →
        1207 ≤ traffic.accepted.length - traffic.returned.length
  | .read =>
      traffic.receiver.getQueueTotalData = 1 →
        traffic.accepted[traffic.returned.length]? = some traffic.receiver.queueReadByte.1

/-! ## As a traced ring -/

def traced (traffic : Traffic) : Traced UInt8 :=
  ⟨traffic.receiver.ring, traffic.accepted, traffic.returned⟩

theorem traced_step : (traffic.step access).traced = traffic.traced.step rxSize processSize access := by
  cases access with
  | input value => rfl
  | read =>
      by_cases filled : traffic.receiver.ring.queueOut ≠ traffic.receiver.ring.queueIn
      · have reports := Receiver.getQueueTotalData_eq_one_iff.mpr filled.symm
        simp only [step, traced, Traced.step, Receiver.queueReadByte, if_pos filled, if_pos reports]
        exact (if_pos filled).symm
      · have silent : ¬traffic.receiver.getQueueTotalData = 1 := fun reports =>
          filled (Receiver.getQueueTotalData_eq_one_iff.mp reports).symm
        simp only [step, traced, Traced.step, Receiver.queueReadByte, if_neg filled, if_neg silent]
        exact (if_neg filled).symm

structure Sound (traffic : Traffic) : Prop where
  wellFormed : traffic.receiver.ring.WellFormed rxSize
  ordered : traffic.traced.Ordered rxSize

theorem start_sound (cells buf : Nat → UInt8) : (start cells buf).Sound :=
  ⟨⟨Nat.zero_le _, Nat.zero_le _, fun behind => behind⟩, rfl⟩

theorem step_sound (sound : traffic.Sound) : (traffic.step access).Sound := by
  have wellFormed : traffic.traced.ring.WellFormed rxSize := sound.wellFormed
  have notLapping : ¬traffic.traced.Laps rxSize processSize access := by
    cases access with
    | input value =>
        rintro ⟨lapping, accepts⟩
        exact RingBuffer.not_lapping (by decide) accepts lapping
    | read => exact fun laps => laps
  refine ⟨?_, ?_⟩
  · change (traffic.step access).traced.ring.WellFormed rxSize
    rw [traced_step]
    exact Traced.step_wellFormed (by decide) wellFormed
  · rw [traced_step]
    exact Traced.step_ordered (by decide) (by decide) wellFormed sound.ordered notLapping

theorem Sound.faithful (sound : traffic.Sound) : traffic.Faithful where
  inOrder := sound.ordered
  empty_iff := Receiver.getQueueTotalData_eq_zero_iff.trans
    (Traced.empty_iff sound.wellFormed sound.ordered)
  queueIn_le := sound.wellFormed.queueIn_le
  queueOut_le := sound.wellFormed.queueOut_le

theorem Sound.careful (sound : traffic.Sound) : traffic.Careful access := by
  have inOrder := sound.faithful.inOrder
  cases access with
  | input value =>
      refine ⟨fun index unread => RingBuffer.put_keeps_unread (by decide) sound.wellFormed unread, ?_⟩
      intro refused
      have many := RingBuffer.length_contents_of_refused sound.wellFormed (by decide) refused
      rw [inOrder, List.length_append, Nat.add_sub_cancel_left]
      exact many
  | read =>
      refine ⟨fun index _ => ?_, ?_⟩
      · simp only [step, Receiver.queueReadByte]
        split
        · rfl
        · rfl
      · intro reports
        have filled := Receiver.getQueueTotalData_eq_one_iff.mp reports
        have oldest := Traced.next_eq_take sound.wellFormed sound.ordered filled
        rw [Receiver.queueReadByte, if_pos filled.symm]
        exact oldest

end Traffic

/-- The ring is a bounded queue, whatever the order of the calls: bytes come
out as they went in, none is overwritten or forgotten, and none is refused
while fewer than 1207 are unread. -/
theorem wifiRing_isFifo (cells buf : Nat → UInt8) (accesses : List (Access UInt8)) :
    Throughout Traffic.step Traffic.Faithful (Traffic.start cells buf) accesses ∧
      EachStep Traffic.step Traffic.Careful (Traffic.start cells buf) accesses := by
  have sound : Throughout Traffic.step Traffic.Sound (Traffic.start cells buf) accesses :=
    throughout_of_step (Traffic.start_sound cells buf) fun _ _ sound => Traffic.step_sound sound
  exact ⟨fun count => (sound count).faithful, fun count _ _ => (sound count).careful⟩

end SyrFilter.Uart
