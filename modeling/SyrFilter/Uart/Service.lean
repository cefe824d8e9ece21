import SyrFilter.Uart.Scan

namespace SyrFilter.Uart

open SyrFilter.Lib

/-! # One call of `wifi_uart_service`

The call takes what fits from the ring, scans buffer and new bytes together,
and moves what is left to the start of the buffer.
-/

def Dispatch.bytes (dispatch : Dispatch) : List UInt8 :=
  frameBytes (fun index => dispatch.buf index.toNat) dispatch.offset

theorem processByte_of_lt {buf : Nat → UInt8} {around : Int → UInt8} {index : Nat}
    (inside : index < processSize) : processByte buf around index = buf index := by
  have bounds : (0 : Int) ≤ index ∧ (index : Int) < processSize := by omega
  rw [processByte, if_pos bounds, Int.toNat_natCast]

theorem window_processByte {buf : Nat → UInt8} {around : Int → UInt8} {start count : Nat}
    (inside : start + count ≤ processSize) :
    window (fun index : Nat => processByte buf around index) start count = window buf start count := by
  apply window_congr
  intro i below
  exact processByte_of_lt (by omega)

theorem bytes_dispatch {buf : Nat → UInt8} {around : Int → UInt8} {start : Nat}
    (head : start + protocolHead ≤ processSize)
    (inside : start + rxValueLen (processByte buf around) start ≤ processSize) :
    (Dispatch.mk buf start).bytes = frameBytes (processByte buf around) start := by
  have length : rxValueLen (fun index => buf index.toNat) start =
      rxValueLen (processByte buf around) start := by
    rw [protocolHead] at head
    have high : processByte buf around (start + 4 : Nat) = buf (start + 4) :=
      processByte_of_lt (by omega)
    have low : processByte buf around (start + 5 : Nat) = buf (start + 5) :=
      processByte_of_lt (by omega)
    rw [Int.natCast_add] at high low
    have highIndex : ((start : Int) + 4).toNat = start + 4 := by omega
    have lowIndex : ((start : Int) + 5).toNat = start + 5 := by omega
    rw [rxValueLen, rxValueLen, highIndex, lowIndex, ← high, ← low]
    rfl
  rw [Dispatch.bytes, frameBytes, frameBytes, length, window_processByte inside]
  rfl

theorem window_myMemcpy {memory : Nat → UInt8} {src count : Nat} :
    window (myMemcpy memory 0 src count) 0 count = window memory src count := by
  have upward : 0 ≤ src ∨ src + count < 0 := Or.inl (Nat.zero_le src)
  have reads : ∀ i, i < count → myMemcpy memory 0 src count (0 + i) = memory (src + i) := by
    intro i below
    rw [myMemcpy, if_pos upward, copyUp_apply (Or.inl (Nat.zero_le src)), if_pos (by omega)]
    congr 1
    omega
  apply List.map_congr_left
  intro i member
  exact reads i (List.mem_range.mp member)

theorem window_moved {buf : Nat → UInt8} {src count : Nat} :
    window (if 0 < count then myMemcpy buf 0 src count else buf) 0 count = window buf src count := by
  split
  · exact window_myMemcpy
  · have empty : count = 0 := by omega
    rw [empty]
    rfl

namespace Receiver

variable {receiver : Receiver}

/-- The pointers of the ring and of the buffer are in range. -/
structure Sound (receiver : Receiver) : Prop where
  ring : receiver.ring.WellFormed rxSize
  rxIn_le : receiver.rxIn ≤ processSize

def waiting (receiver : Receiver) : List UInt8 := receiver.ring.contents rxSize

def residue (receiver : Receiver) : List UInt8 := window receiver.buf 0 receiver.rxIn

def scanned (receiver : Receiver) : List UInt8 :=
  receiver.residue ++ receiver.waiting.take (processSize - receiver.rxIn)

/-- The fill loop appends the oldest waiting bytes to the residue. -/
structure Filled (room : Nat) (before after : Receiver) : Prop where
  ring : after.ring.WellFormed rxSize
  rxIn_le : after.rxIn ≤ before.rxIn + room
  residue : after.residue = before.residue ++ before.waiting.take room
  waiting : after.waiting = before.waiting.drop room
  handled : after.handled = before.handled
  hung : after.hung = before.hung

theorem fill_filled (room : Nat) (wellFormed : receiver.ring.WellFormed rxSize) :
    Filled room receiver (receiver.fill room) := by
  induction room generalizing receiver with
  | zero => exact ⟨wellFormed, Nat.le_refl _, by simp [fill], by simp [fill], rfl, rfl⟩
  | succ room ih =>
      by_cases empty : receiver.ring.queueIn = receiver.ring.queueOut
      · have nothing : receiver.waiting = [] := (RingBuffer.contents_eq_nil_iff wellFormed).mpr empty
        rw [fill, if_neg (not_not_intro empty)]
        exact ⟨wellFormed, by omega, by simp [nothing], by simp [nothing], rfl, rfl⟩
      · have read : receiver.queueReadByte = receiver.ring.take rxSize := if_pos (Ne.symm empty)
        have oldest : receiver.waiting = _ := RingBuffer.contents_take wellFormed empty
        rw [fill, if_pos empty, read]
        have next := @ih
          { receiver with
            buf := Function.update receiver.buf receiver.rxIn (receiver.ring.take rxSize).1
            ring := (receiver.ring.take rxSize).2
            rxIn := receiver.rxIn + 1 }
          (RingBuffer.take_wellFormed wellFormed empty)
        have stored : window (Function.update receiver.buf receiver.rxIn (receiver.ring.take rxSize).1)
            0 (receiver.rxIn + 1) = receiver.residue ++ [(receiver.ring.take rxSize).1] := by
          rw [window_snoc, window_update _ (by omega), Nat.zero_add, Function.update_self]
          rfl
        refine ⟨next.ring, ?_, ?_, ?_, next.handled, next.hung⟩
        · have bound := next.rxIn_le
          dsimp only at bound
          omega
        · rw [next.residue, oldest]
          simp only [residue, waiting, stored, List.take_succ_cons, List.append_assoc,
            List.cons_append, List.nil_append]
        · rw [next.waiting, oldest]
          rfl

theorem filled_spec (sound : receiver.Sound) :
    Filled (processSize - receiver.rxIn) receiver receiver.filled :=
  fill_filled _ sound.ring

theorem rxIn_filled_le (sound : receiver.Sound) : receiver.filled.rxIn ≤ processSize := by
  have bound := (filled_spec sound).rxIn_le
  have inRange := sound.rxIn_le
  omega

theorem fetch_hung (receiver : Receiver) : receiver.fetch.hung = receiver.hung := by
  rw [fetch]
  split
  · rw [fill]
    split <;> rfl
  · rfl

/-- The fill loop is so many rounds. -/
theorem fill_eq_iterate (room : Nat) (inRange : receiver.rxIn + room ≤ processSize) :
    receiver.fill room = Nat.iterate fetch room receiver := by
  induction room generalizing receiver with
  | zero => rfl
  | succ room ih =>
      rw [Function.iterate_succ_apply, fetch, if_pos (by omega)]
      by_cases empty : receiver.ring.queueIn = receiver.ring.queueOut
      · have still : receiver.fill 1 = receiver := by rw [fill, if_neg (not_not_intro empty)]
        have stops : receiver.fill room = receiver := by
          cases room with
          | zero => rfl
          | succ room => rw [fill, if_neg (not_not_intro empty)]
        rw [still, ← ih (by omega), stops, fill, if_neg (not_not_intro empty)]
      · rw [fill, if_pos empty, fill, if_pos empty, fill]
        exact ih (by dsimp only; omega)

theorem filled_eq_iterate (sound : receiver.Sound) :
    receiver.filled = Nat.iterate fetch (processSize - receiver.rxIn) receiver := by
  have inRange := sound.rxIn_le
  exact fill_eq_iterate _ (by omega)

theorem filled_sound (sound : receiver.Sound) : receiver.filled.Sound :=
  ⟨(filled_spec sound).ring, rxIn_filled_le sound⟩

theorem residue_filled (sound : receiver.Sound) : receiver.filled.residue = receiver.scanned :=
  (filled_spec sound).residue

theorem pending_residue (inRange : receiver.rxIn ≤ processSize) (around : Int → UInt8) :
    pending (processByte receiver.buf around) receiver.rxIn 0 = receiver.residue := by
  rw [pending, Nat.sub_zero, window_processByte (by omega)]
  rfl

theorem scanBuffer_sound (sound : receiver.Sound) (around : Int → UInt8) : (receiver.scanBuffer around).Sound := by
  rw [scanBuffer]
  split
  · exact sound
  · split
    · exact ⟨sound.ring, sound.rxIn_le⟩
    · exact ⟨sound.ring, Nat.le_trans (Nat.sub_le _ _) sound.rxIn_le⟩

theorem wifiUartService_sound (sound : receiver.Sound) (around : Int → UInt8) :
    (receiver.wifiUartService around).Sound :=
  scanBuffer_sound (filled_sound sound) around

theorem step_sound (sound : receiver.Sound) (event : Event) : (receiver.step event).Sound := by
  cases event with
  | receive value => exact ⟨RingBuffer.put_wellFormed (by decide) sound.ring, sound.rxIn_le⟩
  | service around =>
      rw [step]
      split
      · exact sound
      · exact wifiUartService_sound sound around

theorem wifiProtocolInit_sound (cells buf : Nat → UInt8) : (wifiProtocolInit cells buf).Sound :=
  ⟨⟨Nat.zero_le _, Nat.zero_le _, fun ahead => absurd ahead (Nat.lt_irrefl 0)⟩, Nat.zero_le _⟩

/-- No header met by the next scan has a frame length of 0. -/
def ScansSound (receiver : Receiver) : Prop :=
  ∀ rest, frames.Visits receiver.scanned rest → ¬IsWrapped rest

/-- What a scan does when no header that it meets has a frame length of 0. -/
structure Sifted (before after : Receiver) : Prop where
  ring : after.ring = before.ring
  residue : after.residue = (frames.parse before.residue).2
  handled : after.handled.map Dispatch.bytes =
    before.handled.map Dispatch.bytes ++ (frames.parse before.residue).1
  hung : after.hung = before.hung

theorem scanBuffer_sifted (inRange : receiver.rxIn ≤ processSize)
    (sound : ∀ rest, frames.Visits receiver.residue rest → ¬IsWrapped rest) (around : Int → UInt8) :
    Sifted receiver (receiver.scanBuffer around) := by
  have seen := pending_residue inRange around
  rw [scanBuffer]
  by_cases short : receiver.rxIn < protocolHead
  · have waits : frames.decide receiver.residue = .wait := by
      refine if_pos ?_
      rw [← seen, length_pending]
      exact short
    rw [if_pos short]
    refine ⟨rfl, ?_, ?_, rfl⟩
    · rw [Framer.parse_wait waits]
    · rw [Framer.parse_wait waits, List.append_nil]
  · have visits : ∀ rest, frames.Visits (pending (processByte receiver.buf around) receiver.rxIn 0) rest →
        ¬IsWrapped rest := by
      rw [seen]
      exact sound
    have fuel : receiver.rxIn - 0 < receiver.rxIn + 1 := by omega
    obtain ⟨stop, found, ends, inside, left, taken, fit⟩ := scan_eq_parse _ (Nat.zero_le receiver.rxIn) fuel visits
    have fits : stop + (receiver.rxIn - stop) ≤ processSize := by omega
    have frameOf : ∀ start ∈ found, (Dispatch.mk receiver.buf start).bytes =
        frameBytes (processByte receiver.buf around) start := by
      intro start member
      obtain ⟨head, whole⟩ := fit start member
      exact bytes_dispatch (by omega) (by omega)
    rw [seen] at left taken
    rw [if_neg short, ends]
    refine ⟨rfl, ?_, ?_, rfl⟩
    · rw [← left, pending, window_processByte fits]
      exact window_moved
    · rw [← taken, List.map_append, List.map_map]
      exact congrArg _ (List.map_congr_left frameOf)

/-- What a call does when no such header is met. -/
structure Serviced (before after : Receiver) : Prop where
  waiting : after.waiting = before.waiting.drop (processSize - before.rxIn)
  residue : after.residue = (frames.parse before.scanned).2
  handled : after.handled.map Dispatch.bytes =
    before.handled.map Dispatch.bytes ++ (frames.parse before.scanned).1
  hung : after.hung = before.hung

theorem wifiUartService_serviced (sound : receiver.Sound) (scansSound : receiver.ScansSound)
    (around : Int → UInt8) : Serviced receiver (receiver.wifiUartService around) := by
  have spec := filled_spec sound
  have seen := residue_filled sound
  have sifted : Sifted receiver.filled (receiver.wifiUartService around) := by
    refine scanBuffer_sifted (rxIn_filled_le sound) ?_ around
    rw [seen]
    exact scansSound
  refine ⟨?_, ?_, ?_, sifted.hung.trans spec.hung⟩
  · rw [waiting, sifted.ring]
    exact spec.waiting
  · rw [sifted.residue, seen]
  · rw [sifted.handled, seen, spec.handled]

end Receiver

end SyrFilter.Uart
