import SyrFilter.Lib.Scanning
import SyrFilter.Uart.Receiver

namespace SyrFilter.Uart

open SyrFilter.Lib

/-! # The scan loop follows the format

As long as no header declares the one length whose 16-bit sum is 0, an
iteration of the scan loop decides as `decideFrame` does on the bytes between
its offset and `rx_in`, and the whole loop finds the frames that `frames` finds.
-/

variable {memory : Int → UInt8} {rxIn offset : Nat}

def pending (memory : Int → UInt8) (rxIn offset : Nat) : List UInt8 :=
  window (fun index : Nat => memory index) offset (rxIn - offset)

def frameBytes (memory : Int → UInt8) (offset : Nat) : List UInt8 :=
  window (fun index : Nat => memory index) offset (rxValueLen memory offset)

@[simp] theorem length_pending : (pending memory rxIn offset).length = rxIn - offset := length_window

theorem byteAt_pending {position : Nat} (inside : position < rxIn - offset) :
    byteAt (pending memory rxIn offset) position = memory (offset + position) := by
  simp only [byteAt, pending, List.getD_eq_getElem?_getD, getElem?_window inside, Option.getD_some,
    Int.natCast_add]

theorem frameLen_pending (long : protocolHead ≤ rxIn - offset) :
    frameLen (pending memory rxIn offset) = rxValueLen memory offset := by
  rw [protocolHead] at long
  have high : byteAt (pending memory rxIn offset) 4 = memory (offset + 4) :=
    byteAt_pending (by omega)
  have low : byteAt (pending memory rxIn offset) 5 = memory (offset + 5) :=
    byteAt_pending (by omega)
  rw [frameLen, declaredLen, high, low, rxValueLen, Nat.add_assoc]

theorem frameLen_eq_zero_iff (bytes : List UInt8) : frameLen bytes = 0 ↔ declaredLen bytes = 65529 := by
  have high := (byteAt bytes 4).toNat_lt
  have low := (byteAt bytes 5).toNat_lt
  rw [frameLen, protocolHead, declaredLen]
  omega

theorem getCheckSum_pending {count : Nat} (inside : count ≤ rxIn - offset) :
    getCheckSum (fun i => memory (offset + i)) count =
      checkSum ((pending memory rxIn offset).take count) := by
  rw [getCheckSum_eq, pending, take_window inside]
  congr 1
  simp [window]

theorem isHeader_pending (long : protocolHead ≤ rxIn - offset) :
    IsHeader (pending memory rxIn offset) ↔ memory offset = 0x55 ∧ memory (offset + 1) = 0xaa := by
  have enough : 7 ≤ rxIn - offset := long
  have first : byteAt (pending memory rxIn offset) 0 = memory offset := by
    simpa using byteAt_pending (by omega : 0 < rxIn - offset)
  have second : byteAt (pending memory rxIn offset) 1 = memory (offset + 1) :=
    byteAt_pending (by omega)
  rw [IsHeader, length_pending, first, second]
  exact and_iff_right long

theorem rxValueLen_ne_zero (long : protocolHead ≤ rxIn - offset)
    (sound : ¬IsWrapped (pending memory rxIn offset)) (first : memory offset = 0x55)
    (second : memory (offset + 1) = 0xaa) : rxValueLen memory offset ≠ 0 := by
  intro zero
  rw [← frameLen_pending long, frameLen_eq_zero_iff] at zero
  exact sound ⟨(isHeader_pending long).mpr ⟨first, second⟩, zero⟩

theorem scanIteration_eq (long : protocolHead ≤ rxIn - offset)
    (sound : ¬IsWrapped (pending memory rxIn offset)) :
    scanIteration memory rxIn offset = frames.decide (pending memory rxIn offset) := by
  have enough : 7 ≤ rxIn - offset := long
  have first : byteAt (pending memory rxIn offset) 0 = memory offset := by
    simpa using byteAt_pending (by omega : 0 < rxIn - offset)
  have second : byteAt (pending memory rxIn offset) 1 = memory (offset + 1) :=
    byteAt_pending (by omega)
  have notShort : ¬rxIn - offset < protocolHead := by omega
  change _ = decideFrame _
  simp only [scanIteration, decideFrame, length_pending, if_neg notShort, first, second,
    frameLen_pending long]
  by_cases noFirst : memory offset ≠ 0x55
  · simp only [if_pos noFirst]
  by_cases noSecond : memory (offset + 1) ≠ 0xaa
  · simp only [if_neg noFirst, if_pos noSecond]
  by_cases tooLong : processSize < rxValueLen memory offset
  · simp only [if_neg noFirst, if_neg noSecond, if_pos tooLong]
  simp only [if_neg noFirst, if_neg noSecond, if_neg tooLong]
  by_cases missing : rxIn - offset < rxValueLen memory offset
  · simp only [if_pos missing]
  simp only [if_neg missing]
  have positive := rxValueLen_ne_zero long sound (not_not.mp noFirst) (not_not.mp noSecond)
  have last : byteAt (pending memory rxIn offset) (rxValueLen memory offset - 1) =
      memory (offset + (rxValueLen memory offset - 1 : Nat)) := byteAt_pending (by omega)
  have argument : (rxValueLen memory offset + 65535) % 65536 = rxValueLen memory offset - 1 := by
    rw [processSize] at tooLong
    omega
  have index : (offset : Int) + rxValueLen memory offset - 1 =
      offset + (rxValueLen memory offset - 1 : Nat) := by omega
  have within : rxValueLen memory offset - 1 ≤ rxIn - offset := by omega
  rw [if_neg positive, argument, index, last, getCheckSum_pending within]

theorem scan_follows :
    Follows frames IsWrapped protocolHead (scanIteration memory rxIn) (fun index : Nat => memory index)
      rxIn where
  short := fun _ short => if_pos short
  badLong := fun _ wrapped => wrapped.1.1
  agrees := fun _ long sound => scanIteration_eq long sound

theorem scan_eq_scanLoop (fuel : Nat) :
    scan memory rxIn fuel offset = scanLoop protocolHead (scanIteration memory rxIn) rxIn fuel offset := by
  induction fuel generalizing offset with
  | zero => rfl
  | succ fuel ih =>
      rw [scan, scanLoop]
      split
      · rfl
      · cases scanIteration memory rxIn offset with
        | wait => rfl
        | skip count => exact ih
        | emit count => exact congrArg (Option.map _) ih

theorem frame_of_emit {count : Nat} (decision : frames.decide (pending memory rxIn offset) = .emit count) :
    protocolHead ≤ rxIn - offset ∧ rxValueLen memory offset = count ∧
      frameBytes memory offset = (pending memory rxIn offset).take count := by
  have long : protocolHead ≤ rxIn - offset := by
    by_contra short
    have waits : frames.decide (pending memory rxIn offset) = .wait :=
      if_pos (by rw [length_pending]; omega)
    rw [waits] at decision
    cases decision
  have bounds := frames.bound (congrArg Decision.advance decision)
  rw [length_pending] at bounds
  have length : rxValueLen memory offset = count := by
    rw [← frameLen_pending long]
    exact frameLen_of_emit decision
  refine ⟨long, length, ?_⟩
  rw [frameBytes, length, pending, take_window bounds.2]

/-- The loop ends, and it finds what the format says. -/
theorem scan_eq_parse (fuel : Nat) (ahead : offset ≤ rxIn) (enough : rxIn - offset < fuel)
    (sound : ∀ rest, frames.Visits (pending memory rxIn offset) rest → ¬IsWrapped rest) :
    ∃ stop found, scan memory rxIn fuel offset = some (stop, found) ∧ stop ≤ rxIn ∧
      pending memory rxIn stop = (frames.parse (pending memory rxIn offset)).2 ∧
      found.map (frameBytes memory) = (frames.parse (pending memory rxIn offset)).1 ∧
      ∀ start ∈ found, start + protocolHead ≤ rxIn ∧ start + rxValueLen memory start ≤ rxIn := by
  obtain ⟨stop, found, ends, inside, left, taken, emits⟩ :=
    scan_follows.scanLoop_eq_parse fuel ahead enough sound
  refine ⟨stop, found, (scan_eq_scanLoop fuel).trans ends, inside, left, ?_, ?_⟩
  · have views := taken fun bytes => bytes.take (frameLen bytes)
    rw [Framer.views_eq_parse fun decision => by rw [frameLen_of_emit decision]] at views
    refine Eq.trans (List.map_congr_left fun start member => ?_) views
    obtain ⟨count, decision⟩ := emits start member
    rw [(frame_of_emit decision).2.2, frameLen_of_emit decision]
    rfl
  · intro start member
    obtain ⟨count, decision⟩ := emits start member
    obtain ⟨long, length, -⟩ := frame_of_emit decision
    have bounds := frames.bound (congrArg Decision.advance decision)
    rw [length_received] at bounds
    rw [protocolHead] at long ⊢
    omega

end SyrFilter.Uart
