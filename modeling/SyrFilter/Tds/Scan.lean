import SyrFilter.Tds.Receiver

namespace SyrFilter.Tds

open SyrFilter.Lib
open SyrFilter.Uart (byteAt byteAt_append checkSum getCheckSum getCheckSum_eq)

/-! # The sensor's frames and the scan loop

A frame is `55`, a length, a type, a byte, data and, at the index the length
gives, a checksum of all but the byte before it.  The whole of it is there once
more bytes than the length have arrived.  The code starts one byte earlier, and
a length of 0 sends its checksum over 65535 bytes; everywhere else its scan
follows the format.
-/

variable {bytes : List UInt8} {memory : Nat → UInt8} {rxIn offset count : Nat}

def declaredLen (bytes : List UInt8) : Nat := (byteAt bytes 1).toNat

def decideFrame (bytes : List UInt8) : Decision :=
  if bytes.length < protocolHead then .wait
  else if byteAt bytes 0 ≠ 0x55 then .skip 1
  else if bufSize < declaredLen bytes then .skip 1
  else if declaredLen bytes = 0 then .wait
  else if bytes.length ≤ declaredLen bytes then .wait
  else if checkSum (bytes.take (declaredLen bytes - 1)) ≠ byteAt bytes (declaredLen bytes) then .skip 9
  else .emit (declaredLen bytes)

/-- A header that declares no length at all, or exactly the bytes received:
the code then looks further than they reach. -/
def IsOverread (bytes : List UInt8) : Prop :=
  protocolHead ≤ bytes.length ∧ byteAt bytes 0 = 0x55 ∧
    (declaredLen bytes = 0 ∨ declaredLen bytes = bytes.length)

/-- What is looked at of a frame: up to its checksum, and at least the sensor value. -/
def handed (bytes : List UInt8) : List UInt8 := bytes.take (max (declaredLen bytes + 1) 6)

theorem decideFrame_bound (moves : (decideFrame bytes).advance = some count) :
    0 < count ∧ count ≤ bytes.length := by
  revert moves
  fun_cases decideFrame bytes <;> simp [Decision.advance, protocolHead] at * <;> omega

theorem decideFrame_stable (more : List UInt8) (moves : (decideFrame bytes).advance = some count) :
    decideFrame (bytes ++ more) = decideFrame bytes := by
  have long : protocolHead ≤ bytes.length := by
    by_contra short
    rw [decideFrame, if_pos (by omega)] at moves
    cases moves
  have enough : 11 ≤ bytes.length := long
  have first := byteAt_append (by omega : 0 < bytes.length) more
  have sameLen : declaredLen (bytes ++ more) = declaredLen bytes := by
    rw [declaredLen, declaredLen, byteAt_append (by omega : 1 < bytes.length)]
  have stillLong : ¬(bytes ++ more).length < protocolHead := by
    rw [List.length_append]
    omega
  have notShort : ¬bytes.length < protocolHead := by omega
  rw [decideFrame, if_neg notShort] at moves
  simp only [decideFrame, if_neg stillLong, if_neg notShort, first, sameLen]
  by_cases noFirst : byteAt bytes 0 ≠ 0x55
  · simp only [if_pos noFirst]
  by_cases tooLong : bufSize < declaredLen bytes
  · simp only [if_pos tooLong]
  simp only [if_neg noFirst, if_neg tooLong] at moves ⊢
  by_cases nothing : declaredLen bytes = 0
  · rw [if_pos nothing] at moves
    cases moves
  by_cases missing : bytes.length ≤ declaredLen bytes
  · rw [if_neg nothing, if_pos missing] at moves
    cases moves
  have stillThere : ¬(bytes ++ more).length ≤ declaredLen bytes := by
    rw [List.length_append]
    omega
  have last := byteAt_append (by omega : declaredLen bytes < bytes.length) more
  simp only [if_neg nothing, if_neg missing, if_neg stillThere]
  rw [last, List.take_append_of_le_length (by omega)]

def tdsFrames : Framer UInt8 where
  decide := decideFrame
  bound := decideFrame_bound
  stable := decideFrame_stable

theorem decideFrame_emit (decision : decideFrame bytes = .emit count) :
    protocolHead ≤ bytes.length ∧ declaredLen bytes < bytes.length := by
  revert decision
  fun_cases decideFrame bytes <;> intro decision <;> cases decision
  omega

theorem handed_settled : tdsFrames.Settled handed := by
  intro bytes count more decision
  obtain ⟨long, whole⟩ := decideFrame_emit decision
  rw [protocolHead] at long
  rw [handed, handed, declaredLen, byteAt_append (by omega), ← declaredLen,
    List.take_append_of_le_length (by omega)]

/-! ## The loop against the format -/

theorem byteAt_received {position : Nat} (inside : position < rxIn - offset) :
    byteAt (received memory rxIn offset) position = memory (offset + position) := by
  rw [byteAt, received, List.getD_eq_getElem?_getD, getElem?_window inside, Option.getD_some]

theorem declaredLen_received (long : protocolHead ≤ rxIn - offset) :
    declaredLen (received memory rxIn offset) = rxValueLen memory offset := by
  rw [protocolHead] at long
  rw [declaredLen, byteAt_received (by omega), rxValueLen]

theorem isOverread_received (long : protocolHead ≤ rxIn - offset) :
    IsOverread (received memory rxIn offset) ↔
      memory offset = 0x55 ∧ (rxValueLen memory offset = 0 ∨ rxValueLen memory offset = rxIn - offset) := by
  have nonempty : 0 < rxIn - offset := Nat.lt_of_lt_of_le (by decide) long
  rw [IsOverread, declaredLen_received long, byteAt_received nonempty, length_received]
  exact and_iff_right long

theorem getCheckSum_received {count : Nat} (inside : count ≤ rxIn - offset) :
    getCheckSum (fun i => memory (offset + i)) count =
      checkSum ((received memory rxIn offset).take count) := by
  rw [getCheckSum_eq, received, take_window inside]
  congr 1
  simp [window]

theorem checkedCount (positive : rxValueLen memory offset ≠ 0) :
    (rxValueLen memory offset + 65535) % 65536 = rxValueLen memory offset - 1 := by
  have byte := (memory (offset + 1)).toNat_lt
  rw [rxValueLen] at *
  omega

theorem scanIteration_eq (long : protocolHead ≤ rxIn - offset)
    (sound : ¬IsOverread (received memory rxIn offset)) :
    scanIteration memory rxIn offset = tdsFrames.decide (received memory rxIn offset) := by
  rw [isOverread_received long] at sound
  have nonempty : 0 < rxIn - offset := Nat.lt_of_lt_of_le (by decide) long
  have first : byteAt (received memory rxIn offset) 0 = memory offset := byteAt_received nonempty
  have notShort : ¬rxIn - offset < protocolHead := by omega
  change _ = decideFrame _
  simp only [scanIteration, decideFrame, length_received, if_neg notShort, first,
    declaredLen_received long]
  by_cases noFirst : memory offset ≠ 0x55
  · simp only [if_pos noFirst]
  by_cases tooLong : bufSize < rxValueLen memory offset
  · simp only [if_pos tooLong]
  have positive : rxValueLen memory offset ≠ 0 := fun zero => sound ⟨not_not.mp noFirst, .inl zero⟩
  have distinct : rxValueLen memory offset ≠ rxIn - offset := fun all =>
    sound ⟨not_not.mp noFirst, .inr all⟩
  simp only [if_neg noFirst, if_neg tooLong, if_neg positive]
  by_cases missing : rxIn - offset < rxValueLen memory offset
  · rw [if_pos missing, if_pos (by omega)]
  have complete : ¬rxIn - offset ≤ rxValueLen memory offset := by omega
  have behind : byteAt (received memory rxIn offset) (rxValueLen memory offset) =
      memory (offset + rxValueLen memory offset) := byteAt_received (by omega)
  have within : rxValueLen memory offset - 1 ≤ rxIn - offset := by omega
  rw [if_neg missing, if_neg complete, behind, checkedCount positive, getCheckSum_received within]

theorem scan_follows :
    Follows tdsFrames IsOverread protocolHead (scanIteration memory rxIn) memory rxIn where
  short := fun _ short => if_pos short
  badLong := fun _ overread => overread.1
  agrees := fun _ long sound => scanIteration_eq long sound

/-! ## Progress and bounds -/

/-- Every iteration reads only received bytes from its offset on and moves
forward without passing the end, and the loop is left. -/
structure ScanWithin (memory : Nat → UInt8) (rxIn : Nat) : Prop where
  reads : ∀ offset, Examined protocolHead (scanIteration memory rxIn) rxIn offset →
    ∀ index ∈ scanReads memory rxIn offset, offset ≤ index ∧ index < rxIn
  moves : ∀ offset count, Examined protocolHead (scanIteration memory rxIn) rxIn offset →
    (scanIteration memory rxIn offset).advance = some count →
      offset < offset + count ∧ offset + count ≤ rxIn
  ends : ∃ stop found, scan memory rxIn 0 (rxIn + 1) = some (stop, found)

theorem reads_past_end (inBuffer : rxIn ≤ bufSize) (long : protocolHead ≤ rxIn - offset)
    (overread : IsOverread (received memory rxIn offset)) :
    ∃ index ∈ scanReads memory rxIn offset, rxIn ≤ index := by
  obtain ⟨first, length⟩ := (isOverread_received long).mp overread
  have passes : ¬(bufSize < rxValueLen memory offset ∨ rxIn - offset < rxValueLen memory offset) := by
    omega
  rw [scanReads, if_neg (not_not_intro first), if_neg passes]
  rcases length with zero | all
  · -- The checksum runs over 65535 bytes.
    refine ⟨offset + 65534, List.mem_append_left _ (List.mem_append_left _ (List.mem_append_right _ ?_)), ?_⟩
    · rw [zero]
      exact List.mem_map.mpr ⟨65534, List.mem_range.mpr (by decide), rfl⟩
    · rw [bufSize] at inBuffer
      omega
  · refine ⟨offset + rxValueLen memory offset, ?_, by omega⟩
    exact List.mem_append_left _ (List.mem_append_right _ (List.mem_singleton.mpr rfl))

theorem mem_handleReads {index : Nat} (member : index ∈ handleReads memory offset) :
    offset + 2 ≤ index ∧ index ≤ offset + 5 := by
  rw [handleReads] at member
  split at member
  · simp only [List.mem_cons, List.not_mem_nil, or_false] at member
    omega
  · simp only [List.mem_cons, List.not_mem_nil, or_false] at member
    omega

theorem reads_within (long : protocolHead ≤ rxIn - offset)
    (sound : ¬IsOverread (received memory rxIn offset)) :
    ∀ index ∈ scanReads memory rxIn offset, offset ≤ index ∧ index < rxIn := by
  intro index member
  rw [isOverread_received long] at sound
  have enough : 11 ≤ rxIn - offset := long
  rw [scanReads] at member
  split at member
  · simp only [List.mem_cons, List.not_mem_nil, or_false] at member
    omega
  split at member
  · simp only [List.mem_cons, List.not_mem_nil, or_false] at member
    omega
  · rename_i noFirst passes
    have positive : rxValueLen memory offset ≠ 0 := fun zero => sound ⟨not_not.mp noFirst, .inl zero⟩
    have distinct : rxValueLen memory offset ≠ rxIn - offset := fun all =>
      sound ⟨not_not.mp noFirst, .inr all⟩
    rw [checkedCount positive] at member
    simp only [List.mem_append, List.mem_map, List.mem_range, List.mem_cons, List.not_mem_nil,
      or_false] at member
    rcases member with ((fixed | ⟨i, below, rfl⟩) | last) | handles
    · omega
    · omega
    · omega
    · split at handles
      · have bounds := mem_handleReads handles
        omega
      · cases handles

theorem scanWithin_iff (inBuffer : rxIn ≤ bufSize) :
    ScanWithin memory rxIn ↔
      ∀ rest, tdsFrames.Visits (received memory rxIn 0) rest → ¬IsOverread rest := by
  have follows := @scan_follows memory rxIn
  rw [← follows.examined_iff_visits]
  constructor
  · intro within offset examined overread
    obtain ⟨index, member, past⟩ := reads_past_end inBuffer examined.long overread
    have bounds := within.reads offset examined index member
    omega
  · intro sound
    refine ⟨fun offset examined => ?_, fun offset count examined moves => ?_, ?_⟩
    · exact reads_within examined.long (sound offset examined)
    · rw [scanIteration_eq examined.long (sound offset examined)] at moves
      have bounds := tdsFrames.bound moves
      rw [length_received] at bounds
      omega
    · have visits := follows.examined_iff_visits.mp sound
      obtain ⟨stop, found, ends, _⟩ :=
        follows.scanLoop_eq_parse (rxIn + 1) (Nat.zero_le rxIn) (by omega) visits
      exact ⟨stop, found, ends⟩

end SyrFilter.Tds
