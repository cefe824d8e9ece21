import SyrFilter.Uart.Service

namespace SyrFilter.Uart

open SyrFilter.Lib

/-! # Bounds of the scan

The declared length is added to the header size in 16 bits.  For a declared
length of 65529 the sum is 0: the checksum is then taken over 65535 bytes and
compared with the byte before the candidate, and a match moves the scan by
nothing.  Every other length keeps the reads inside the buffer.
-/

variable {memory : Int → UInt8} {rxIn offset : Nat}

theorem reads_before_wrapped (wrapped : IsWrapped (pending memory rxIn offset)) :
    (offset : Int) - 1 ∈ scanReads memory rxIn offset := by
  obtain ⟨header, declared⟩ := wrapped
  have long : protocolHead ≤ rxIn - offset := by
    have length := header.1
    rwa [length_pending] at length
  obtain ⟨first, second⟩ := (isHeader_pending long).mp header
  have zero : rxValueLen memory offset = 0 := by
    rw [← frameLen_pending long, frameLen_eq_zero_iff]
    exact declared
  have passes : ¬(processSize < rxValueLen memory offset ∨ rxIn - offset < rxValueLen memory offset) := by
    omega
  rw [scanReads, if_neg (not_not_intro first), if_neg (not_not_intro second), if_neg passes, zero]
  exact List.mem_append_right _ (List.mem_singleton.mpr (by omega))

theorem reads_within (long : protocolHead ≤ rxIn - offset)
    (sound : ¬IsWrapped (pending memory rxIn offset)) :
    ∀ index ∈ scanReads memory rxIn offset, (offset : Int) ≤ index ∧ index < rxIn := by
  intro index member
  have enough : 7 ≤ rxIn - offset := long
  rw [scanReads] at member
  split at member
  · simp only [List.mem_cons, List.not_mem_nil, or_false] at member
    omega
  split at member
  · simp only [List.mem_cons, List.not_mem_nil, or_false] at member
    omega
  split at member
  · simp only [List.mem_cons, List.not_mem_nil, or_false] at member
    omega
  · rename_i noFirst noSecond passes
    have positive := rxValueLen_ne_zero long sound (not_not.mp noFirst) (not_not.mp noSecond)
    have argument : (rxValueLen memory offset + 65535) % 65536 = rxValueLen memory offset - 1 := by
      rw [processSize] at passes
      omega
    rw [argument] at member
    simp only [List.mem_append, List.mem_map, List.mem_range, List.mem_cons, List.not_mem_nil,
      or_false] at member
    rcases member with (fixed | ⟨i, below, rfl⟩) | last
    · omega
    · omega
    · omega

end SyrFilter.Uart
