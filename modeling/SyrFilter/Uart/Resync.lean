import SyrFilter.Uart.Bounds

namespace SyrFilter.Uart

open SyrFilter.Lib

/-! # After a rejected header

A header candidate whose length is too large, or whose checksum does not match,
is passed over by three bytes.  Its second byte starts no frame, but the byte
behind it may, and that one is passed over as well.
-/

variable {buf : Nat → UInt8} {around : Int → UInt8} {rxIn position : Nat}

/-- A complete valid frame starts at the position. -/
structure IntactFrame (buf : Nat → UInt8) (rxIn position : Nat) : Prop where
  first : buf position = 0x55
  second : buf (position + 1) = 0xaa
  short : (buf (position + 4)).toNat * 256 + (buf (position + 5)).toNat ≤ 1200
  complete : position + ((buf (position + 4)).toNat * 256 + (buf (position + 5)).toNat) + protocolHead ≤ rxIn
  sum : getCheckSum (fun i => buf (position + i))
      ((buf (position + 4)).toNat * 256 + (buf (position + 5)).toNat + 6) =
    buf (position + ((buf (position + 4)).toNat * 256 + (buf (position + 5)).toNat) + 6)

/-- The scan finds a header at the offset and passes it over. -/
structure Rejects (memory : Int → UInt8) (rxIn offset : Nat) : Prop where
  inside : offset + protocolHead ≤ rxIn
  first : memory offset = 0x55
  second : memory (offset + 1) = 0xaa
  reason :
    processSize < rxValueLen memory offset ∨
      rxValueLen memory offset ≤ rxIn - offset ∧
        getCheckSum (fun i => memory (offset + i)) ((rxValueLen memory offset + 65535) % 65536) ≠
          memory (offset + rxValueLen memory offset - 1)

/-- Where the loop looks for a header after an iteration. -/
def nextTest (memory : Int → UInt8) (rxIn offset : Nat) : Nat :=
  match scanIteration memory rxIn offset with
  | .wait => offset
  | .skip count => offset + count
  | .emit count => offset + count

theorem Rejects.scanIteration_eq {memory : Int → UInt8} {offset : Nat} (rejects : Rejects memory rxIn offset) :
    scanIteration memory rxIn offset = .skip 3 := by
  rw [scanIteration, if_neg (not_not_intro rejects.first), if_neg (not_not_intro rejects.second)]
  rcases rejects.reason with tooLong | ⟨received, mismatch⟩
  · rw [if_pos tooLong]
  · by_cases tooLong : processSize < rxValueLen memory offset
    · rw [if_pos tooLong]
    · rw [if_neg tooLong, if_neg (Nat.not_lt.mpr received), if_pos mismatch]

/-- The scan goes on three bytes further on. -/
theorem Rejects.scan_eq {memory : Int → UInt8} {offset : Nat} (rejects : Rejects memory rxIn offset)
    (fuel : Nat) :
    scan memory rxIn (fuel + 1) offset = scan memory rxIn fuel (nextTest memory rxIn offset) := by
  have inside := rejects.inside
  have long : ¬rxIn - offset < protocolHead := by omega
  rw [scan, if_neg long, nextTest, rejects.scanIteration_eq]

/-- Passing over a rejected header loses no intact frame behind it exactly when none starts two
bytes on, with the header's version and type as its own first bytes. -/
theorem resync_loses_no_frame_iff (room : rxIn ≤ processSize)
    (rejects : Rejects (processByte buf around) rxIn position) :
    (∀ next, position < next → IntactFrame buf rxIn next →
        nextTest (processByte buf around) rxIn position ≤ next) ↔
      ¬IntactFrame buf rxIn (position + 2) := by
  have goes : nextTest (processByte buf around) rxIn position = position + 3 := by
    rw [nextTest, rejects.scanIteration_eq]
  have inside := rejects.inside
  rw [protocolHead] at inside
  rw [goes]
  constructor
  · intro keeps intact
    have reached := keeps (position + 2) (by omega) intact
    omega
  · intro none next behind intact
    have notSecond : next ≠ position + 1 := by
      rintro rfl
      have second := rejects.second
      have index : (position : Int) + 1 = (position + 1 : Nat) := rfl
      rw [index, processByte_of_lt (by omega), intact.first] at second
      exact absurd second (by decide)
    have notThird : next ≠ position + 2 := by
      rintro rfl
      exact none intact
    omega

/-- A header cut off after its two bytes, and an intact frame. -/
def cutHeader : List UInt8 := [0x55, 0xaa] ++ encodeFrame 0x01 0 []

theorem frame_lost_behind_cut_header :
    Rejects (processByte (byteAt cutHeader) fun _ => 0) 9 0 ∧ IntactFrame (byteAt cutHeader) 9 2 ∧
      ¬(∀ next, 0 < next → IntactFrame (byteAt cutHeader) 9 next →
        nextTest (processByte (byteAt cutHeader) fun _ => 0) 9 0 ≤ next) ∧
      scan (processByte (byteAt cutHeader) fun _ => 0) 9 10 0 = some (3, []) := by
  have rejects : Rejects (processByte (byteAt cutHeader) fun _ => 0) 9 0 :=
    ⟨by decide, by decide, by decide, .inr ⟨by decide, by decide⟩⟩
  have intact : IntactFrame (byteAt cutHeader) 9 2 :=
    ⟨by decide, by decide, by decide, by decide, by decide⟩
  have goes : nextTest (processByte (byteAt cutHeader) fun _ => 0) 9 0 = 3 := by
    rw [nextTest, rejects.scanIteration_eq]
  refine ⟨rejects, intact, fun keeps => ?_, by decide +kernel⟩
  have reached := keeps 2 (by decide) intact
  rw [goes] at reached
  exact absurd reached (by decide)

/-- A damaged frame, and an intact one directly behind it. -/
def damagedFrame : List UInt8 := [0x55, 0xaa, 0, 0x01, 0, 0, 0x77] ++ encodeFrame 0x01 0 []

theorem frame_kept_behind_damaged_frame :
    IntactFrame (byteAt damagedFrame) 14 7 ∧
      nextTest (processByte (byteAt damagedFrame) fun _ => 0) 14 0 ≤ 7 := by
  have rejects : Rejects (processByte (byteAt damagedFrame) fun _ => 0) 14 0 :=
    ⟨by decide, by decide, by decide, .inr ⟨by decide, by decide⟩⟩
  have intact : IntactFrame (byteAt damagedFrame) 14 7 :=
    ⟨by decide, by decide, by decide, by decide, by decide⟩
  have kept := (resync_loses_no_frame_iff (by decide) rejects).mpr fun inside =>
    absurd inside.first (by decide)
  exact ⟨intact, kept 7 (by decide) intact⟩

end SyrFilter.Uart
