import Mathlib.Logic.Function.Basic
import SyrFilter.Lib.Memory
import SyrFilter.Uart.Receiver

namespace SyrFilter.Tds.Memcpy

open SyrFilter.Lib

/-! # `my_memcpy`

`applications/tds_service.c`, on the 32-bit address space: pointers are
addresses, the comparisons are those of the machine, and the counter is an
`unsigned short`.
-/

variable {dest src size start : UInt32} {count i : UInt16} {memory before : UInt32 → UInt8}

theorem toNat_next (below : i < count) : (i + 1).toNat = i.toNat + 1 := by
  have bound : i.toNat < count.toNat := UInt16.lt_iff_toNat_lt.mp below
  have word : count.toNat < 2 ^ 16 := count.toNat_lt
  rw [UInt16.toNat_add, UInt16.toNat_one, Nat.mod_eq_of_lt (by omega)]

theorem toNat_previous (positive : 0 < i) : i.toNat = (i - 1).toNat + 1 := by
  have counted : 0 < i.toNat := by simpa using UInt16.lt_iff_toNat_lt.mp positive
  have one : 1 ≤ i := UInt16.le_iff_toNat_le.mpr counted
  rw [UInt16.toNat_sub_of_le i 1 one, UInt16.toNat_one]
  omega

def null : UInt32 := 0

/-- `for(i = 0; i < count; i ++) pdest[i] = psrc[i];` from a given `i` on. -/
def upward (dest src : UInt32) (count i : UInt16) (memory : UInt32 → UInt8) : UInt32 → UInt8 :=
  if i < count then
    upward dest src count (i + 1)
      (Function.update memory (dest + i.toUInt32) (memory (src + i.toUInt32)))
  else memory
termination_by count.toNat - i.toNat
decreasing_by
  have below : i < count := ‹_›
  have bound : i.toNat < count.toNat := UInt16.lt_iff_toNat_lt.mp below
  rw [toNat_next below]
  omega

/-- `for(i = count; i > 0; i --) pdest[i - 1] = psrc[i - 1];` from a given `i` on. -/
def downward (dest src : UInt32) (i : UInt16) (memory : UInt32 → UInt8) : UInt32 → UInt8 :=
  if 0 < i then
    downward dest src (i - 1)
      (Function.update memory (dest + (i - 1).toUInt32) (memory (src + (i - 1).toUInt32)))
  else memory
termination_by i.toNat
decreasing_by
  rw [toNat_previous ‹0 < i›]
  exact Nat.lt_succ_self _

/-- The pointer returned and the memory left behind. -/
def myMemcpy (dest src : UInt32) (count : UInt16) (memory : UInt32 → UInt8) :
    UInt32 × (UInt32 → UInt8) :=
  if dest = null ∨ src = null then (null, memory)
  else if dest ≤ src ∨ src + count.toUInt32 < dest then (dest, upward dest src count 0 memory)
  else (dest, downward dest src count memory)

/-! ## Addresses -/

/-- The address behind a range is an address too, as C asks of an object. -/
def Inside (size start : UInt32) (count : Nat) : Prop :=
  start.toNat + count ≤ size.toNat

def byteAt (start : UInt32) (i : Nat) : UInt32 :=
  start + UInt32.ofNat i

theorem byteAt_toNat {room i : Nat} (inside : Inside size start room) (below : i ≤ room) :
    (byteAt start i).toNat = start.toNat + i := by
  have bound : start.toNat + room ≤ size.toNat := inside
  have word : size.toNat < 2 ^ 32 := size.toNat_lt
  rw [byteAt, UInt32.toNat_add, UInt32.toNat_ofNat', Nat.add_mod_mod, Nat.mod_eq_of_lt (by omega)]

theorem byteAt_toUInt32 : start + i.toUInt32 = byteAt start i.toNat := by
  rw [byteAt]
  congr 1
  apply UInt32.toNat_inj.mp
  simp

theorem byteAt_ne (destInside : Inside size dest count.toNat) (srcInside : Inside size src count.toNat)
    {i j : Nat} (iBelow : i ≤ count.toNat) (jBelow : j ≤ count.toNat)
    (apart : dest.toNat + i ≠ src.toNat + j) : byteAt dest i ≠ byteAt src j := by
  intro same
  apply apart
  rw [← byteAt_toNat destInside iBelow, ← byteAt_toNat srcInside jBelow, same]

/-! ## The loops -/

section Loops

variable (destInside : Inside size dest count.toNat) (srcInside : Inside size src count.toNat)
include destInside srcInside

/-- Every distance at which the source has not yet been overwritten: the
destination is not above the source, or behind all of it. -/
theorem upward_moved (apart : dest.toNat ≤ src.toNat ∨ src.toNat + count.toNat ≤ dest.toNat)
    (inside : i ≤ count) (moved : Moved (byteAt dest) (byteAt src) before memory 0 i.toNat) :
    Moved (byteAt dest) (byteAt src) before (upward dest src count i memory) 0 count.toNat := by
  fun_induction upward dest src count i memory with
  | case1 i memory below ih =>
      have bound : i.toNat < count.toNat := UInt16.lt_iff_toNat_lt.mp below
      have next := toNat_next below
      have nextInside : i + 1 ≤ count := UInt16.le_iff_toNat_le.mpr (by omega)
      apply ih nextInside
      rw [byteAt_toUInt32, byteAt_toUInt32, next]
      apply moved.up (Nat.zero_le _)
      · intro j _ earlier
        exact byteAt_ne destInside destInside (by omega) (by omega) (by omega)
      · intro j _ earlier
        exact byteAt_ne srcInside destInside (by omega) (by omega) (by omega)
  | case2 i memory done =>
      have stopped : i = count := UInt16.le_antisymm inside (UInt16.not_lt.mp done)
      rwa [stopped] at moved

theorem downward_moved (above : src.toNat < dest.toNat) (inside : i ≤ count)
    (moved : Moved (byteAt dest) (byteAt src) before memory i.toNat count.toNat) :
    Moved (byteAt dest) (byteAt src) before (downward dest src i memory) 0 count.toNat := by
  fun_induction downward dest src i memory with
  | case1 i memory positive ih =>
      have bound : i.toNat ≤ count.toNat := UInt16.le_iff_toNat_le.mp inside
      have previous := toNat_previous positive
      have previousInside : i - 1 ≤ count := UInt16.le_iff_toNat_le.mpr (by omega)
      rw [previous] at moved
      apply ih previousInside
      rw [byteAt_toUInt32, byteAt_toUInt32]
      apply moved.down (by omega)
      · intro j later below
        exact byteAt_ne destInside destInside (by omega) (by omega) (by omega)
      · intro j later below
        exact byteAt_ne srcInside destInside (by omega) (by omega) (by omega)
  | case2 i memory done =>
      have stopped : i.toNat = 0 := by
        have zero : ¬(0 : UInt16).toNat < i.toNat := fun positive => done (UInt16.lt_iff_toNat_lt.mpr positive)
        simpa using zero
      rwa [stopped] at moved

end Loops

/-! ## The move -/

/-- The end of the source, which the second comparison is made with. -/
theorem behind_toNat (srcInside : Inside size src count.toNat) :
    (src + count.toUInt32).toNat = src.toNat + count.toNat := by
  rw [byteAt_toUInt32, byteAt_toNat srcInside (Nat.le_refl _)]

theorem myMemcpy_moved (destNonNull : dest ≠ null) (srcNonNull : src ≠ null)
    (destInside : Inside size dest count.toNat) (srcInside : Inside size src count.toNat) :
    Moved (byteAt dest) (byteAt src) memory (myMemcpy dest src count memory).2 0 count.toNat := by
  have nonNull : ¬(dest = null ∨ src = null) := not_or.mpr ⟨destNonNull, srcNonNull⟩
  rw [myMemcpy, if_neg nonNull]
  by_cases direction : dest ≤ src ∨ src + count.toUInt32 < dest
  · rw [if_pos direction]
    have apart : dest.toNat ≤ src.toNat ∨ src.toNat + count.toNat ≤ dest.toNat := by
      rcases direction with below | behind
      · exact .inl (UInt32.le_iff_toNat_le.mp below)
      · have further := UInt32.lt_iff_toNat_lt.mp behind
        rw [behind_toNat srcInside] at further
        exact .inr (Nat.le_of_lt further)
    exact upward_moved destInside srcInside apart (UInt16.le_iff_toNat_le.mpr (Nat.zero_le _)) .nothing
  · rw [if_neg direction]
    have above : src.toNat < dest.toNat := by
      have notBelow : ¬dest ≤ src := fun below => direction (.inl below)
      exact UInt32.lt_iff_toNat_lt.mp (UInt32.not_le.mp notBelow)
    exact downward_moved destInside srcInside above (UInt16.le_refl count) .nothing

theorem myMemcpy_overlapping_move (destNonNull : dest ≠ null) (srcNonNull : src ≠ null)
    (destInside : Inside size dest count.toNat) (srcInside : Inside size src count.toNat) :
    (∀ i, i < count → (myMemcpy dest src count memory).2 (dest + i.toUInt32) = memory (src + i.toUInt32)) ∧
      ∀ address, address.toNat < dest.toNat ∨ dest.toNat + count.toNat ≤ address.toNat →
        (myMemcpy dest src count memory).2 address = memory address := by
  have moved : Moved (byteAt dest) (byteAt src) memory (myMemcpy dest src count memory).2 0 count.toNat :=
    myMemcpy_moved destNonNull srcNonNull destInside srcInside
  constructor
  · intro i below
    rw [byteAt_toUInt32, byteAt_toUInt32]
    exact moved.copied i.toNat (Nat.zero_le _) (UInt16.lt_iff_toNat_lt.mp below)
  · intro address outside
    apply moved.frame address
    intro i _ below same
    have place := byteAt_toNat destInside (Nat.le_of_lt below)
    rw [← same] at place
    omega

/-- Every byte the low byte of its address. -/
def numbered (address : UInt32) : UInt8 :=
  address.toUInt8

/-- Five bytes moved up by two, over the end of where they were. -/
theorem myMemcpy_overlapping_move_five :
    (∀ i : UInt16, i < 5 →
      (myMemcpy 0x20000002 0x20000000 5 numbered).2 (0x20000002 + i.toUInt32) =
        numbered (0x20000000 + i.toUInt32)) ∧
      ∀ address : UInt32, address.toNat < 0x20000002 ∨ 0x20000007 ≤ address.toNat →
        (myMemcpy 0x20000002 0x20000000 5 numbered).2 address = numbered address :=
  @myMemcpy_overlapping_move 0x20000002 0x20000000 0x20010000 5 numbered
    (by decide) (by decide) (by unfold Inside; decide) (by unfold Inside; decide)

/-! ## The buffers of the receivers

A service moves what is left of its buffer to the start of the same buffer, so
its addresses are those of the buffer and offsets in it.
-/

/-- A buffer at `start`, as its bytes are numbered. -/
def buffer (memory : UInt32 → UInt8) (start : UInt32) : Nat → UInt8 :=
  fun i => memory (byteAt start i)

theorem byteAt_byteAt {first second : Nat} : byteAt (byteAt start first) second = byteAt start (first + second) := by
  rw [byteAt, byteAt, byteAt, UInt32.ofNat_add, UInt32.add_assoc]

theorem inside_part {room offset : Nat} (inside : Inside size start room) (fits : offset + count.toNat ≤ room) :
    Inside size (byteAt start offset) count.toNat := by
  have bound : start.toNat + room ≤ size.toNat := inside
  have place := byteAt_toNat inside (show offset ≤ room by omega)
  unfold Inside
  omega

theorem byteAt_ne_null {room i : Nat} (inside : Inside size start room) (below : i ≤ room)
    (nonNull : start ≠ null) : byteAt start i ≠ null := by
  intro zero
  have place := byteAt_toNat inside below
  rw [zero] at place
  apply nonNull
  apply UInt32.toNat_inj.mp
  have nothing : null.toNat = 0 := rfl
  omega

/-- Within one buffer the move is the one the receivers are modelled with. -/
theorem buffer_myMemcpy {room destAt srcAt : Nat} (nonNull : start ≠ null) (inside : Inside size start room)
    (destFits : destAt + count.toNat ≤ room) (srcFits : srcAt + count.toNat ≤ room) {i : Nat} (below : i < room) :
    buffer (myMemcpy (byteAt start destAt) (byteAt start srcAt) count memory).2 start i =
      Uart.myMemcpy (buffer memory start) destAt srcAt count.toNat i := by
  have destInside := inside_part inside destFits
  have moved : Moved (byteAt (byteAt start destAt)) (byteAt (byteAt start srcAt)) memory
      (myMemcpy (byteAt start destAt) (byteAt start srcAt) count memory).2 0 count.toNat := by
    apply myMemcpy_moved _ _ destInside (inside_part inside srcFits)
    · exact byteAt_ne_null inside (Nat.le_trans (Nat.le_add_right _ _) destFits) nonNull
    · exact byteAt_ne_null inside (Nat.le_trans (Nat.le_add_right _ _) srcFits) nonNull
  rw [Uart.myMemcpy_apply, buffer]
  by_cases written : destAt ≤ i ∧ i < destAt + count.toNat
  · have copied := moved.copied (i - destAt) (Nat.zero_le _) (by omega)
    rw [byteAt_byteAt, byteAt_byteAt, Nat.add_sub_cancel' written.1] at copied
    rw [if_pos written, copied, buffer]
  · rw [if_neg written, buffer]
    apply moved.frame
    intro j _ inRange
    rw [byteAt_byteAt]
    intro same
    have place := byteAt_toNat inside (Nat.le_of_lt below)
    have other := byteAt_toNat inside (show destAt + j ≤ room by omega)
    rw [same] at place
    omega

end SyrFilter.Tds.Memcpy
