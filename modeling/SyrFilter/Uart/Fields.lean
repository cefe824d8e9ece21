import Mathlib.Data.Nat.Bitwise

namespace SyrFilter.Uart

/-! # Number fields of a frame

Numbers of more than one byte are sent with the high byte first.
-/

/-- `byte_to_int` of the bytes at a pointer. -/
def byteToInt (value : Nat → UInt8) : UInt32 :=
  (((value 0).toUInt32 <<< 8 ||| (value 1).toUInt32) <<< 8 ||| (value 2).toUInt32) <<< 8 |||
    (value 3).toUInt32

/-- `int_to_byte`. -/
def intToByte (number : UInt32) : List UInt8 :=
  [(number >>> 24).toUInt8, (number >>> 16).toUInt8, (number >>> 8).toUInt8, number.toUInt8]

/-- A 16-bit field. -/
def field16 (high low : UInt8) : UInt16 := high.toUInt16 <<< 8 ||| low.toUInt16

theorem toNat_shift_or {number : UInt32} (small : number.toNat < 2 ^ 24) (byte : UInt8) :
    (number <<< 8 ||| byte.toUInt32).toNat = number.toNat * 256 + byte.toNat := by
  have low := byte.toNat_lt
  have shifted : (number <<< 8).toNat = number.toNat <<< 8 := by
    rw [UInt32.toNat_shiftLeft]
    apply Nat.mod_eq_of_lt
    rw [Nat.shiftLeft_eq]
    simp
    omega
  rw [UInt32.toNat_or, shifted, UInt8.toNat_toUInt32, ← Nat.shiftLeft_add_eq_or_of_lt (by omega),
    Nat.shiftLeft_eq]

theorem toNat_byteToInt (value : Nat → UInt8) :
    (byteToInt value).toNat =
      (((value 0).toNat * 256 + (value 1).toNat) * 256 + (value 2).toNat) * 256 + (value 3).toNat := by
  have first := (value 0).toNat_lt
  have second := (value 1).toNat_lt
  have third := (value 2).toNat_lt
  have one : (value 0).toUInt32.toNat = (value 0).toNat := UInt8.toNat_toUInt32 _
  have two := toNat_shift_or (by omega : (value 0).toUInt32.toNat < 2 ^ 24) (value 1)
  rw [byteToInt]
  generalize (value 0).toUInt32 <<< 8 ||| (value 1).toUInt32 = upper at two ⊢
  have three := toNat_shift_or (by omega : upper.toNat < 2 ^ 24) (value 2)
  generalize upper <<< 8 ||| (value 2).toUInt32 = middle at three ⊢
  rw [toNat_shift_or (by omega : middle.toNat < 2 ^ 24), three, two, one]

theorem byteToInt_of_intToByte {value : Nat → UInt8} {number : UInt32}
    (bytes : [value 0, value 1, value 2, value 3] = intToByte number) : byteToInt value = number := by
  have bound := number.toNat_lt
  simp only [intToByte, List.cons.injEq, and_true] at bytes
  obtain ⟨first, second, third, fourth⟩ := bytes
  apply UInt32.toNat_inj.mp
  rw [toNat_byteToInt, first, second, third, fourth]
  simp only [UInt32.toNat_toUInt8, UInt32.toNat_shiftRight, Nat.shiftRight_eq_div_pow]
  simp
  omega

theorem intToByte_byteToInt (value : Nat → UInt8) :
    intToByte (byteToInt value) = [value 0, value 1, value 2, value 3] := by
  have read := toNat_byteToInt value
  have first := (value 0).toNat_lt
  have second := (value 1).toNat_lt
  have third := (value 2).toNat_lt
  have fourth := (value 3).toNat_lt
  simp only [intToByte, List.cons.injEq, and_true]
  refine ⟨?_, ?_, ?_, ?_⟩ <;> apply UInt8.toNat_inj.mp <;>
    simp [UInt32.toNat_toUInt8, Nat.shiftRight_eq_div_pow, read] <;> omega

theorem toNat_field16 (high low : UInt8) : (field16 high low).toNat = high.toNat * 256 + low.toNat := by
  have highBound := high.toNat_lt
  have lowBound := low.toNat_lt
  have shifted : (high.toUInt16 <<< 8).toNat = high.toNat <<< 8 := by
    rw [UInt16.toNat_shiftLeft]
    apply Nat.mod_eq_of_lt
    rw [Nat.shiftLeft_eq]
    simp
    omega
  rw [field16, UInt16.toNat_or, shifted, UInt8.toNat_toUInt16,
    ← Nat.shiftLeft_add_eq_or_of_lt (by omega), Nat.shiftLeft_eq]

end SyrFilter.Uart
