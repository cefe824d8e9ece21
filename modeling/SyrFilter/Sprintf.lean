import SyrFilter.Lib.Decimal

namespace SyrFilter.Sprintf

open SyrFilter.Lib.Decimal

/-! # `rt_sprintf`

`rt-thread/src/kservice.c`, for `%s` and the decimal conversions.  `long` has
32 bits here and the arguments are words of 32 bits, so a number is a word and
its sign is that of its two's complement.
-/

variable {num : UInt32}

/-- A word as `long`. -/
def signed (num : UInt32) : Int :=
  if num.toNat < 2 ^ 31 then num.toNat else num.toNat - 2 ^ 32

/-- The characters of a literal. -/
def chars (literal : String) : List UInt8 := literal.toList.map fun char => char.toNat.toUInt8

/-- `divide` for base 10: the remainder, and what is left in `*n`. -/
def divide (num : UInt32) : UInt32 × UInt32 := (num % 10, num / 10)

/-- `small_digits`, up to the digits of base 10. -/
def digitOf (remainder : UInt32) : UInt8 := 0x30 + remainder.toUInt8

/-- `while (num != 0) tmp[i++] = digits[divide(&num, base)];` -/
def digitLoop (num : UInt32) : List UInt8 :=
  if num = 0 then [] else digitOf (divide num).1 :: digitLoop (divide num).2
termination_by num.toNat
decreasing_by
  have positive : 0 < num.toNat := UInt32.lt_iff_toNat_lt.mp (UInt32.pos_iff_ne_zero.mpr ‹_›)
  simp only [divide, UInt32.toNat_div]
  exact Nat.div_lt_self positive (by decide)

/-- `tmp[]` up to `i`. -/
def tmp (num : UInt32) : List UInt8 := if num = 0 then [0x30] else digitLoop num

/-- `num = -num` where the number is negative. -/
def magnitude (num : UInt32) : UInt32 := if signed num < 0 then -num else num

def sign (num : UInt32) : List UInt8 := if signed num < 0 then [0x2D] else []

/-- `print_number` in base 10 with `SIGN` and no precision: `s` is the field
width, and `ZEROPAD` fills up with zeros behind the sign instead of spaces
before it. -/
def printNumber (num : UInt32) (s : Int) (zeropad : Bool) : List UInt8 :=
  let size : Int := s - (tmp (magnitude num)).length - (sign num).length
  if zeropad then sign num ++ List.replicate size.toNat 0x30 ++ (tmp (magnitude num)).reverse
  else List.replicate size.toNat 0x20 ++ sign num ++ (tmp (magnitude num)).reverse

/-- A part of a format, with its argument. -/
inductive Item where
  | chars (literal : String)
  /-- `%s` -/
  | s (text : List UInt8)
  /-- `%d`, and `%ld` with it -/
  | d (num : UInt32)
  /-- `%d` with `0` and a width -/
  | padded (width : Nat) (num : UInt32)

def Item.text : Item → List UInt8
  | .chars literal => Sprintf.chars literal
  | .s text => text
  | .d num => printNumber num (-1) false
  | .padded width num => printNumber num width true

/-- What `rt_sprintf` puts before the terminator. -/
def sprintf (format : List Item) : List UInt8 := (format.map Item.text).flatten

/-- The string that starts at an array of characters. -/
def cString (array : List UInt8) : List UInt8 := array.takeWhile (· ≠ 0)

/-! ## Numbers -/

theorem signed_range (num : UInt32) : -2 ^ 31 ≤ signed num ∧ signed num < 2 ^ 31 := by
  have word : num.toNat < 2 ^ 32 := num.toNat_lt
  rw [signed]
  split <;> omega

theorem signed_neg_iff : signed num < 0 ↔ 2 ^ 31 ≤ num.toNat := by
  have word : num.toNat < 2 ^ 32 := num.toNat_lt
  rw [signed]
  split <;> omega

theorem toNat_magnitude : (magnitude num).toNat = (signed num).natAbs := by
  have word : num.toNat < 2 ^ 32 := num.toNat_lt
  by_cases small : num.toNat < 2 ^ 31
  · have positive : ¬signed num < 0 := by
      rw [signed_neg_iff]
      omega
    rw [magnitude, if_neg positive, signed, if_pos small, Int.natAbs_natCast]
  · have negative : signed num < 0 := signed_neg_iff.mpr (by omega)
    rw [magnitude, if_pos negative, signed, if_neg small, UInt32.toNat_neg, UInt32.size]
    omega

theorem signed_of_lt (small : num.toNat < 2 ^ 31) : signed num = num.toNat := if_pos small

/-- The word is the `long` again. -/
theorem ofInt_signed : UInt32.ofInt (signed num) = num := by
  have word : num.toNat < 2 ^ 32 := num.toNat_lt
  apply UInt32.toNat_inj.mp
  rw [UInt32.ofInt, UInt32.toNat_ofNat', signed]
  split <;> omega

theorem digitLoop_eq : digitLoop num = (Nat.digits 10 num.toNat).map digitCode := by
  fun_induction digitLoop num with
  | case1 => simp
  | case2 num nonzero ih =>
      have positive : num.toNat ≠ 0 := fun zero => nonzero (UInt32.toNat_inj.mp zero)
      have lowest : digitOf (divide num).1 = digitCode (num.toNat % 10) := by
        rw [digitOf, digitCode, divide]
        congr 1
      rw [Nat.digits_def' (by omega) (Nat.pos_of_ne_zero positive), List.map_cons, lowest, ih]
      simp [divide]

theorem tmp_reverse : (tmp num).reverse = decimal num.toNat := by
  rw [tmp, decimal]
  by_cases zero : num = 0
  · simp [zero, digitCode]
  · have positive : num.toNat ≠ 0 := fun same => zero (UInt32.toNat_inj.mp same)
    rw [if_neg zero, if_neg positive, digitLoop_eq]

theorem printNumber_unpadded : printNumber num (-1) false = sign num ++ decimal (signed num).natAbs := by
  have full : (-1 - (tmp (magnitude num)).length - (sign num).length : Int).toNat = 0 := by omega
  simp [printNumber, full, tmp_reverse, toNat_magnitude]

/-! ## Lengths -/

theorem length_sign : (sign num).length = if signed num < 0 then 1 else 0 := by
  rw [sign]
  split <;> rfl

/-- A negative number has a place less for its digits. -/
theorem length_printNumber_le_iff (places : Nat) :
    (printNumber num (-1) false).length ≤ places + 1 ↔
      -((10 ^ places : Nat) : Int) < signed num ∧ signed num < (10 ^ (places + 1) : Nat) := by
  have positive : 0 < 10 ^ places := Nat.pow_pos (by omega)
  have digits := @length_decimal_le_iff (signed num).natAbs (places + 1) (Nat.succ_pos places)
  rw [printNumber_unpadded, List.length_append, length_sign]
  by_cases negative : signed num < 0
  · have fewer : (decimal (signed num).natAbs).length ≤ places ↔ (signed num).natAbs < 10 ^ places := by
      cases places with
      | zero =>
          have some : 0 < (decimal (signed num).natAbs).length := List.length_pos_iff.mpr decimal_ne_nil
          rw [Nat.pow_zero]
          omega
      | succ places => exact length_decimal_le_iff (Nat.succ_pos places)
    rw [if_pos negative]
    omega
  · rw [if_neg negative]
    omega

theorem length_printNumber_le_iff_of_lt (small : num.toNat < 2 ^ 31) (places : Nat) :
    (printNumber num (-1) false).length ≤ places + 1 ↔ num.toNat < 10 ^ (places + 1) := by
  have positive : 0 < 10 ^ places := Nat.pow_pos (by omega)
  rw [length_printNumber_le_iff, signed_of_lt small]
  omega

/-- The padding is part of the text. -/
theorem le_length_padded (width : Nat) : width ≤ (printNumber num width true).length := by
  simp only [printNumber, if_true, List.length_append, List.length_replicate, List.length_reverse]
  omega

end SyrFilter.Sprintf
