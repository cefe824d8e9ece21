import Mathlib.Data.Nat.Basic
import SyrFilter.Lib.Nor

namespace SyrFilter.Lib

/-! # Words in memory, the low byte first -/

def leWord (b0 b1 b2 b3 : UInt8) : UInt32 :=
  b0.toUInt32 + (b1.toUInt32 <<< 8) + (b2.toUInt32 <<< 16) + (b3.toUInt32 <<< 24)

def leBytes (word : UInt32) : List UInt8 :=
  [word.toUInt8, (word >>> 8).toUInt8, (word >>> 16).toUInt8, (word >>> 24).toUInt8]

def wordAt (memory : Nat → UInt8) (addr : Nat) : UInt32 :=
  leWord (memory addr) (memory (addr + 1)) (memory (addr + 2)) (memory (addr + 3))

variable {nor : Nor} {addr : Nat} {word : UInt32}

@[simp] theorem length_leBytes : (leBytes word).length = 4 := rfl

theorem toNat_leWord (b0 b1 b2 b3 : UInt8) :
    (leWord b0 b1 b2 b3).toNat = b0.toNat + b1.toNat * 0x100 + b2.toNat * 0x10000 + b3.toNat * 0x1000000 := by
  have h0 := b0.toNat_lt
  have h1 := b1.toNat_lt
  have h2 := b2.toNat_lt
  have h3 := b3.toNat_lt
  simp only [leWord, UInt32.toNat_add, UInt8.toNat_toUInt32, UInt32.toNat_shiftLeft, UInt32.reduceToNat, Nat.reduceMod,
    Nat.shiftLeft_eq]
  omega

theorem leWord_leBytes :
    leWord word.toUInt8 (word >>> 8).toUInt8 (word >>> 16).toUInt8 (word >>> 24).toUInt8 = word := by
  have bound := word.toNat_lt
  apply UInt32.toNat_inj.mp
  rw [toNat_leWord]
  simp [UInt32.toNat_toUInt8, UInt32.toNat_shiftRight, Nat.shiftRight_eq_div_pow]
  omega

theorem Nor.Holds.wordAt (holds : nor.Holds addr (leBytes word)) : wordAt nor addr = word := by
  simp only [leBytes, Nor.holds_cons, Nat.add_assoc] at holds
  obtain ⟨b0, b1, b2, b3, -⟩ := holds
  rw [Lib.wordAt, b0, b1, b2, b3]
  exact leWord_leBytes

theorem Nor.Blank.wordAt (blank : nor.Blank addr (addr + 4)) : Lib.wordAt nor addr = 0xFFFFFFFF := by
  rw [Lib.wordAt, blank _ (by omega) (by omega), blank _ (by omega) (by omega), blank _ (by omega) (by omega),
    blank _ (by omega) (by omega)]
  decide

end SyrFilter.Lib
