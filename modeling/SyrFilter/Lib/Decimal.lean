import Mathlib.Data.Nat.Digits.Lemmas

namespace SyrFilter.Lib.Decimal

/-! # Decimal texts

A number as the ASCII codes of its decimal digits, the highest first, and the
number that the digits at the start of a text stand for.
-/

variable {number value width : Nat} {digits : List Nat} {text rest : List UInt8} {code : UInt8}

def digitCode (digit : Nat) : UInt8 := 0x30 + UInt8.ofNat digit

def decimal (number : Nat) : List UInt8 :=
  if number = 0 then [digitCode 0] else ((Nat.digits 10 number).map digitCode).reverse

def IsDigit (code : UInt8) : Prop := 0x30 ≤ code ∧ code ≤ 0x39

instance : Decidable (IsDigit code) := inferInstanceAs (Decidable (_ ∧ _))

/-- Continues a number with the digits a text starts with. -/
def readOn (value : Nat) : List UInt8 → Nat
  | [] => value
  | code :: rest => if IsDigit code then readOn (10 * value + (code.toNat - 0x30)) rest else value

def readNumber (text : List UInt8) : Nat := readOn 0 text

/-! ## Digits -/

theorem toNat_digitCode {digit : Nat} (small : digit < 10) : (digitCode digit).toNat = 0x30 + digit := by
  rw [digitCode, UInt8.toNat_add, UInt8.toNat_ofNat']
  simp
  omega

theorem isDigit_iff : IsDigit code ↔ 0x30 ≤ code.toNat ∧ code.toNat ≤ 0x39 := by
  simp [IsDigit, UInt8.le_iff_toNat_le]

theorem isDigit_digitCode {digit : Nat} (small : digit < 10) : IsDigit (digitCode digit) := by
  rw [isDigit_iff, toNat_digitCode small]
  omega

theorem isDigit_of_mem_decimal (member : code ∈ decimal number) : IsDigit code := by
  rw [decimal] at member
  split at member
  · obtain rfl := List.mem_singleton.mp member
    exact isDigit_digitCode (by omega)
  · obtain ⟨digit, listed, rfl⟩ := List.mem_map.mp (List.mem_reverse.mp member)
    exact isDigit_digitCode (Nat.digits_lt_base (by omega) listed)

theorem decimal_ne_nil : decimal number ≠ [] := by
  rw [decimal]
  split
  · simp
  · simpa using Nat.digits_ne_nil_iff_ne_zero.mpr ‹number ≠ 0›

theorem decimal_eq_cons (number : Nat) : ∃ code rest, decimal number = code :: rest ∧ IsDigit code := by
  cases equal : decimal number with
  | nil => exact absurd equal decimal_ne_nil
  | cons code rest =>
      have member : code ∈ decimal number := equal ▸ List.mem_cons_self
      exact ⟨code, rest, rfl, isDigit_of_mem_decimal member⟩

/-! ## Lengths -/

theorem length_decimal_le_iff (some : 0 < width) : (decimal number).length ≤ width ↔ number < 10 ^ width := by
  rw [decimal]
  split
  · simp [‹number = 0›]
    omega
  · rw [List.length_reverse, List.length_map, Nat.digits_length_le_iff (by omega)]

/-! ## Reading back -/

theorem readOn_append (allDigits : ∀ code ∈ text, IsDigit code) :
    readOn value (text ++ rest) = readOn (readOn value text) rest := by
  induction text generalizing value with
  | nil => rfl
  | cons code text ih =>
      have first : IsDigit code := allDigits code List.mem_cons_self
      have others : ∀ code ∈ text, IsDigit code := fun code member => allDigits code (List.mem_cons_of_mem _ member)
      simp only [List.cons_append, readOn, if_pos first]
      exact ih others

/-- Where the digits end, so does the number. -/
theorem readOn_stop (stops : ∀ code ∈ rest.head?, ¬IsDigit code) : readOn value rest = value := by
  cases rest with
  | nil => rfl
  | cons code rest =>
      have stop : ¬IsDigit code := stops code (by simp)
      simp [readOn, stop]

theorem readOn_digits (small : ∀ digit ∈ digits, digit < 10) :
    readOn 0 (digits.map digitCode).reverse = Nat.ofDigits 10 digits := by
  induction digits with
  | nil => rfl
  | cons digit digits ih =>
      have lowest : digit < 10 := small digit List.mem_cons_self
      have others : ∀ digit ∈ digits, digit < 10 := fun digit member => small digit (List.mem_cons_of_mem _ member)
      have higher : ∀ code ∈ (digits.map digitCode).reverse, IsDigit code := by
        intro code member
        obtain ⟨digit, listed, rfl⟩ := List.mem_map.mp (List.mem_reverse.mp member)
        exact isDigit_digitCode (others digit listed)
      rw [List.map_cons, List.reverse_cons, readOn_append higher, ih others, Nat.ofDigits_cons]
      simp only [readOn, if_pos (isDigit_digitCode lowest), toNat_digitCode lowest]
      omega

theorem readNumber_decimal (stops : ∀ code ∈ rest.head?, ¬IsDigit code) : readNumber (decimal number ++ rest) = number := by
  have allDigits : ∀ code ∈ decimal number, IsDigit code := fun _ => isDigit_of_mem_decimal
  rw [readNumber, readOn_append allDigits, readOn_stop stops, decimal]
  split
  · simp [‹number = 0›, readOn, isDigit_digitCode, toNat_digitCode]
  · rw [readOn_digits fun _ => Nat.digits_lt_base (by omega), Nat.ofDigits_digits]

end SyrFilter.Lib.Decimal
