import Mathlib.Data.List.GetD
import SyrFilter.Lib.Chunks

namespace SyrFilter.Lib

/-! # NOR flash

Erasing sets every bit of a range; programming only clears bits.  What a region
holds is stated with `Holds`, which splits along appended lists, and `Blank`.
-/

abbrev Nor := Nat → UInt8

namespace Nor

variable {nor : Nor} {addr other size start stop cell : Nat} {bytes first second : List UInt8}

def program (nor : Nor) (addr : Nat) (bytes : List UInt8) : Nor := fun cell =>
  if addr ≤ cell ∧ cell < addr + bytes.length then nor cell &&& bytes.getD (cell - addr) 0xFF else nor cell

def erase (nor : Nor) (addr size : Nat) : Nor := fun cell =>
  if addr ≤ cell ∧ cell < addr + size then 0xFF else nor cell

def Holds (nor : Nor) (addr : Nat) (bytes : List UInt8) : Prop := window nor addr bytes.length = bytes

def Blank (nor : Nor) (start stop : Nat) : Prop := ∀ cell, start ≤ cell → cell < stop → nor cell = 0xFF

/-- What a cut may leave of a change: of the bits to clear, any. -/
def Torn (before after cut : Nor) : Prop :=
  ∀ cell, cut cell &&& before cell = cut cell ∧ cut cell &&& after cell = after cell

theorem program_outside (outside : cell < addr ∨ addr + bytes.length ≤ cell) :
    nor.program addr bytes cell = nor cell := by
  rw [program, if_neg (by omega)]

theorem erase_outside (outside : cell < addr ∨ addr + size ≤ cell) : nor.erase addr size cell = nor cell := by
  rw [erase, if_neg (by omega)]

theorem program_inside {index : Nat} (inside : index < bytes.length) :
    nor.program addr bytes (addr + index) = nor (addr + index) &&& bytes[index] := by
  have within : addr ≤ addr + index ∧ addr + index < addr + bytes.length := by omega
  rw [program, if_pos within, Nat.add_sub_cancel_left, List.getD_eq_getElem _ _ inside]

@[simp] theorem program_nil : nor.program addr [] = nor := by
  funext cell
  exact program_outside (by simp only [List.length_nil]; omega)

theorem program_append :
    nor.program addr (first ++ second) = (nor.program addr first).program (addr + first.length) second := by
  funext cell
  rcases Nat.lt_or_ge cell (addr + first.length) with early | late
  · rw [program_outside (.inl early), program, program, List.length_append]
    by_cases here : addr ≤ cell
    · rw [if_pos (by omega), if_pos (by omega), List.getD_append _ _ _ _ (by omega)]
    · rw [if_neg (by omega), if_neg (by omega)]
  · have past : nor.program addr first cell = nor cell := program_outside (.inr late)
    rw [program, program, past, List.length_append, Nat.add_assoc]
    by_cases here : cell < addr + (first.length + second.length)
    · rw [if_pos (by omega), if_pos (by omega), List.getD_append_right _ _ _ _ (by omega)]
      congr 2
      omega
    · rw [if_neg (by omega), if_neg (by omega)]

theorem torn_program_left : nor.Torn (nor.program addr bytes) nor := by
  intro cell
  refine ⟨UInt8.and_self, ?_⟩
  rw [program]
  split
  · rw [← UInt8.and_assoc, UInt8.and_self]
  · exact UInt8.and_self

theorem Torn.outside {cut : Nor} (torn : nor.Torn (nor.program addr bytes) cut)
    (outside : cell < addr ∨ addr + bytes.length ≤ cell) : cut cell = nor cell := by
  obtain ⟨within, kept⟩ := torn cell
  rw [program_outside outside] at kept
  exact within.symm.trans kept

/-! ## What a region holds -/

theorem holds_iff : nor.Holds addr bytes ↔ ∀ index (inside : index < bytes.length), nor (addr + index) = bytes[index] := by
  constructor
  · intro holds index inside
    have there : (window nor addr bytes.length)[index]? = bytes[index]? := by rw [holds]
    rw [getElem?_window inside, List.getElem?_eq_getElem inside] at there
    exact Option.some.inj there
  · intro same
    apply List.ext_getElem (by simp)
    intro index _ inside
    rw [getElem_window]
    exact same index inside

@[simp] theorem holds_nil : nor.Holds addr [] := rfl

@[simp] theorem holds_append :
    nor.Holds addr (first ++ second) ↔ nor.Holds addr first ∧ nor.Holds (addr + first.length) second := by
  rw [Holds, List.length_append, window_add]
  constructor
  · intro both
    exact List.append_inj both (by simp)
  · rintro ⟨early, late⟩
    rw [early, late]

theorem holds_singleton {byte : UInt8} : nor.Holds addr [byte] ↔ nor addr = byte := by
  simp [Holds, window]

theorem holds_cons {byte : UInt8} : nor.Holds addr (byte :: bytes) ↔ nor addr = byte ∧ nor.Holds (addr + 1) bytes := by
  rw [← List.singleton_append, holds_append, holds_singleton, List.length_singleton]

theorem Holds.congr {nor' : Nor} (holds : nor.Holds addr bytes)
    (same : ∀ cell, addr ≤ cell → cell < addr + bytes.length → nor' cell = nor cell) : nor'.Holds addr bytes := by
  rw [holds_iff] at holds ⊢
  intro index inside
  rw [same _ (by omega) (by omega), holds index inside]

theorem Blank.congr {nor' : Nor} (blank : nor.Blank start stop)
    (same : ∀ cell, start ≤ cell → cell < stop → nor' cell = nor cell) : nor'.Blank start stop := by
  intro cell above below
  rw [same cell above below, blank cell above below]

theorem Blank.mono {start' stop' : Nat} (blank : nor.Blank start stop) (above : start ≤ start') (below : stop' ≤ stop) :
    nor.Blank start' stop' := fun cell up down => blank cell (by omega) (by omega)

theorem Blank.program (blank : nor.Blank start stop) {written : List UInt8}
    (apart : other + written.length ≤ start ∨ stop ≤ other) : (nor.program other written).Blank start stop :=
  blank.congr fun _ _ _ => program_outside (by omega)

theorem erase_blank : (nor.erase addr size).Blank addr (addr + size) := fun _ above below => if_pos ⟨above, below⟩

/-- Blank cells take what is programmed. -/
theorem Blank.holds_program (blank : nor.Blank addr (addr + bytes.length)) : (nor.program addr bytes).Holds addr bytes := by
  rw [holds_iff]
  intro index inside
  rw [program_inside inside, blank _ (by omega) (by omega)]
  exact UInt8.neg_one_and

/-- Programmed over what is held, only the bits common to both stay. -/
theorem Holds.program_over (holds : nor.Holds addr first) (same : second.length = first.length) :
    (nor.program addr second).Holds addr (List.zipWith (· &&& ·) first second) := by
  rw [holds_iff] at holds ⊢
  intro index inside
  rw [List.length_zipWith, same, Nat.min_self] at inside
  rw [program_inside (by omega), holds index inside, List.getElem_zipWith]

theorem Holds.program_byte {byte written : UInt8} (holds : nor.Holds addr [byte]) :
    (nor.program addr [written]).Holds addr [byte &&& written] := holds.program_over rfl

/-! ## Copies -/

variable {source dest total : Nat}

theorem window_program (apart : other + bytes.length ≤ addr ∨ addr + size ≤ other) :
    window (nor.program other bytes) addr size = window nor addr size :=
  window_congr fun index inside => program_outside (by omega)

/-- A copy piece by piece to a place apart is a copy of the whole. -/
theorem program_pieces (positive : 0 < size) (apart : source + total ≤ dest ∨ dest + total ≤ source) :
    (pieces size total).foldl (fun nor piece => nor.program (dest + piece.1) (window nor (source + piece.1) piece.2)) nor =
      nor.program dest (window nor source total) := by
  have rounds (count : Nat) :
      ((List.range count).map fun round => (round * size, min size (total - round * size))).foldl
          (fun nor piece => nor.program (dest + piece.1) (window nor (source + piece.1) piece.2)) nor =
        nor.program dest (window nor source (min (count * size) total)) := by
    induction count with
    | zero => simp [window]
    | succ count ih =>
        rw [List.range_succ, List.map_append, List.foldl_append, ih, List.map_singleton, List.foldl_cons, List.foldl_nil]
        dsimp only
        rw [Nat.succ_mul]
        rcases Nat.lt_or_ge total (count * size) with early | late
        · have nothing : total - count * size = 0 := by omega
          have whole : min (count * size) total = min (count * size + size) total := by omega
          rw [nothing, whole, Nat.min_zero, window_zero, program_nil]
        · have read : window (nor.program dest (window nor source (count * size))) (source + count * size)
              (min size (total - count * size)) = window nor (source + count * size) (min size (total - count * size)) :=
            window_program (by rw [length_window]; omega)
          have sum : min (count * size + size) total = count * size + min size (total - count * size) := by omega
          rw [Nat.min_eq_left late, read, sum, window_add, program_append, length_window]
  rw [pieces, rounds]
  congr 2
  have enough := Nat.div_add_mod (total + size - 1) size
  have short := Nat.mod_lt (total + size - 1) positive
  rw [Nat.mul_comm] at enough
  omega

end Nor

end SyrFilter.Lib
