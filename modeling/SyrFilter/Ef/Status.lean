import Mathlib.Data.List.TakeDrop
import SyrFilter.Lib.Nor

namespace SyrFilter.Ef

open SyrFilter.Lib

/-! # Status tables

`ef_env.c` keeps the status of sectors and entries in tables of one bit a
status, which flash can move on without an erase: a status is the last bit that
has been cleared.
-/

def statusTableSize (statusNum : Nat) : Nat := (statusNum * 1 + 7) / 8

def statusBit (index : Nat) : UInt8 := 0x80 >>> (index % 8).toUInt8

/-- `set_status`, with the byte that has changed; `none` is `~0UL`. -/
def setStatus (statusNum statusIndex : Nat) : List UInt8 × Option Nat :=
  let statusTable := List.replicate (statusTableSize statusNum) 0xFF
  if 0 < statusIndex then
    let byteIndex := (statusIndex - 1) / 8
    (statusTable.set byteIndex (statusTable.getD byteIndex 0 &&& ~~~statusBit (statusIndex - 1)), some byteIndex)
  else (statusTable, none)

def cleared (statusTable : List UInt8) (index : Nat) : Bool :=
  statusTable.getD (index / 8) 0 &&& statusBit index == 0

/-- The loop of `get_status`, from the end of the table. -/
def lastCleared (isCleared : Nat → Bool) : Nat → Nat
  | 0 => 0
  | index + 1 => if isCleared index then index + 1 else lastCleared isCleared index

def getStatus (statusTable : List UInt8) (statusNum : Nat) : Nat := lastCleared (cleared statusTable) (statusNum - 1)

def writeStatus (flash : Nor) (addr statusNum statusIndex : Nat) : Nor :=
  match setStatus statusNum statusIndex with
  | (statusTable, some byteIndex) => flash.program (addr + byteIndex) [statusTable.getD byteIndex 0]
  | (_, none) => flash

def readStatus (flash : Nor) (addr totalNum : Nat) : Nat :=
  getStatus (window flash addr (statusTableSize totalNum)) totalNum

/-! ## One more status -/

section

variable {flash : Nor} {addr num index : Nat} {isCleared other : Nat → Bool}

theorem lastCleared_le : lastCleared isCleared num ≤ num := by
  induction num with
  | zero => exact Nat.le_refl 0
  | succ num ih =>
      rw [lastCleared]
      split <;> omega

theorem lastCleared_none (uncleared : ∀ n < num, isCleared n = false) : lastCleared isCleared num = 0 := by
  induction num with
  | zero => rfl
  | succ num ih =>
      rw [lastCleared, uncleared num (Nat.lt_succ_self num), if_neg Bool.false_ne_true]
      exact ih fun n below => uncleared n (Nat.lt_succ_of_lt below)

/-- With one more bit cleared, the last is this or the one that was. -/
theorem lastCleared_or (below : index < num) (more : ∀ n < num, other n = (isCleared n || n == index)) :
    lastCleared other num = max (lastCleared isCleared num) (index + 1) := by
  induction num with
  | zero => cases below
  | succ num ih =>
      have shown := more num (Nat.lt_succ_self num)
      have bound : lastCleared isCleared num ≤ num := lastCleared_le
      rw [lastCleared, lastCleared, shown]
      by_cases here : num = index
      · subst here
        simp only [beq_self_eq_true, Bool.or_true, if_true]
        split <;> omega
      · simp only [beq_eq_false_iff_ne.mpr here, Bool.or_false]
        split
        · omega
        · exact ih (by omega) fun n early => more n (Nat.lt_succ_of_lt early)

theorem statusBit_and (n index : Fin 8) : statusBit n &&& ~~~statusBit index = if n = index then 0 else statusBit n := by
  revert n index
  decide

theorem statusBit_mod (n : Nat) : statusBit n = statusBit (n % 8) := by
  rw [statusBit, statusBit, Nat.mod_mod]

theorem statusBit_ne_zero (n : Fin 8) : statusBit n ≠ 0 := by
  revert n
  decide

/-- Clearing one bit of a byte. -/
theorem cleared_and (byte : UInt8) (n : Nat) (same : n / 8 = index / 8) :
    (byte &&& ~~~statusBit index) &&& statusBit n = 0 ↔ byte &&& statusBit n = 0 ∨ n = index := by
  have bits := statusBit_and ⟨n % 8, Nat.mod_lt n (by decide)⟩ ⟨index % 8, Nat.mod_lt index (by decide)⟩
  simp only [← statusBit_mod, Fin.mk.injEq] at bits
  have swapped : (byte &&& ~~~statusBit index) &&& statusBit n = byte &&& (statusBit n &&& ~~~statusBit index) := by
    rw [UInt8.and_assoc, UInt8.and_comm (~~~statusBit index)]
  rw [swapped, bits]
  by_cases here : n = index
  · subst here
    simp
  · have apart : ¬n % 8 = index % 8 := by omega
    rw [if_neg apart]
    simp [here]

theorem setStatus_succ (inside : index / 8 < statusTableSize num) :
    ∃ table, setStatus num (index + 1) = (table, some (index / 8)) ∧ table.getD (index / 8) 0 = ~~~statusBit index := by
  refine ⟨_, rfl, ?_⟩
  have ones (byte : UInt8) : 0xFF &&& byte = byte := by
    rw [UInt8.and_comm]
    exact UInt8.and_neg_one
  simp [inside, ones]

theorem writeStatus_succ (inside : index / 8 < statusTableSize num) :
    writeStatus flash addr num (index + 1) = flash.program (addr + index / 8) [~~~statusBit index] := by
  obtain ⟨table, set, byte⟩ := @setStatus_succ num index inside
  rw [writeStatus, set]
  dsimp only
  rw [byte]

theorem statusTableSize_lt (below : index + 1 < num) : index / 8 < statusTableSize num := by
  rw [statusTableSize]
  omega

/-- What a status write does to each bit of the table. -/
theorem cleared_writeStatus (below : index + 1 < num) (n : Nat) (inside : n < num - 1) :
    cleared (window (writeStatus flash addr num (index + 1)) addr (statusTableSize num)) n =
      (cleared (window flash addr (statusTableSize num)) n || n == index) := by
  have here : n / 8 < statusTableSize num := by
    rw [statusTableSize]
    omega
  have byte (flash : Nor) : (window flash addr (statusTableSize num)).getD (n / 8) 0 = flash (addr + n / 8) := by
    rw [List.getD_eq_getElem?_getD, getElem?_window here, Option.getD_some]
  rw [cleared, cleared, byte, byte, writeStatus_succ (statusTableSize_lt below)]
  by_cases same : n / 8 = index / 8
  · have written : flash.program (addr + index / 8) [~~~statusBit index] (addr + index / 8 + 0) =
        flash (addr + index / 8 + 0) &&& ~~~statusBit index :=
      Nor.program_inside (Nat.zero_lt_succ 0)
    rw [Nat.add_zero] at written
    rw [same, written, Bool.eq_iff_iff, Bool.or_eq_true, beq_iff_eq, beq_iff_eq, beq_iff_eq]
    exact cleared_and _ n same
  · have apart : (n == index) = false := by
      rw [beq_eq_false_iff_ne]
      rintro rfl
      exact same rfl
    have outside : flash.program (addr + index / 8) [~~~statusBit index] (addr + n / 8) = flash (addr + n / 8) := by
      apply Nor.program_outside
      simp only [List.length_singleton]
      omega
    rw [outside, apart, Bool.or_false]

theorem readStatus_writeStatus (below : index < num) :
    readStatus (writeStatus flash addr num index) addr num = max (readStatus flash addr num) index := by
  cases index with
  | zero => exact (Nat.max_zero _).symm
  | succ index =>
      rw [readStatus, readStatus, getStatus, getStatus]
      exact lastCleared_or (by omega) fun n inside => cleared_writeStatus below n inside

theorem readStatus_blank (blank : flash.Blank addr (addr + statusTableSize num)) : readStatus flash addr num = 0 := by
  rw [readStatus, getStatus]
  apply lastCleared_none
  intro n inside
  have here : n / 8 < statusTableSize num := by
    rw [statusTableSize]
    omega
  have bit : statusBit n ≠ 0 := by
    rw [statusBit_mod]
    exact statusBit_ne_zero ⟨n % 8, Nat.mod_lt n (by decide)⟩
  have ones : (0xFF : UInt8) &&& statusBit n = statusBit n := by
    rw [UInt8.and_comm]
    exact UInt8.and_neg_one
  rw [cleared, List.getD_eq_getElem?_getD, getElem?_window here, Option.getD_some, blank _ (by omega) (by omega), ones]
  simpa using bit

/-! ## Cuts -/

theorem byte_ext {byte byte' : UInt8} (same : ∀ i < 8, byte.toBitVec.getLsbD i = byte'.toBitVec.getLsbD i) :
    byte = byte' :=
  UInt8.eq_of_toBitVec_eq (BitVec.eq_of_getLsbD_eq same)

theorem and_statusBit (byte : UInt8) (bit : Fin 8) :
    byte &&& statusBit bit = 0 ∨ byte &&& statusBit bit = statusBit bit := by
  have power : (statusBit bit).toBitVec = BitVec.twoPow 8 (7 - bit.val) := by
    revert bit
    decide
  have single : (byte &&& statusBit bit).toBitVec =
      if byte.toBitVec.getLsbD (7 - bit.val) then (statusBit bit).toBitVec else 0 := by
    rw [UInt8.toBitVec_and, power]
    exact BitVec.and_twoPow _ _
  split at single
  · exact .inr (UInt8.eq_of_toBitVec_eq single)
  · exact .inl (UInt8.eq_of_toBitVec_eq single)

/-- Where one bit is to be cleared, a cut leaves the byte as it was or as it was to be. -/
theorem eq_or_eq_of_between {before cut : UInt8} (bit : Fin 8) (within : cut &&& before = cut)
    (kept : cut &&& (before &&& ~~~statusBit bit) = before &&& ~~~statusBit bit) :
    cut = before ∨ cut = before &&& ~~~statusBit bit := by
  have bits {first second : UInt8} (same : first = second) (i : Nat) :
      first.toBitVec.getLsbD i = second.toBitVec.getLsbD i := by rw [same]
  rcases and_statusBit cut bit with clear | set
  · right
    apply byte_ext
    intro i below
    have atWithin := bits within i
    have atKept := bits kept i
    have atClear := bits clear i
    simp [below] at atWithin atKept atClear ⊢
    grind
  · left
    apply byte_ext
    intro i below
    have atWithin := bits within i
    have atKept := bits kept i
    have atSet := bits set i
    simp [below] at atWithin atKept atSet
    rw [BitVec.getLsbD_eq_getElem below, BitVec.getLsbD_eq_getElem below, Bool.eq_iff_iff]
    refine ⟨atWithin, fun before => ?_⟩
    cases bitSet : (statusBit bit.val).toBitVec[i] with
    | true => exact atSet bitSet
    | false => exact atKept before bitSet

theorem torn_writeStatus {cut : Nor} (below : index < num) (torn : flash.Torn (writeStatus flash addr num index) cut) :
    cut = flash ∨ cut = writeStatus flash addr num index := by
  cases index with
  | zero =>
      left
      funext cell
      obtain ⟨within, kept⟩ := torn cell
      exact within.symm.trans kept
  | succ index =>
      rw [writeStatus_succ (statusTableSize_lt below)] at torn ⊢
      have there := torn (addr + index / 8 + 0)
      rw [Nor.program_inside (Nat.zero_lt_succ 0), Nat.add_zero, List.getElem_cons_zero, statusBit_mod] at there
      have apart : ∀ cell, cell ≠ addr + index / 8 →
          cut cell = flash cell ∧ flash.program (addr + index / 8) [~~~statusBit index] cell = flash cell := by
        intro cell elsewhere
        have outside : cell < addr + index / 8 ∨ addr + index / 8 + [~~~statusBit index].length ≤ cell := by
          rw [List.length_singleton]
          omega
        exact ⟨torn.outside outside, Nor.program_outside outside⟩
      have written : flash.program (addr + index / 8) [~~~statusBit index] (addr + index / 8 + 0) =
          flash (addr + index / 8 + 0) &&& ~~~statusBit index := Nor.program_inside (Nat.zero_lt_succ 0)
      rw [Nat.add_zero, statusBit_mod] at written
      rcases eq_or_eq_of_between ⟨index % 8, Nat.mod_lt index (by decide)⟩ there.1 there.2 with old | new
      · left
        funext cell
        by_cases here : cell = addr + index / 8
        · rw [here, old]
        · exact (apart cell here).1
      · right
        funext cell
        by_cases here : cell = addr + index / 8
        · rw [here, new, statusBit_mod index, written]
        · rw [(apart cell here).1, (apart cell here).2]

/-- The memory after some status writes; power has cut those without the flag. -/
inductive Attempted (addr num : Nat) (flash : Nor) : List (Nat × Bool) → Nor → Prop
  | nothing : Attempted addr num flash [] flash
  | write {before : Nor} {attempts : List (Nat × Bool)} {index : Nat} :
      Attempted addr num flash attempts before →
        Attempted addr num flash (attempts ++ [(index, true)]) (writeStatus before addr num index)
  | cut {before after : Nor} {attempts : List (Nat × Bool)} {index : Nat} :
      Attempted addr num flash attempts before → before.Torn (writeStatus before addr num index) after →
        Attempted addr num flash (attempts ++ [(index, false)]) after

/-- A status that has been attempted, behind none that was written. -/
def Reached (attempts : List (Nat × Bool)) (status : Nat) : Prop :=
  (∀ attempt ∈ attempts, attempt.2 = true → attempt.1 ≤ status) ∧
    (status = 0 ∨ ∃ attempt ∈ attempts, attempt.1 = status)

section Reached

variable {attempts : List (Nat × Bool)} {status : Nat}

theorem Reached.stays (reached : Reached attempts status) (index : Nat) :
    Reached (attempts ++ [(index, false)]) status := by
  obtain ⟨written, attempted⟩ := reached
  constructor
  · intro attempt member full
    rcases List.mem_append.mp member with early | last
    · exact written attempt early full
    · obtain rfl := List.mem_singleton.mp last
      cases full
  · exact attempted.imp id fun ⟨attempt, member, same⟩ => ⟨attempt, List.mem_append_left _ member, same⟩

theorem Reached.moves (reached : Reached attempts status) (index : Nat) (full : Bool) :
    Reached (attempts ++ [(index, full)]) (max status index) := by
  obtain ⟨written, attempted⟩ := reached
  constructor
  · intro attempt member full
    rcases List.mem_append.mp member with early | last
    · exact Nat.le_trans (written attempt early full) (Nat.le_max_left _ _)
    · obtain rfl := List.mem_singleton.mp last
      exact Nat.le_max_right _ _
  · rcases Nat.le_total index status with behind | ahead
    · rw [Nat.max_eq_left behind]
      exact attempted.imp id fun ⟨attempt, member, same⟩ => ⟨attempt, List.mem_append_left _ member, same⟩
    · rw [Nat.max_eq_right ahead]
      exact .inr ⟨(index, full), by simp, rfl⟩

end Reached

/-- However often power is cut, the status read back is one of those attempted,
and none that was written lies beyond it. -/
theorem status_of_attempts {after : Nor} {attempts : List (Nat × Bool)}
    (blank : flash.Blank addr (addr + statusTableSize num)) (attempted : Attempted addr num flash attempts after)
    (known : ∀ attempt ∈ attempts, attempt.1 < num) : Reached attempts (readStatus after addr num) := by
  induction attempted with
  | nothing => exact ⟨by simp, .inl (readStatus_blank blank)⟩
  | @write before attempts index _ ih =>
      have reached := ih fun attempt member => known attempt (List.mem_append_left _ member)
      rw [readStatus_writeStatus (known (index, true) (by simp))]
      exact reached.moves index true
  | @cut before after attempts index _ torn ih =>
      have reached := ih fun attempt member => known attempt (List.mem_append_left _ member)
      have below : index < num := known (index, false) (by simp)
      rcases torn_writeStatus below torn with rfl | rfl
      · exact reached.stays index
      · rw [readStatus_writeStatus below]
        exact reached.moves index false

/-- An entry written and deleted, of which power has cut the step in between. -/
theorem status_of_attempts_cut :
    Reached [(1, true), (2, false), (4, true)]
      (readStatus (writeStatus (writeStatus (fun _ => 0xFF) 0 6 1) 0 6 4) 0 6) := by
  have written : Attempted 0 6 (fun _ => 0xFF) ([] ++ [(1, true)]) (writeStatus (fun _ => 0xFF) 0 6 1) := .write .nothing
  have cut : Attempted 0 6 (fun _ => 0xFF) ([] ++ [(1, true)] ++ [(2, false)]) (writeStatus (fun _ => 0xFF) 0 6 1) :=
    .cut written Nor.torn_program_left
  exact status_of_attempts (fun _ _ _ => rfl) (.write cut) (by decide)

end

end SyrFilter.Ef
