import SyrFilter.Lib.Chunks
import SyrFilter.Lib.Words

namespace SyrFilter.Ef

open SyrFilter.Lib

/-! # Scans of the flash

`find_next_env_addr` looks for the magic word of an entry and `continue_ff_addr`
for the blank end of a sector.  Both read the flash through a buffer of 32 bytes.
-/

/-- `ENV_MAGIC_WORD`: KV40. -/
def envMagicWord : UInt32 := 0x3034564B

def envMagicOffset : Nat := 4

/-- The loops of `find_next_env_addr`, whose buffer overlaps the next one by a word. -/
def findMagic (flash : Nor) (start stop : Nat) : Option Nat :=
  (pieces 28 (stop - start)).findSome? fun piece =>
    let here := start + piece.1
    let buf := window flash here 32
    (List.range piece.2).findSome? fun i =>
      let magic := leWord (buf.getD i 0) (buf.getD (i + 1) 0) (buf.getD (i + 2) 0) (buf.getD (i + 3) 0)
      if magic = envMagicWord ∧ start ≤ here + i - envMagicOffset then some (here + i - envMagicOffset) else none

/-- `continue_ff_addr`, with the last byte read beside the address. -/
def continueFf (flash : Nor) (start stop : Nat) : Nat × UInt8 :=
  (pieces 32 (stop - start)).foldl
    (fun acc piece =>
      let buf := window flash (start + piece.1) piece.2
      (List.range piece.2).foldl
        (fun acc i =>
          (if acc.2 ≠ 0xFF ∧ buf.getD i 0 = 0xFF then start + piece.1 + i else acc.1, buf.getD i 0))
        acc)
    (start, 0x00)

def continueFfAddr (flash : Nor) (start stop : Nat) : Nat :=
  let (addr, lastData) := continueFf flash start stop
  if lastData = 0xFF then addr else stop

section

variable {flash : Nor} {addr start stop count index : Nat}

theorem getD_window (inside : index < count) : (window flash start count).getD index 0 = flash (start + index) := by
  rw [List.getD_eq_getElem?_getD, getElem?_window inside, Option.getD_some]

/-- The scan piece by piece is the scan cell by cell. -/
theorem findMagic_eq :
    findMagic flash start stop =
      (List.range (stop - start)).findSome? fun i =>
        if wordAt flash (start + i) = envMagicWord ∧ start ≤ start + i - envMagicOffset then
          some (start + i - envMagicOffset)
        else none := by
  rw [findMagic, ← findSome?_pieces (Nat.zero_lt_succ 27)]
  apply findSome?_congr
  intro piece member
  obtain ⟨round, -, rfl⟩ := List.mem_map.mp member
  rw [cells, List.findSome?_map]
  apply findSome?_congr
  intro i inside
  have below : i < min 28 (stop - start - round * 28) := List.mem_range.mp inside
  dsimp only [Function.comp_apply]
  have byte (k : Nat) (within : k < 32) :
      (window flash (start + round * 28) 32).getD k 0 = flash (start + (round * 28 + k)) := by
    rw [getD_window within, Nat.add_assoc]
  rw [byte i (by omega), byte (i + 1) (by omega), byte (i + 2) (by omega), byte (i + 3) (by omega), Nat.add_assoc start]
  rfl

/-- The first magic word that has the offset of one behind the start. -/
theorem findMagic_eq_some (found : wordAt flash (addr + 4) = envMagicWord) (above : start ≤ addr) (below : addr + 4 < stop)
    (inside : 4 ≤ start) (first : ∀ other, start ≤ other → other < addr → wordAt flash (other + 4) ≠ envMagicWord) :
    findMagic flash start stop = some addr := by
  rw [findMagic_eq]
  have place : start + (addr + 4 - start) = addr + 4 := by omega
  have reached : start ≤ addr + 4 - envMagicOffset := above
  apply @findSome?_range _ _ _ (addr + 4 - start)
  · rw [place, if_pos ⟨found, reached⟩]
    rfl
  · omega
  · intro i before
    rw [if_neg]
    rintro ⟨other, behind⟩
    rw [envMagicOffset] at behind
    have there : start + i - 4 + 4 = start + i := by omega
    exact first (start + i - 4) behind (by omega) (by rw [there, other])

theorem findMagic_eq_none (inside : 4 ≤ start)
    (none : ∀ other, start ≤ other → other + 4 < stop → wordAt flash (other + 4) ≠ envMagicWord) :
    findMagic flash start stop = .none := by
  rw [findMagic_eq, List.findSome?_eq_none_iff]
  intro i member
  have below := List.mem_range.mp member
  rw [if_neg]
  rintro ⟨found, behind⟩
  rw [envMagicOffset] at behind
  have there : start + i - 4 + 4 = start + i := by omega
  exact none (start + i - 4) behind (by omega) (by rw [there, found])

/-! ## The blank end -/

/-- What the scan knows of the cells up to `stop`. -/
structure Trailing (flash : Nor) (start stop : Nat) (found : Nat × UInt8) : Prop where
  last : start < stop → found.2 = flash (stop - 1)
  untouched : start = stop → found = (start, 0x00)
  within : start ≤ found.1
  blank : found.2 = 0xFF → flash.Blank found.1 stop ∧ found.1 < stop ∧ (start < found.1 → flash (found.1 - 1) ≠ 0xFF)

theorem continueFf_eq :
    continueFf flash start stop =
      (List.range (stop - start)).foldl
        (fun acc i => (if acc.2 ≠ 0xFF ∧ flash (start + i) = 0xFF then start + i else acc.1, flash (start + i)))
        (start, 0x00) := by
  rw [continueFf, ← foldl_pieces (Nat.zero_lt_succ 31)]
  congr 1
  funext acc piece
  rw [cells, List.foldl_map]
  apply List.foldl_ext
  intro acc i member
  rw [getD_window (List.mem_range.mp member), Nat.add_assoc start]

theorem trailing (start count : Nat) :
    Trailing flash start (start + count)
      ((List.range count).foldl
        (fun acc i => (if acc.2 ≠ 0xFF ∧ flash (start + i) = 0xFF then start + i else acc.1, flash (start + i)))
        (start, 0x00)) := by
  induction count with
  | zero => exact ⟨by omega, fun _ => rfl, Nat.le_refl _, by simp⟩
  | succ count ih =>
      rw [List.range_succ, List.foldl_append, List.foldl_cons, List.foldl_nil]
      generalize (List.range count).foldl _ _ = found at ih ⊢
      obtain ⟨last, untouched, within, blank⟩ := ih
      refine ⟨fun _ => rfl, fun none => absurd none (by omega), ?_, ?_⟩
      · dsimp only
        split <;> omega
      · intro here
        dsimp only at here ⊢
        by_cases before : found.2 = 0xFF
        · obtain ⟨sofar, below, begins⟩ := blank before
          rw [if_neg fun both => both.1 before]
          refine ⟨fun cell above upTo => ?_, by omega, begins⟩
          rcases Nat.lt_or_ge cell (start + count) with early | late
          · exact sofar cell above early
          · have same : cell = start + count := by omega
            rw [same, here]
        · rw [if_pos ⟨before, here⟩]
          refine ⟨fun cell above upTo => ?_, by omega, fun some => ?_⟩
          · have same : cell = start + count := by omega
            rw [same, here]
          · rw [← last some]
            exact before

/-- From the address found on all is blank, and it is the first such. -/
theorem continueFfAddr_spec (ordered : start ≤ stop) :
    start ≤ continueFfAddr flash start stop ∧ continueFfAddr flash start stop ≤ stop ∧
      flash.Blank (continueFfAddr flash start stop) stop ∧
      (start < continueFfAddr flash start stop → flash (continueFfAddr flash start stop - 1) ≠ 0xFF) := by
  have found := @trailing flash start (stop - start)
  rw [← continueFf_eq, Nat.add_sub_cancel' ordered] at found
  obtain ⟨last, untouched, within, blank⟩ := found
  rw [continueFfAddr]
  dsimp only
  split
  · rename_i ends
    obtain ⟨sofar, below, begins⟩ := blank ends
    exact ⟨within, Nat.le_of_lt below, sofar, begins⟩
  · rename_i ends
    refine ⟨ordered, Nat.le_refl stop, fun cell above below => absurd below (by omega), fun some => ?_⟩
    rw [← last some]
    exact ends

theorem continueFfAddr_blank (ordered : start ≤ stop) (blank : flash.Blank start stop) :
    continueFfAddr flash start stop = start := by
  obtain ⟨above, below, -, begins⟩ := @continueFfAddr_spec flash start stop ordered
  by_contra elsewhere
  exact begins (by omega) (blank _ (by omega) (by omega))

end

end SyrFilter.Ef
