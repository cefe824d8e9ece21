import Mathlib.Combinatorics.Pigeonhole
import Mathlib.Logic.Function.Iterate

namespace SyrFilter.Lib

/-! # Loops that go on from a value to the next

A loop that replaces a value by its successor until it is outside a range leaves
it, when the range is finite, exactly if no value in it comes again, and then
after at most as many rounds as the range has values.
-/

variable {α : Type*} {next : α → α} {inRange : α → Prop} {start : α}

/-- Two rounds with the same value, and no value outside the range up to there. -/
def Circles (next : α → α) (inRange : α → Prop) (start : α) : Prop :=
  ∃ first second, first < second ∧ Nat.iterate next first start = Nat.iterate next second start ∧
    ∀ round ≤ second, inRange (Nat.iterate next round start)

theorem Circles.stays (circles : Circles next inRange start) (round : Nat) : inRange (Nat.iterate next round start) := by
  obtain ⟨first, second, before, same, within⟩ := circles
  induction round using Nat.strong_induction_on with
  | h round ih =>
      by_cases early : round ≤ second
      · exact within round early
      · -- Behind the second round everything repeats what lies between the two.
        have back : Nat.iterate next round start = Nat.iterate next (round - second + first) start := by
          rw [Function.iterate_add_apply, same, ← Function.iterate_add_apply]
          congr 2
          omega
        rw [back]
        exact ih _ (by omega)

theorem left_iff_not_circles (index : α → Nat) (size : Nat) (below : ∀ value, inRange value → index value < size)
    (injective : ∀ value other, inRange value → inRange other → index value = index other → value = other) :
    (∃ round < size + 1, ¬inRange (Nat.iterate next round start)) ↔ ¬Circles next inRange start := by
  constructor
  · rintro ⟨round, -, outside⟩ circles
    exact outside (circles.stays round)
  · intro never
    by_contra stays
    have within : ∀ round < size + 1, inRange (Nat.iterate next round start) := by simpa using stays
    have crowded : (Finset.range size).card < (Finset.range (size + 1)).card := by simp
    have maps : ∀ round ∈ Finset.range (size + 1), index (Nat.iterate next round start) ∈ Finset.range size :=
      fun round member => Finset.mem_range.mpr (below _ (within round (Finset.mem_range.mp member)))
    obtain ⟨first, inFirst, second, inSecond, apart, same⟩ :=
      Finset.exists_ne_map_eq_of_card_lt_of_maps_to crowded maps
    rw [Finset.mem_range] at inFirst inSecond
    have equal := injective _ _ (within first inFirst) (within second inSecond) same
    rcases Nat.lt_or_gt_of_ne apart with before | after
    · exact never ⟨first, second, before, equal, fun round early => within round (by omega)⟩
    · exact never ⟨second, first, after, equal.symm, fun round early => within round (by omega)⟩

end SyrFilter.Lib
