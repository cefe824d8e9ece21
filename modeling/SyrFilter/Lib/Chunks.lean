import Mathlib.Data.List.Basic
import SyrFilter.Lib.Memory

namespace SyrFilter.Lib

/-! # Loops in pieces

A buffer of `size` bytes goes over a longer range piece by piece, the last piece
being what is left.  Whatever is done cell by cell within the pieces is done to
the cells of the range in order.
-/

variable {α β σ : Type*} {memory : Nat → α} {start size total : Nat}

theorem findSome?_congr {list : List α} {find other : α → Option β} (same : ∀ item ∈ list, find item = other item) :
    list.findSome? find = list.findSome? other := by
  induction list with
  | nil => rfl
  | cons item rest ih =>
      rw [List.findSome?_cons, List.findSome?_cons, same item List.mem_cons_self,
        ih fun other member => same other (List.mem_cons_of_mem _ member)]

theorem findSome?_range {find : Nat → Option β} {index : Nat} {value : β} (found : find index = some value)
    (below : index < total) (first : ∀ i < index, find i = none) : (List.range total).findSome? find = some value := by
  rw [List.findSome?_eq_some_iff]
  refine ⟨List.range index, index, (List.range (total - index - 1)).map (index + 1 + ·), ?_, found, ?_⟩
  · rw [List.append_cons, ← List.range_succ, ← List.range_add]
    congr 1
    omega
  · exact fun i inside => first i (List.mem_range.mp inside)

/-- The pieces, each by its offset and length. -/
def pieces (size total : Nat) : List (Nat × Nat) :=
  (List.range ((total + size - 1) / size)).map fun round => (round * size, min size (total - round * size))

def cells (piece : Nat × Nat) : List Nat := (List.range piece.2).map (piece.1 + ·)

theorem range_eq_cells (positive : 0 < size) (rounds : Nat) :
    ((List.range rounds).map fun round => (round * size, min size (total - round * size))).flatMap cells =
      List.range (min (rounds * size) total) := by
  induction rounds with
  | zero => simp
  | succ rounds ih =>
      rw [List.range_succ, List.map_append, List.flatMap_append, ih, List.map_singleton, List.flatMap_singleton, cells]
      dsimp only
      rw [Nat.succ_mul]
      rcases Nat.lt_or_ge total (rounds * size) with early | late
      · have nothing : total - rounds * size = 0 := by omega
        have whole : min (rounds * size) total = min (rounds * size + size) total := by omega
        rw [nothing, whole, Nat.min_zero, List.range_zero, List.map_nil, List.append_nil]
      · rw [Nat.min_eq_left late, ← List.range_add]
        congr 1
        omega

theorem flatMap_pieces (positive : 0 < size) : (pieces size total).flatMap cells = List.range total := by
  rw [pieces, range_eq_cells positive]
  congr 1
  have enough := Nat.div_add_mod (total + size - 1) size
  have short := Nat.mod_lt (total + size - 1) positive
  rw [Nat.mul_comm] at enough
  omega

theorem foldl_pieces (positive : 0 < size) (step : σ → Nat → σ) (init : σ) :
    (pieces size total).foldl (fun acc piece => (cells piece).foldl step acc) init = (List.range total).foldl step init := by
  rw [← flatMap_pieces positive, List.foldl_flatMap]

theorem findSome?_pieces (positive : 0 < size) (find : Nat → Option β) :
    ((pieces size total).findSome? fun piece => (cells piece).findSome? find) = (List.range total).findSome? find := by
  rw [← flatMap_pieces positive]
  induction pieces size total with
  | nil => rfl
  | cons piece rest ih =>
      rw [List.findSome?_cons, List.flatMap_cons, List.findSome?_append, ih]
      cases (cells piece).findSome? find <;> rfl

theorem window_pieces (positive : 0 < size) :
    ((pieces size total).flatMap fun piece => window memory (start + piece.1) piece.2) = window memory start total := by
  have piecewise (piece : Nat × Nat) :
      window memory (start + piece.1) piece.2 = (cells piece).map fun i => memory (start + i) := by
    simp [window, cells, Function.comp_def, Nat.add_assoc]
  rw [window, ← flatMap_pieces positive, List.map_flatMap]
  exact List.flatMap_congr fun piece _ => piecewise piece

end SyrFilter.Lib
