import SyrFilter.Ef.Sectors
import SyrFilter.Lib.Bag

namespace SyrFilter.Ef

open SyrFilter.Lib

/-! # What the flash holds

The area as sectors of entries, how the flash holds it, and what it means: of
the entries in order, those that have been written and not deleted are the map.
-/

structure Sector where
  store : UInt8
  dirty : UInt8
  nodes : List Node

abbrev Area := Nat → Sector

def size (nodes : List Node) : Nat := (nodes.map Node.len).sum

namespace Sector

def used (sector : Sector) : Nat := size sector.nodes

def storeStatus (sector : Sector) : SectorStoreStatus := .ofIndex (getStatus [sector.store] sectorStatusNum)

def dirtyStatus (sector : Sector) : SectorDirtyStatus := .ofIndex (getStatus [sector.dirty] sectorStatusNum)

end Sector

/-- A sector as it lies in flash. -/
structure SectorAt (flash : Nor) (addr : Nat) (sector : Sector) : Prop where
  store : flash addr = sector.store
  dirty : flash (addr + 1) = sector.dirty
  magic : flash.Holds (addr + 4) (leBytes sectorMagicWord)
  combined : flash.Holds (addr + 8) (leBytes sectorNotCombined)
  nodes : flash.Holds (addr + 16) (sector.nodes.flatMap Node.bytes)
  blank : flash.Blank (addr + 16 + sector.used) (addr + 4096)
  room : sector.used ≤ 4080
  fits : ∀ node ∈ sector.nodes, node.Fits

def base (index : Nat) : Nat := index * sectorSize

def Held (flash : Nor) (area : Area) : Prop := ∀ i < 4, SectorAt flash (base i) (area i)

/-- What the sector cache may tell of the area. -/
def EmptyAt (area : Area) (addr emptyAddr : Nat) : Prop :=
  ∃ i < 4, addr = base i ∧ emptyAddr = base i + 16 + (area i).used

/-- The entries from an address on, each with its own. -/
def placed : Nat → List Node → List (Nat × Node)
  | _, [] => []
  | addr, node :: rest => (addr, node) :: placed (addr + node.len) rest

def At (area : Area) (addr : Nat) (node : Node) : Prop := ∃ i < 4, (addr, node) ∈ placed (base i + 16) (area i).nodes

/-- What the entries mean that have been written and not deleted. -/
def live (nodes : List Node) : Multiset (List UInt8 × List UInt8) :=
  ((nodes.filter fun node => node.status = .write).map fun node => (node.key, node.value) : List _)

def contents (area : Area) : Multiset (List UInt8 × List UInt8) := ∑ i ∈ Finset.range 4, live (area i).nodes

/-- The bytes that entries take. -/
def footprint (entries : Multiset (List UInt8 × List UInt8)) : Nat := (entries.map fun entry => envLen entry.1 entry.2).sum

section Size

variable {nodes : List Node} {addr : Nat} {node : Node} {first second : List Node}

@[simp] theorem size_nil : size [] = 0 := rfl

@[simp] theorem size_cons (node : Node) (nodes : List Node) : size (node :: nodes) = node.len + size nodes := by
  simp [size]

@[simp] theorem size_append (first second : List Node) : size (first ++ second) = size first + size second := by
  simp [size]

theorem Node.len_pos (node : Node) : 24 ≤ node.len := by
  rw [Node.len, envLen, envHdrDataSize]
  omega

theorem length_flatMap_bytes (nodes : List Node) : (nodes.flatMap Node.bytes).length = size nodes := by
  induction nodes with
  | nil => rfl
  | cons node rest ih => simp [ih]

theorem length_le_size (nodes : List Node) : nodes.length ≤ size nodes := by
  induction nodes with
  | nil => exact Nat.le_refl 0
  | cons node rest ih =>
      have some := node.len_pos
      rw [List.length_cons, size_cons]
      omega

theorem placed_append : placed addr (first ++ second) = placed addr first ++ placed (addr + size first) second := by
  induction first generalizing addr with
  | nil => rfl
  | cons node rest ih => rw [List.cons_append, placed, ih, placed, size_cons, Nat.add_assoc, List.cons_append]

theorem mem_placed {here : Nat} :
    (here, node) ∈ placed addr nodes ↔ ∃ before after, nodes = before ++ node :: after ∧ here = addr + size before := by
  induction nodes generalizing addr with
  | nil => simp [placed]
  | cons other rest ih =>
      rw [placed, List.mem_cons, ih]
      constructor
      · rintro (same | ⟨before, after, rfl, rfl⟩)
        · cases same
          exact ⟨[], rest, rfl, rfl⟩
        · exact ⟨other :: before, after, rfl, by rw [size_cons, Nat.add_assoc]⟩
      · rintro ⟨before, after, split, rfl⟩
        cases before with
        | nil =>
            cases split
            exact .inl rfl
        | cons head before =>
            cases split
            exact .inr ⟨before, after, rfl, by rw [size_cons, Nat.add_assoc]⟩

theorem placed_within {here : Nat} (member : (here, node) ∈ placed addr nodes) :
    addr ≤ here ∧ here + node.len ≤ addr + size nodes := by
  obtain ⟨before, after, rfl, rfl⟩ := mem_placed.mp member
  rw [size_append, size_cons]
  omega

theorem placed_unique {here : Nat} {other : Node} (member : (here, node) ∈ placed addr nodes)
    (member' : (here, other) ∈ placed addr nodes) : node = other := by
  induction nodes generalizing addr with
  | nil => cases member
  | cons first rest ih =>
      have some := first.len_pos
      rcases List.mem_cons.mp member with this | later
      · rcases List.mem_cons.mp member' with this' | later'
        · cases this
          cases this'
          rfl
        · have above := (placed_within later').1
          cases this
          omega
      · rcases List.mem_cons.mp member' with this' | later'
        · have above := (placed_within later).1
          cases this'
          omega
        · exact ih later later'

end Size

/-! ## Parts of the area -/

section

variable {flash flash' : Nor} {area : Area} {i j addr : Nat} {sector : Sector} {before after : List Node}
  {node other : Node}

theorem base_apart (different : i ≠ j) : base i + 4096 ≤ base j ∨ base j + 4096 ≤ base i := by
  rw [base, base, sectorSize]
  omega

theorem base_injective (same : base i = base j) : i = j := by
  rw [base, base, sectorSize] at same
  omega

theorem SectorAt.congr (at_ : SectorAt flash addr sector)
    (same : ∀ cell, addr ≤ cell → cell < addr + 4096 → flash' cell = flash cell) : SectorAt flash' addr sector := by
  obtain ⟨store, dirty, magic, combined, nodes, blank, room, fits⟩ := at_
  have length := length_flatMap_bytes sector.nodes
  rw [Sector.used] at blank room
  refine ⟨?_, ?_, ?_, ?_, ?_, ?_, room, fits⟩
  · rw [same addr (by omega) (by omega), store]
  · rw [same (addr + 1) (by omega) (by omega), dirty]
  · exact magic.congr fun cell above below => same cell (by omega) (by rw [length_leBytes] at below; omega)
  · exact combined.congr fun cell above below => same cell (by omega) (by rw [length_leBytes] at below; omega)
  · exact nodes.congr fun cell above below => same cell (by omega) (by omega)
  · exact blank.congr fun cell above below => same cell (by omega) below

theorem Held.update (held : Held flash area) (at_ : SectorAt flash' (base i) sector)
    (outside : ∀ cell, cell < base i ∨ base i + 4096 ≤ cell → flash' cell = flash cell) :
    Held flash' (Function.update area i sector) := by
  intro m below
  by_cases here : m = i
  · subst here
    rwa [Function.update_self]
  · rw [Function.update_of_ne here]
    apply (held m below).congr
    intro cell above under
    rcases base_apart here with early | late
    · exact outside cell (by omega)
    · exact outside cell (by omega)

theorem SectorAt.entry (at_ : SectorAt flash addr sector) (nodes : sector.nodes = before ++ node :: after) :
    Node.Parts flash (addr + 16 + size before) node ∧ node.Fits ∧
      sector.used = size before + node.len + size after := by
  have holds := at_.nodes
  rw [nodes, List.flatMap_append, List.flatMap_cons, Nor.holds_append, Nor.holds_append, length_flatMap_bytes] at holds
  refine ⟨Node.holds_bytes_iff.mp holds.2.1, at_.fits node (by simp [nodes]), ?_⟩
  rw [Sector.used, nodes, size_append, size_cons, Nat.add_assoc]

theorem at_update (below : i < 4) :
    At (Function.update area i sector) addr node ↔
      (addr, node) ∈ placed (base i + 16) sector.nodes ∨
        ∃ m < 4, m ≠ i ∧ (addr, node) ∈ placed (base m + 16) (area m).nodes := by
  constructor
  · rintro ⟨m, inside, placed⟩
    by_cases here : m = i
    · subst here
      rw [Function.update_self] at placed
      exact .inl placed
    · rw [Function.update_of_ne here] at placed
      exact .inr ⟨m, inside, here, placed⟩
  · rintro (placed | ⟨m, inside, there, placed⟩)
    · exact ⟨i, below, by rwa [Function.update_self]⟩
    · exact ⟨m, inside, by rwa [Function.update_of_ne there]⟩

theorem At.split (at_ : At area addr node) :
    ∃ i < 4, ∃ before after, (area i).nodes = before ++ node :: after ∧ addr = base i + 16 + size before := by
  obtain ⟨i, below, member⟩ := at_
  obtain ⟨before, after, nodes, here⟩ := mem_placed.mp member
  exact ⟨i, below, before, after, nodes, here⟩

theorem At.unique (held : Held flash area) (at_ : At area addr node) (at_' : At area addr other) : node = other := by
  obtain ⟨i, below, member⟩ := at_
  obtain ⟨j, below', member'⟩ := at_'
  have room := (held i below).room
  have room' := (held j below').room
  rw [Sector.used] at room room'
  have within := placed_within member
  have within' := placed_within member'
  have some := node.len_pos
  have some' := other.len_pos
  have here : i = j := by
    by_contra different
    rcases base_apart different with early | late
    · omega
    · omega
  subst here
  exact placed_unique member member'

/-- More entries in a sector leave those there are where they are. -/
theorem At.append (at_ : At area addr node) (below : i < 4) {more : List Node}
    (nodes : sector.nodes = (area i).nodes ++ more) : At (Function.update area i sector) addr node := by
  rw [at_update below, nodes, placed_append]
  obtain ⟨m, inside, member⟩ := at_
  by_cases here : m = i
  · subst here
    exact .inl (List.mem_append_left _ member)
  · exact .inr ⟨m, inside, here, member⟩

/-- An entry changed in its place leaves the others where they are. -/
theorem At.replace (at_ : At area addr node) (below : i < 4) (nodes : (area i).nodes = before ++ other :: after)
    {changed : Node} (same : changed.len = other.len) (nodes' : sector.nodes = before ++ changed :: after)
    (apart : addr ≠ base i + 16 + size before) : At (Function.update area i sector) addr node := by
  rw [at_update below, nodes', placed_append, placed, same]
  obtain ⟨m, inside, member⟩ := at_
  by_cases here : m = i
  · subst here
    rw [nodes, placed_append, placed] at member
    rcases List.mem_append.mp member with early | late
    · exact .inl (List.mem_append_left _ early)
    · rcases List.mem_cons.mp late with this | later
      · cases this
        exact absurd rfl apart
      · exact .inl (List.mem_append_right _ (List.mem_cons_of_mem _ later))
  · exact .inr ⟨m, inside, here, member⟩

/-! ## What they mean -/

@[simp] theorem live_nil : live [] = 0 := rfl

theorem live_append (first second : List Node) : live (first ++ second) = live first + live second := by
  simp [live]

theorem live_cons (node : Node) (nodes : List Node) :
    live (node :: nodes) = if node.status = .write then (node.key, node.value) ::ₘ live nodes else live nodes := by
  rw [live, live, List.filter_cons]
  by_cases written : node.status = .write
  · simp [written]
  · simp [written]

theorem mem_live {key value : List UInt8} {nodes : List Node} :
    (key, value) ∈ live nodes ↔ ∃ node ∈ nodes, node.status = .write ∧ node.key = key ∧ node.value = value := by
  simp [live, and_assoc]

theorem mem_contents {key value : List UInt8} :
    (key, value) ∈ contents area ↔
      ∃ addr node, At area addr node ∧ node.status = .write ∧ node.key = key ∧ node.value = value := by
  rw [contents, Multiset.mem_sum]
  constructor
  · rintro ⟨i, inside, member⟩
    obtain ⟨node, there, written⟩ := mem_live.mp member
    obtain ⟨before, after, nodes⟩ := List.append_of_mem there
    exact ⟨base i + 16 + size before, node,
      ⟨i, Finset.mem_range.mp inside, mem_placed.mpr ⟨before, after, nodes, rfl⟩⟩, written⟩
  · rintro ⟨addr, node, at_, written⟩
    obtain ⟨i, below, before, after, nodes, -⟩ := at_.split
    exact ⟨i, Finset.mem_range.mpr below, mem_live.mpr ⟨node, by simp [nodes], written⟩⟩

theorem contents_update (below : i < 4) (sector : Sector) :
    contents (Function.update area i sector) + live (area i).nodes = contents area + live sector.nodes :=
  sum_update_add (Finset.mem_range.mpr below) (fun held : Sector => live held.nodes) area sector

/-- One entry less is in order. -/
theorem contents_marked (below : i < 4) (nodes : (area i).nodes = before ++ node :: after) (written : node.status = .write)
    {changed : Node} (deleted : changed.status ≠ .write) (nodes' : sector.nodes = before ++ changed :: after) :
    contents area = (node.key, node.value) ::ₘ contents (Function.update area i sector) := by
  have parts := @contents_update area i below sector
  rw [nodes, nodes', live_append, live_append, live_cons, live_cons, if_pos written, if_neg deleted] at parts
  apply add_right_cancel (_ : _ + (live before + live after) = _ + (live before + live after))
  rw [← parts, Multiset.cons_add, Multiset.add_cons, Multiset.add_cons]

theorem contents_same (below : i < 4) (same : live sector.nodes = live (area i).nodes) :
    contents (Function.update area i sector) = contents area := by
  have parts := @contents_update area i below sector
  rw [same] at parts
  exact add_right_cancel parts

/-- One entry more is in order. -/
theorem contents_append (below : i < 4) (nodes : sector.nodes = (area i).nodes ++ [node]) (written : node.status = .write) :
    contents (Function.update area i sector) = (node.key, node.value) ::ₘ contents area := by
  have parts := @contents_update area i below sector
  rw [nodes, live_append, live_cons, if_pos written, live_nil] at parts
  apply add_right_cancel (_ : _ + live (area i).nodes = _ + live (area i).nodes)
  rw [parts, Multiset.cons_add, Multiset.add_cons, add_zero, Multiset.add_cons]

@[simp] theorem footprint_cons (key value : List UInt8) (entries : Multiset (List UInt8 × List UInt8)) :
    footprint ((key, value) ::ₘ entries) = envLen key value + footprint entries := by
  simp [footprint]

@[simp] theorem footprint_add (first second : Multiset (List UInt8 × List UInt8)) :
    footprint (first + second) = footprint first + footprint second := by
  simp [footprint]

theorem footprint_live {nodes : List Node} (written : ∀ node ∈ nodes, node.status = .write) :
    footprint (live nodes) = size nodes := by
  induction nodes with
  | nil => rfl
  | cons node rest ih =>
      rw [live_cons, if_pos (written node List.mem_cons_self), footprint_cons, size_cons,
        ih fun other member => written other (List.mem_cons_of_mem _ member)]
      rfl

/-- A sector's entries are among those of the area. -/
theorem footprint_live_le (below : i < 4) : footprint (live (area i).nodes) ≤ footprint (contents area) := by
  have parts := congrArg footprint (@contents_update area i below { area i with nodes := [] })
  simp only [live_nil, add_zero, footprint_add] at parts
  omega

end

end SyrFilter.Ef
