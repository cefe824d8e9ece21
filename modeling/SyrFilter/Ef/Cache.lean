import SyrFilter.Ef.Crc
import SyrFilter.Lib.Nor
import SyrFilter.Lib.Walk

namespace SyrFilter.Ef

open SyrFilter.Lib

/-! # The two caches

The first empty address of the sectors in use, and the addresses of entries by
half of the checksum of their names.  An address that is `none` is
`FAILED_ADDR`.
-/

def sectorSize : Nat := 4096

def envHdrDataSize : Nat := 24

def envNameMax : Nat := 32

def envCacheTableSize : Nat := 16

structure SectorCacheNode where
  addr : Option Nat
  emptyAddr : Nat
deriving DecidableEq

structure EnvCacheNode where
  nameCrc : UInt16
  active : Nat
  addr : Option Nat
deriving DecidableEq

def updateSectorCache (table : List SectorCacheNode) (secAddr emptyAddr : Nat) : List SectorCacheNode :=
  if secAddr < emptyAddr ∧ emptyAddr < secAddr + sectorSize then
    if table.any (·.addr == some secAddr) then
      walk (·.addr == some secAddr) (fun _ => ⟨some secAddr, emptyAddr⟩) id table
    else walk (·.addr == none) (fun _ => ⟨some secAddr, emptyAddr⟩) id table
  else walk (·.addr == some secAddr) (fun node => { node with addr := none }) id table

def getSectorFromCache (table : List SectorCacheNode) (secAddr : Nat) : Option Nat :=
  (table.find? (·.addr == some secAddr)).map (·.emptyAddr)

def calcNameCrc (name : List UInt8) : UInt16 := (efCalcCrc32 0 name >>> 16).toUInt16

/-- An entry that a search passes by. -/
def EnvCacheNode.aged (node : EnvCacheNode) : EnvCacheNode :=
  if node.addr ≠ none ∧ 0 < node.active then { node with active := node.active - 1 } else node

def minActivity (table : List EnvCacheNode) : Nat := table.foldl (fun least node => min node.active least) 0xFFFF

def updateEnvCache (table : List EnvCacheNode) (name : List UInt8) : Option Nat → List EnvCacheNode
  | none => walk (·.nameCrc == calcNameCrc name) (fun node => { node with addr := none, active := 0 }) id table
  | some addr =>
      if table.any (·.nameCrc == calcNameCrc name) then
        walk (·.nameCrc == calcNameCrc name) (fun node => { node with addr := some addr }) EnvCacheNode.aged table
      else
        let aged := table.map EnvCacheNode.aged
        if aged.any (·.addr == none) then walk (·.addr == none) (fun _ => ⟨calcNameCrc name, 0, some addr⟩) id aged
        else if minActivity aged < 0xFFFF then
          walk (·.active == minActivity aged) (fun _ => ⟨calcNameCrc name, 0, some addr⟩) id aged
        else aged

/-- `strncmp`, whether it gives 0; behind its end a text reads as zero. -/
def strncmpEq : Nat → List UInt8 → List UInt8 → Bool
  | 0, _, _ => true
  | count + 1, first, second =>
      first.headD 0 == second.headD 0 && (first.headD 0 == 0 || strncmpEq count first.tail second.tail)

def EnvCacheNode.accessed (node : EnvCacheNode) : EnvCacheNode :=
  { node with
    active := if 0xFFFF - envCacheTableSize ≤ node.active then 0xFFFF else node.active + envCacheTableSize }

/-- Whether the entry at the address of a node has the name. -/
def EnvCacheNode.hit (flash : Nor) (name : List UInt8) (node : EnvCacheNode) : Bool :=
  match node.addr with
  | some addr =>
      node.nameCrc == calcNameCrc name &&
        strncmpEq name.length name (window flash (addr + envHdrDataSize) envNameMax)
  | none => false

def getEnvFromCache (flash : Nor) (table : List EnvCacheNode) (name : List UInt8) : Option Nat × List EnvCacheNode :=
  ((table.find? (·.hit flash name)).bind (·.addr), walk (·.hit flash name) EnvCacheNode.accessed id table)

/-! ## The sector cache -/

section Sector

variable {table : List SectorCacheNode} {right later : Nat → Nat → Prop} {secAddr emptyAddr : Nat}

/-- At most one node for a sector, and each of them right. -/
structure SectorCached (table : List SectorCacheNode) (right : Nat → Nat → Prop) : Prop where
  apart : table.Pairwise fun node other => ∀ addr, node.addr = some addr → other.addr ≠ some addr
  right : ∀ node ∈ table, ∀ addr, node.addr = some addr → right addr node.emptyAddr

theorem SectorCached.found (cached : SectorCached table right) (found : getSectorFromCache table secAddr = some emptyAddr) :
    right secAddr emptyAddr := by
  obtain ⟨node, first, rfl⟩ := Option.map_eq_some_iff.mp found
  exact cached.right node (List.mem_of_find?_eq_some first) secAddr (by simpa using List.find?_some first)

theorem SectorCached.mono (cached : SectorCached table right) (still : ∀ addr empty, right addr empty → later addr empty) :
    SectorCached table later :=
  ⟨cached.apart, fun node member addr same => still _ _ (cached.right node member addr same)⟩

/-- The node of a sector changed in its place. -/
theorem SectorCached.change (cached : SectorCached table right) {hit : SectorCacheNode → SectorCacheNode}
    (place : ∀ node addr, (hit node).addr = some addr → addr = secAddr ∧ later secAddr (hit node).emptyAddr)
    (elsewhere : ∀ addr empty, addr ≠ secAddr → right addr empty → later addr empty) :
    SectorCached (walk (·.addr == some secAddr) hit id table) later := by
  obtain ⟨apart, kept⟩ := cached
  constructor
  · apply pairwise_walk apart
    · intro old _ other _ this related addr same
      obtain ⟨rfl, -⟩ := place old addr same
      exact related addr (beq_iff_eq.mp this)
    · intro old _ other _ this _ related addr same taken
      obtain ⟨rfl, -⟩ := place old addr taken
      exact related addr same (beq_iff_eq.mp this)
    · exact fun old other related => related
    · exact fun old other related => related
  · intro node member addr same
    rcases mem_walk_of_pairwise apart member with ⟨old, -, -, rfl⟩ | ⟨old, inTable, passed, rfl⟩ |
        ⟨inTable, before, -, this, related⟩
    · obtain ⟨rfl, now⟩ := place old addr same
      exact now
    · refine elsewhere addr node.emptyAddr ?_ (kept node inTable addr same)
      rintro rfl
      simp [same] at passed
    · refine elsewhere addr node.emptyAddr ?_ (kept node inTable addr same)
      rintro rfl
      exact related addr (beq_iff_eq.mp this) same

/-- A node for a sector that had none. -/
theorem SectorCached.replace (cached : SectorCached table right) (which : SectorCacheNode → Bool)
    (absent : ∀ node ∈ table, node.addr ≠ some secAddr) (here : later secAddr emptyAddr)
    (elsewhere : ∀ addr empty, addr ≠ secAddr → right addr empty → later addr empty) :
    SectorCached (walk which (fun _ => ⟨some secAddr, emptyAddr⟩) id table) later := by
  obtain ⟨apart, kept⟩ := cached
  have still : ∀ node ∈ table, ∀ addr, node.addr = some addr → later addr node.emptyAddr := by
    intro node inTable addr same
    refine elsewhere addr node.emptyAddr ?_ (kept node inTable addr same)
    rintro rfl
    exact absent node inTable same
  constructor
  · apply pairwise_walk apart
    · intro old _ other inTable _ _ addr same taken
      cases same
      exact absent other inTable taken
    · intro old _ other inTable _ _ _ addr same taken
      cases taken
      exact absent other inTable same
    · exact fun old other related => related
    · exact fun old other related => related
  · intro node member addr same
    rcases mem_walk member with inTable | ⟨old, inTable, ⟨-, rfl⟩ | ⟨-, rfl⟩⟩
    · exact still node inTable addr same
    · cases same
      exact here
    · exact still node inTable addr same

theorem SectorCached.update (cached : SectorCached table right)
    (here : secAddr < emptyAddr → emptyAddr < secAddr + sectorSize → later secAddr emptyAddr)
    (elsewhere : ∀ addr empty, addr ≠ secAddr → right addr empty → later addr empty) :
    SectorCached (updateSectorCache table secAddr emptyAddr) later := by
  rw [updateSectorCache]
  split
  · rename_i inside
    have now := here inside.1 inside.2
    split
    · exact cached.change (fun _ addr same => ⟨(Option.some.inj same).symm, now⟩) elsewhere
    · rename_i absent
      have new : ∀ node ∈ table, node.addr ≠ some secAddr := by simpa using absent
      exact cached.replace _ new now elsewhere
  · exact cached.change (fun _ addr same => absurd same (by simp)) elsewhere

end Sector

/-! ## The cache of the entries -/

section Entry

variable {table : List EnvCacheNode} {right later : UInt16 → Nat → Prop} {name : List UInt8} {flash : Nor}

/-- Only the first node with a checksum may have an address, which is right. -/
structure EnvCached (table : List EnvCacheNode) (right : UInt16 → Nat → Prop) : Prop where
  apart : table.Pairwise fun node other => node.nameCrc = other.nameCrc → other.addr = none
  right : ∀ node ∈ table, ∀ addr, node.addr = some addr → right node.nameCrc addr

@[simp] theorem EnvCacheNode.aged_addr (node : EnvCacheNode) : node.aged.addr = node.addr := by
  rw [aged]
  split <;> rfl

@[simp] theorem EnvCacheNode.aged_nameCrc (node : EnvCacheNode) : node.aged.nameCrc = node.nameCrc := by
  rw [aged]
  split <;> rfl

theorem EnvCached.mono (cached : EnvCached table right) (still : ∀ crc addr, right crc addr → later crc addr) :
    EnvCached table later :=
  ⟨cached.apart, fun node member addr same => still _ _ (cached.right node member addr same)⟩

theorem EnvCached.aged (cached : EnvCached table right) : EnvCached (table.map EnvCacheNode.aged) right := by
  obtain ⟨apart, kept⟩ := cached
  constructor
  · rw [List.pairwise_map]
    simpa using apart
  · intro node member addr same
    obtain ⟨old, inTable, rfl⟩ := List.mem_map.mp member
    rw [EnvCacheNode.aged_nameCrc]
    exact kept old inTable addr (by simpa using same)

/-- A new node in the place of any other. -/
theorem EnvCached.replace (cached : EnvCached table right) (which : EnvCacheNode → Bool) {addr : Nat}
    (absent : ∀ node ∈ table, node.nameCrc ≠ calcNameCrc name) (here : later (calcNameCrc name) addr)
    (elsewhere : ∀ crc addr, crc ≠ calcNameCrc name → right crc addr → later crc addr) :
    EnvCached (walk which (fun _ => ⟨calcNameCrc name, 0, some addr⟩) id table) later := by
  obtain ⟨apart, kept⟩ := cached
  constructor
  · apply pairwise_walk apart
    · exact fun old _ other inTable _ _ same => absurd same.symm (absent other inTable)
    · exact fun old _ other inTable _ _ _ same => absurd same (absent other inTable)
    · exact fun old other related => related
    · exact fun old other related => related
  · intro node member at_ same
    rcases mem_walk member with inTable | ⟨old, inTable, ⟨-, rfl⟩ | ⟨-, rfl⟩⟩
    · exact elsewhere _ _ (absent node inTable) (kept node inTable at_ same)
    · cases same
      exact here
    · exact elsewhere _ _ (absent node inTable) (kept node inTable at_ same)

/-- The node of a checksum changed in its place. -/
theorem EnvCached.change (cached : EnvCached table right) {hit miss : EnvCacheNode → EnvCacheNode}
    (hitCrc : ∀ node, (hit node).nameCrc = node.nameCrc) (missCrc : ∀ node, (miss node).nameCrc = node.nameCrc)
    (missAddr : ∀ node, (miss node).addr = node.addr)
    (here : ∀ node addr, (hit node).addr = some addr → later (calcNameCrc name) addr)
    (elsewhere : ∀ crc addr, crc ≠ calcNameCrc name → right crc addr → later crc addr) :
    EnvCached (walk (·.nameCrc == calcNameCrc name) hit miss table) later := by
  obtain ⟨apart, kept⟩ := cached
  constructor
  · apply pairwise_walk apart
    · intro old _ other _ _ related same
      exact related ((hitCrc old).symm.trans same)
    · intro old _ other _ this other_ related same
      rw [missCrc, hitCrc] at same
      simp [same, beq_iff_eq.mp this] at other_
    · intro old other related same
      exact related ((missCrc old).symm.trans same)
    · intro old other related same
      rw [missCrc, missCrc] at same
      rw [missAddr]
      exact related same
  · intro node member addr same
    rcases mem_walk_of_pairwise apart member with ⟨old, -, this, rfl⟩ | ⟨old, inTable, passed, rfl⟩ |
        ⟨inTable, before, -, this, related⟩
    · rw [hitCrc, beq_iff_eq.mp this]
      exact here old addr same
    · rw [missAddr] at same
      rw [missCrc]
      exact elsewhere _ _ (by simpa using passed) (kept old inTable addr same)
    · -- Behind the node of the checksum none with the same has an address.
      refine elsewhere _ _ (fun alike => ?_) (kept node inTable addr same)
      rw [related ((beq_iff_eq.mp this).trans alike.symm)] at same
      cases same

theorem EnvCached.update (cached : EnvCached table right) (addr : Option Nat)
    (here : ∀ at_, addr = some at_ → later (calcNameCrc name) at_)
    (elsewhere : ∀ crc addr, crc ≠ calcNameCrc name → right crc addr → later crc addr) :
    EnvCached (updateEnvCache table name addr) later := by
  cases addr with
  | none =>
      exact cached.change (fun _ => rfl) (fun _ => rfl) (fun _ => rfl) (fun _ addr never => absurd never (by simp))
        elsewhere
  | some addr =>
      rw [updateEnvCache]
      split
      · exact cached.change (fun _ => rfl) EnvCacheNode.aged_nameCrc EnvCacheNode.aged_addr (fun _ => here) elsewhere
      · rename_i absent
        have new : ∀ node ∈ table.map EnvCacheNode.aged, node.nameCrc ≠ calcNameCrc name := by simpa using absent
        dsimp only
        split
        · exact cached.aged.replace _ new (here addr rfl) elsewhere
        · split
          · exact cached.aged.replace _ new (here addr rfl) elsewhere
          · have aged := cached.aged
            refine ⟨aged.apart, fun node member at_ same => ?_⟩
            exact elsewhere _ _ (new node member) (aged.right node member at_ same)

theorem strncmpEq_iff {first second : List UInt8} (unterminated : ∀ byte ∈ first, byte ≠ 0) :
    strncmpEq first.length first second = true ↔ first <+: second := by
  induction first generalizing second with
  | nil => simp [strncmpEq]
  | cons byte rest ih =>
      have here : byte ≠ 0 := unterminated byte List.mem_cons_self
      have later := @ih second.tail fun other member => unterminated other (List.mem_cons_of_mem _ member)
      rw [List.length_cons, strncmpEq, List.headD_cons, List.tail_cons]
      cases second with
      | nil => simp [here]
      | cons other others =>
          rw [List.tail_cons] at later
          simp [here, later, List.cons_prefix_cons]

/-- What the cache gives is the address of an entry with the checksum and the
name; searching leaves the addresses alone. -/
theorem EnvCached.get (cached : EnvCached table right) :
    (∀ addr, (getEnvFromCache flash table name).1 = some addr →
        right (calcNameCrc name) addr ∧
          strncmpEq name.length name (window flash (addr + envHdrDataSize) envNameMax) = true) ∧
      EnvCached (getEnvFromCache flash table name).2 right := by
  constructor
  · intro addr found
    obtain ⟨node, first, place⟩ := Option.bind_eq_some_iff.mp found
    have hits := List.find?_some first
    rw [EnvCacheNode.hit, place, Bool.and_eq_true, beq_iff_eq] at hits
    refine ⟨?_, hits.2⟩
    rw [← hits.1]
    exact cached.right node (List.mem_of_find?_eq_some first) addr place
  · obtain ⟨apart, kept⟩ := cached
    constructor
    · exact pairwise_walk apart (fun _ _ _ _ _ related => related) (fun _ _ _ _ _ _ related => related)
        (fun _ _ related => related) fun _ _ related => related
    · intro node member addr same
      rcases mem_walk member with inTable | ⟨old, inTable, ⟨-, rfl⟩ | ⟨-, rfl⟩⟩
      · exact kept node inTable addr same
      · exact kept old inTable addr same
      · exact kept node inTable addr same

end Entry

end SyrFilter.Ef
