import Mathlib.Tactic.IntervalCases
import SyrFilter.Ef.Area
import SyrFilter.Ef.Engine

namespace SyrFilter.Ef

open SyrFilter.Lib

/-! # What the writes do to the area

A status write changes one entry or one header, a written entry comes behind
those of its sector, and a formatted sector is empty.
-/

/-- A table of one byte after a status has been written to it. -/
def moved (index : Nat) (table : UInt8) : UInt8 := table &&& ~~~statusBit (index - 1)

/-- The table of an entry that has been written. -/
def writtenTable : UInt8 := moved EnvStatus.write.index (moved EnvStatus.preWrite.index 0xFF)

def Node.moved (node : Node) (index : Nat) : Node := { node with table := Ef.moved index node.table }

/-- A sector as it is formatted. -/
def Sector.fresh : Sector where
  store := moved SectorStoreStatus.storeEmpty.index 0xFF
  dirty := moved SectorDirtyStatus.dirtyFalse.index 0xFF
  nodes := []

/-- An entry as it is created or moved: the status is written before and behind
its other bytes. -/
def written (flash : Nor) (addr : Nat) (body : List UInt8) : Nor :=
  writeStatus ((writeStatus flash addr envStatusNum EnvStatus.preWrite.index).program (addr + envMagicOffset) body) addr
    envStatusNum EnvStatus.write.index

section Tables

variable {flash : Nor} {addr num index : Nat} {table : UInt8} {node : Node}

theorem writeStatus_eq (positive : 0 < index) (below : index < num) (small : num ≤ 8) :
    writeStatus flash addr num index = flash.program addr [~~~statusBit (index - 1)] := by
  obtain ⟨index, rfl⟩ := Nat.exists_eq_add_of_lt positive
  rw [Nat.zero_add] at below ⊢
  rw [writeStatus_succ (statusTableSize_lt below), Nat.div_eq_of_lt (by omega)]
  rfl

theorem writeStatus_here (positive : 0 < index) (below : index < num) (small : num ≤ 8) :
    writeStatus flash addr num index addr = moved index (flash addr) := by
  have byte : (flash.program addr [~~~statusBit (index - 1)]).Holds addr [flash addr &&& ~~~statusBit (index - 1)] :=
    Nor.Holds.program_byte (Nor.holds_singleton.mpr rfl)
  rw [writeStatus_eq positive below small]
  exact Nor.holds_singleton.mp byte

theorem writeStatus_outside (positive : 0 < index) (below : index < num) (small : num ≤ 8) {cell : Nat}
    (elsewhere : cell ≠ addr) : writeStatus flash addr num index cell = flash cell := by
  rw [writeStatus_eq positive below small]
  apply Nor.program_outside
  rw [List.length_singleton]
  omega

theorem getStatus_moved (positive : 0 < index) (below : index < num) (small : num ≤ 8) :
    getStatus [moved index table] num = max (getStatus [table] num) index := by
  have size : statusTableSize num = 1 := by
    rw [statusTableSize]
    omega
  have read (flash : Nor) : readStatus flash 0 num = getStatus [flash 0] num := by
    rw [readStatus, size]
    rfl
  have written := @readStatus_writeStatus (fun _ => table) 0 num index below
  rwa [read, read, writeStatus_here positive below small] at written

@[simp] theorem Node.moved_key : (node.moved index).key = node.key := rfl

@[simp] theorem Node.moved_value : (node.moved index).value = node.value := rfl

@[simp] theorem Node.moved_len : (node.moved index).len = node.len := rfl

theorem Node.Fits.moved (fits : node.Fits) (index : Nat) : (node.moved index).Fits := ⟨fits.key, fits.len⟩

theorem EnvStatus.ofIndex_index (status : EnvStatus) : EnvStatus.ofIndex status.index = status := by
  cases status <;> rfl

theorem Node.status_moved {status : EnvStatus} (positive : 0 < status.index)
    (ahead : node.status.index ≤ status.index) : (node.moved status.index).status = status := by
  have below : status.index < envStatusNum := by cases status <;> decide
  have upTo : getStatus [node.table] envStatusNum ≤ status.index := by
    have bound : getStatus [node.table] envStatusNum ≤ envStatusNum - 1 := lastCleared_le
    rw [Node.status] at ahead
    generalize getStatus [node.table] envStatusNum = index at ahead bound ⊢
    rw [envStatusNum] at bound
    interval_cases index <;> exact ahead
  rw [Node.status, Node.moved, getStatus_moved positive below (by decide), Nat.max_eq_right upTo, EnvStatus.ofIndex_index]

@[simp] theorem status_written (key value : List UInt8) : (⟨writtenTable, key, value⟩ : Node).status = .write := by
  have table : getStatus [writtenTable] envStatusNum = 2 := by decide
  rw [Node.status, table]
  rfl

end Tables

/-! ## Headers and tables -/

section

variable {flash flash' : Nor} {sector : Sector} {addr index : Nat} {before after : List Node} {node : Node}

theorem SectorAt.storeWritten (at_ : SectorAt flash addr sector) (positive : 0 < index) (below : index < sectorStatusNum) :
    SectorAt (writeStatus flash addr sectorStatusNum index) addr { sector with store := moved index sector.store } := by
  have outside {cell : Nat} (elsewhere : cell ≠ addr) : writeStatus flash addr sectorStatusNum index cell = flash cell :=
    writeStatus_outside positive below (by decide) elsewhere
  obtain ⟨store, dirty, magic, combined, nodes, blank, room, fits⟩ := at_
  refine ⟨?_, ?_, ?_, ?_, ?_, ?_, room, fits⟩
  · rw [writeStatus_here positive below (by decide), store]
  · rw [outside (by omega), dirty]
  · exact magic.congr fun cell above _ => outside (by omega)
  · exact combined.congr fun cell above _ => outside (by omega)
  · exact nodes.congr fun cell above _ => outside (by omega)
  · exact blank.congr fun cell above _ => outside (by omega)

theorem SectorAt.dirtyWritten (at_ : SectorAt flash addr sector) (positive : 0 < index) (below : index < sectorStatusNum) :
    SectorAt (writeStatus flash (addr + sectorDirtyOffset) sectorStatusNum index) addr
      { sector with dirty := moved index sector.dirty } := by
  have outside {cell : Nat} (elsewhere : cell ≠ addr + 1) :
      writeStatus flash (addr + sectorDirtyOffset) sectorStatusNum index cell = flash cell :=
    writeStatus_outside positive below (by decide) elsewhere
  obtain ⟨store, dirty, magic, combined, nodes, blank, room, fits⟩ := at_
  refine ⟨?_, ?_, ?_, ?_, ?_, ?_, room, fits⟩
  · rw [outside (by omega), store]
  · rw [sectorDirtyOffset, writeStatus_here positive below (by decide), dirty]
  · exact magic.congr fun cell above _ => outside (by omega)
  · exact combined.congr fun cell above _ => outside (by omega)
  · exact nodes.congr fun cell above _ => outside (by omega)
  · exact blank.congr fun cell above _ => outside (by omega)

/-- The status of an entry is written over. -/
theorem SectorAt.marked (at_ : SectorAt flash addr sector) (nodes : sector.nodes = before ++ node :: after)
    (positive : 0 < index) (below : index < envStatusNum) :
    SectorAt (writeStatus flash (addr + 16 + size before) envStatusNum index) addr
      { sector with nodes := before ++ node.moved index :: after } := by
  have outside {cell : Nat} (elsewhere : cell ≠ addr + 16 + size before) :
      writeStatus flash (addr + 16 + size before) envStatusNum index cell = flash cell :=
    writeStatus_outside positive below (by decide) elsewhere
  have used : (Sector.mk sector.store sector.dirty (before ++ node.moved index :: after)).used = sector.used := by
    rw [Sector.used, Sector.used, nodes]
    simp
  have some := node.len_pos
  have taken : sector.used = size before + node.len + size after := (at_.entry nodes).2.2
  obtain ⟨store, dirty, magic, combined, holds, blank, room, fits⟩ := at_
  refine ⟨?_, ?_, ?_, ?_, ?_, ?_, ?_, ?_⟩
  · rw [outside (by omega), store]
  · rw [outside (by omega), dirty]
  · refine magic.congr fun cell _ under => outside ?_
    rw [length_leBytes] at under
    omega
  · refine combined.congr fun cell _ under => outside ?_
    rw [length_leBytes] at under
    omega
  · rw [nodes, List.flatMap_append, List.flatMap_cons, Nor.holds_append, Nor.holds_append, length_flatMap_bytes,
      Node.holds_bytes_iff] at holds
    rw [List.flatMap_append, List.flatMap_cons, Nor.holds_append, Nor.holds_append, length_flatMap_bytes,
      Node.holds_bytes_iff, Node.length_bytes]
    rw [Node.length_bytes] at holds
    obtain ⟨early, ⟨table, gap, magic', len, crc32, data⟩, late⟩ := holds
    have length := length_flatMap_bytes before
    refine ⟨?_, ⟨?_, ?_, ?_, ?_, ?_, ?_⟩, ?_⟩
    · exact early.congr fun cell _ under => outside (by omega)
    · rw [writeStatus_here positive below (by decide), table]
      rfl
    · exact gap.congr fun cell above _ => outside (by omega)
    · exact magic'.congr fun cell above _ => outside (by omega)
    · exact len.congr fun cell above _ => outside (by omega)
    · exact crc32.congr fun cell above _ => outside (by omega)
    · exact data.congr fun cell above _ => outside (by omega)
    · exact late.congr fun cell above _ => outside (by omega)
  · rw [used]
    exact blank.congr fun cell above _ => outside (by omega)
  · rwa [used]
  · intro other member
    rcases List.mem_append.mp member with early | late
    · exact fits other (by simp [nodes, early])
    · rcases List.mem_cons.mp late with rfl | later
      · exact (fits node (by simp [nodes])).moved index
      · exact fits other (by simp [nodes, later])

/-! ## New entries -/

theorem written_holds {body : List UInt8} (blank : flash.Blank addr (addr + 4 + body.length)) :
    (written flash addr body).Holds addr ([writtenTable, 0xFF, 0xFF, 0xFF] ++ body) ∧
      ∀ cell, cell < addr ∨ addr + 4 + body.length ≤ cell → written flash addr body cell = flash cell := by
  have first {flash : Nor} {cell : Nat} (elsewhere : cell ≠ addr) :
      writeStatus flash addr envStatusNum EnvStatus.preWrite.index cell = flash cell :=
    writeStatus_outside (by decide) (by decide) (by decide) elsewhere
  have last {flash : Nor} {cell : Nat} (elsewhere : cell ≠ addr) :
      writeStatus flash addr envStatusNum EnvStatus.write.index cell = flash cell :=
    writeStatus_outside (by decide) (by decide) (by decide) elsewhere
  rw [written, envMagicOffset]
  constructor
  · rw [Nor.holds_append, List.length_cons, List.length_cons, List.length_cons, List.length_singleton]
    constructor
    · rw [Nor.holds_cons]
      constructor
      · rw [writeStatus_here (by decide) (by decide) (by decide), Nor.program_outside (.inl (by omega)),
          writeStatus_here (by decide) (by decide) (by decide), blank addr (Nat.le_refl _) (by omega)]
        rfl
      · rw [Nor.holds_iff]
        intro index inside
        have short : index < 3 := inside
        rw [last (by omega), Nor.program_outside (.inl (by omega)), first (by omega), blank _ (by omega) (by omega)]
        interval_cases index <;> rfl
    · refine Nor.Holds.congr (Nor.Blank.holds_program ?_) fun cell above _ => last (by omega)
      exact fun cell above under => (first (by omega)).trans (blank cell (by omega) under)
  · intro cell outside
    rw [last (by omega), Nor.program_outside (by omega), first (by omega)]

theorem Node.bytes_of_written (key value : List UInt8) :
    (⟨writtenTable, key, value⟩ : Node).bytes =
      [writtenTable, 0xFF, 0xFF, 0xFF] ++ ((envHdr key value).bytes ++ key ++ value) := by
  simp [Node.bytes, Node.hdr]

/-- What `create_env_blob` writes. -/
theorem created_eq (key value : List UInt8) :
    writeStatus
        (((writeEnvHdr flash addr (envHdr key value)).program (addr + envHdrDataSize) key).program
          (addr + envHdrDataSize + key.length) value)
        addr envStatusNum EnvStatus.write.index =
      written flash addr ((envHdr key value).bytes ++ key ++ value) := by
  have here : addr + envMagicOffset + (envHdr key value).bytes.length = addr + envHdrDataSize := rfl
  have there : addr + envMagicOffset + ((envHdr key value).bytes ++ key).length = addr + envHdrDataSize + key.length := by
    rw [List.length_append, ← Nat.add_assoc, here]
  rw [written, Nor.program_append, Nor.program_append, here, there, writeEnvHdr]

/-- What `move_env` writes. -/
theorem copied_eq {source : Nat} (parts : node.Parts flash source)
    (apart : source + node.len ≤ addr ∨ addr + node.len ≤ source) :
    writeStatus (copyEnv (writeStatus flash addr envStatusNum EnvStatus.preWrite.index) source addr node.len) addr
        envStatusNum EnvStatus.write.index =
      written flash addr ((envHdr node.key node.value).bytes ++ node.key ++ node.value) := by
  have some := node.len_pos
  have bytes : node.bytes = [node.table, 0xFF, 0xFF, 0xFF] ++ ((envHdr node.key node.value).bytes ++ node.key ++ node.value) := by
    simp [Node.bytes, Node.hdr]
  have length : ((envHdr node.key node.value).bytes ++ node.key ++ node.value).length = node.len - envMagicOffset := by
    have whole := congrArg List.length bytes
    rw [Node.length_bytes, List.length_append, List.length_cons, List.length_cons, List.length_cons,
      List.length_singleton] at whole
    rw [envMagicOffset]
    omega
  have holds := Node.holds_bytes_iff.mpr parts
  rw [bytes, Nor.holds_append] at holds
  have body : window flash (source + envMagicOffset) (node.len - envMagicOffset) =
      (envHdr node.key node.value).bytes ++ node.key ++ node.value := by
    rw [← length]
    exact holds.2
  have read : window (writeStatus flash addr envStatusNum EnvStatus.preWrite.index) (source + envMagicOffset)
      (node.len - envMagicOffset) = window flash (source + envMagicOffset) (node.len - envMagicOffset) := by
    apply window_congr
    intro index inside
    rw [envMagicOffset] at inside ⊢
    exact writeStatus_outside (by decide) (by decide) (by decide) (by omega)
  rw [copyEnv, Nor.program_pieces (by decide) (by rw [envMagicOffset]; omega), read, body, written]

/-- A written entry comes behind the others of its sector. -/
theorem SectorAt.appended (at_ : SectorAt flash addr sector) (key value : List UInt8)
    (fits : (⟨writtenTable, key, value⟩ : Node).Fits) (room : sector.used + envLen key value ≤ 4080) :
    SectorAt (written flash (addr + 16 + sector.used) ((envHdr key value).bytes ++ key ++ value)) addr
      { sector with nodes := sector.nodes ++ [⟨writtenTable, key, value⟩] } := by
  have length : ((envHdr key value).bytes ++ key ++ value).length + 4 = envLen key value := by
    rw [List.length_append, List.length_append, Node.length_hdr_bytes, envLen, envHdrDataSize]
    omega
  have blank := at_.blank
  have free : flash.Blank (addr + 16 + sector.used)
      (addr + 16 + sector.used + 4 + ((envHdr key value).bytes ++ key ++ value).length) :=
    blank.mono (Nat.le_refl _) (by omega)
  obtain ⟨holds, outside⟩ := written_holds free
  have bytes := length_flatMap_bytes sector.nodes
  have used : (Sector.mk sector.store sector.dirty (sector.nodes ++ [⟨writtenTable, key, value⟩])).used =
      sector.used + envLen key value := by
    rw [Sector.used, size_append, size_cons, size_nil]
    rfl
  have taken : sector.used = size sector.nodes := rfl
  refine ⟨?_, ?_, ?_, ?_, ?_, ?_, ?_, ?_⟩
  · rw [outside _ (by omega), at_.store]
  · rw [outside _ (by omega), at_.dirty]
  · exact at_.magic.congr fun cell above under => outside cell (by rw [length_leBytes] at under; omega)
  · exact at_.combined.congr fun cell above under => outside cell (by rw [length_leBytes] at under; omega)
  · rw [List.flatMap_append, List.flatMap_singleton, Nor.holds_append, bytes, Node.bytes_of_written]
    exact ⟨at_.nodes.congr fun cell above under => outside cell (by omega), holds⟩
  · rw [used]
    exact (blank.mono (by omega) (Nat.le_refl _)).congr fun cell above under => outside cell (by omega)
  · rwa [used]
  · intro node member
    rcases List.mem_append.mp member with old | new
    · exact at_.fits node old
    · rwa [List.mem_singleton.mp new]

/-! ## Formatted sectors -/

theorem formatted_holds :
    SectorAt ((flash.erase addr sectorSize).program addr (sectorHdrBytes sectorNotCombined)) addr .fresh := by
  have erased : (flash.erase addr sectorSize).Blank addr (addr + 4096) := Nor.erase_blank
  have holds : ((flash.erase addr sectorSize).program addr (sectorHdrBytes sectorNotCombined)).Holds addr
      (sectorHdrBytes sectorNotCombined) :=
    Nor.Blank.holds_program (erased.mono (Nat.le_refl _) (Nat.add_le_add_left (by decide) _))
  have hdr : sectorHdrBytes sectorNotCombined =
      [Sector.fresh.store] ++ ([Sector.fresh.dirty] ++ ([0xFF, 0xFF] ++ (leBytes sectorMagicWord ++
        (leBytes sectorNotCombined ++ [0xFF, 0xFF, 0xFF, 0xFF])))) := by decide
  have parts := holds
  rw [hdr, Nor.holds_append, Nor.holds_append, Nor.holds_append, Nor.holds_append, Nor.holds_append,
    Nor.holds_singleton, Nor.holds_singleton, ← hdr] at parts
  obtain ⟨store, dirty, -, magic, combined, -⟩ := parts
  exact
    { store
      dirty
      magic
      combined
      nodes := Nor.holds_nil
      blank := (erased.mono (Nat.le_add_right _ _) (Nat.le_refl _)).program (.inl (Nat.le_refl _))
      room := Nat.zero_le _
      fits := by simp [Sector.fresh] }

end

end SyrFilter.Ef
