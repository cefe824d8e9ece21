import SyrFilter.Ef.Cache
import SyrFilter.Ef.Scan
import SyrFilter.Ef.Status

namespace SyrFilter.Ef

open SyrFilter.Lib

/-! # Entries

What `read_env` takes from an entry in flash, and what is written for one.
-/

inductive EnvStatus where
  | unused
  | preWrite
  | write
  | preDelete
  | deleted
  | errHdr
deriving DecidableEq, Repr

def EnvStatus.index : EnvStatus → Nat
  | .unused => 0
  | .preWrite => 1
  | .write => 2
  | .preDelete => 3
  | .deleted => 4
  | .errHdr => 5

def EnvStatus.ofIndex : Nat → EnvStatus
  | 0 => .unused
  | 1 => .preWrite
  | 2 => .write
  | 3 => .preDelete
  | 4 => .deleted
  | _ => .errHdr

def envStatusNum : Nat := 6

def envNameLenOffset : Nat := 16

def sectorHdrDataSize : Nat := 16

def sectorNum : Nat := 4

def envAreaSize : Nat := sectorSize * sectorNum

/-- `struct env_node_obj`; of the name, the bytes that are read.  What a failed
read leaves as it was is empty here: nothing looks at it. -/
structure EnvNode where
  status : EnvStatus
  crcIsOk : Bool
  nameLen : Nat
  len : Nat
  valueLen : Nat
  name : List UInt8
  start : Nat
  value : Nat
deriving DecidableEq

def EnvNode.failed : EnvNode where
  status := .unused
  crcIsOk := false
  nameLen := 0
  len := 0
  valueLen := 0
  name := []
  start := 0
  value := 0

/-- What `struct env_hdr_data` holds behind its magic word, the gap behind the
name's length being `0xFF`. -/
structure EnvHdrData where
  len : UInt32
  crc32 : UInt32
  nameLen : UInt8
  valueLen : UInt32

/-- From `name_len` on, where the checksum begins. -/
def EnvHdrData.lengths (hdr : EnvHdrData) : List UInt8 := [hdr.nameLen, 0xFF, 0xFF, 0xFF] ++ leBytes hdr.valueLen

def EnvHdrData.bytes (hdr : EnvHdrData) : List UInt8 :=
  leBytes envMagicWord ++ leBytes hdr.len ++ leBytes hdr.crc32 ++ hdr.lengths

def envLen (key value : List UInt8) : Nat := envHdrDataSize + key.length + value.length

/-- The header that `create_env_blob` fills in. -/
def envHdr (key value : List UInt8) : EnvHdrData :=
  let hdr : EnvHdrData :=
    { len := (envLen key value).toUInt32
      crc32 := 0
      nameLen := key.length.toUInt8
      valueLen := value.length.toUInt32 }
  { hdr with crc32 := efCalcCrc32 (efCalcCrc32 (efCalcCrc32 0 hdr.lengths) key) value }

/-- The checksum loop of `read_env`. -/
def entryCrc (flash : Nor) (start dataLen : Nat) : UInt32 :=
  (pieces 32 dataLen).foldl
    (fun crc piece => efCalcCrc32 crc (window flash (start + envNameLenOffset + piece.1) piece.2)) 0

/-- `read_env`; it does not return where its assertion fails. -/
def readEnv (flash : Nor) (start : Nat) : Option (EnvNode × Nor) :=
  let status := EnvStatus.ofIndex (readStatus flash start envStatusNum)
  let len := (wordAt flash (start + 8)).toNat
  if len = 0xFFFFFFFF ∨ envAreaSize < len ∨ len < envNameLenOffset then
    some
      ({ EnvNode.failed with status := .errHdr, len := envHdrDataSize, start },
        if status ≠ .errHdr then writeStatus flash start envStatusNum EnvStatus.errHdr.index else flash)
  else if sectorSize - sectorHdrDataSize < len ∧ len < envAreaSize then none
  else if entryCrc flash start (len - envNameLenOffset) ≠ wordAt flash (start + 12) then
    some ({ EnvNode.failed with status, len, start }, flash)
  else
    let nameLen := (flash (start + envNameLenOffset)).toNat
    some
      ({ status
         crcIsOk := true
         nameLen
         len
         valueLen := (wordAt flash (start + 20)).toNat
         name := window flash (start + envHdrDataSize) nameLen
         start
         value := start + envHdrDataSize + nameLen },
        flash)

def writeEnvHdr (flash : Nor) (addr : Nat) (hdr : EnvHdrData) : Nor :=
  (writeStatus flash addr envStatusNum EnvStatus.preWrite.index).program (addr + envMagicOffset) hdr.bytes

/-! ## What an entry holds -/

structure Node where
  table : UInt8
  key : List UInt8
  value : List UInt8
deriving DecidableEq

namespace Node

variable {flash : Nor} {addr : Nat} {node : Node}

def status (node : Node) : EnvStatus := .ofIndex (getStatus [node.table] envStatusNum)

def len (node : Node) : Nat := envLen node.key node.value

def hdr (node : Node) : EnvHdrData := envHdr node.key node.value

def bytes (node : Node) : List UInt8 := [node.table, 0xFF, 0xFF, 0xFF] ++ node.hdr.bytes ++ node.key ++ node.value

/-- It fits a sector and the buffer for names. -/
structure Fits (node : Node) : Prop where
  key : node.key.length ≤ envNameMax
  len : node.len ≤ sectorSize - sectorHdrDataSize

/-- The object that is read from an entry. -/
def object (node : Node) (addr : Nat) : EnvNode where
  status := node.status
  crcIsOk := true
  nameLen := node.key.length
  len := node.len
  valueLen := node.value.length
  name := node.key
  start := addr
  value := addr + envHdrDataSize + node.key.length

@[simp] theorem length_hdr_bytes (hdr : EnvHdrData) : hdr.bytes.length = 20 := rfl

@[simp] theorem length_bytes : node.bytes.length = node.len := by
  simp [bytes, len, envLen, envHdrDataSize]
  omega

/-- The parts of an entry and where they lie. -/
structure Parts (flash : Nor) (addr : Nat) (node : Node) : Prop where
  table : flash addr = node.table
  gap : flash.Holds (addr + 1) [0xFF, 0xFF, 0xFF]
  magic : flash.Holds (addr + 4) (leBytes envMagicWord)
  len : flash.Holds (addr + 8) (leBytes node.hdr.len)
  crc32 : flash.Holds (addr + 12) (leBytes node.hdr.crc32)
  data : flash.Holds (addr + 16) (node.hdr.lengths ++ node.key ++ node.value)

theorem bytes_eq (node : Node) :
    node.bytes =
      [node.table] ++ ([0xFF, 0xFF, 0xFF] ++ (leBytes envMagicWord ++ (leBytes node.hdr.len ++ (leBytes node.hdr.crc32 ++
        (node.hdr.lengths ++ node.key ++ node.value))))) := by
  simp [bytes, EnvHdrData.bytes]

theorem holds_bytes_iff : flash.Holds addr node.bytes ↔ Parts flash addr node := by
  rw [bytes_eq, Nor.holds_append, Nor.holds_append, Nor.holds_append, Nor.holds_append, Nor.holds_append,
    Nor.holds_singleton]
  simp only [List.length_cons, List.length_nil, length_leBytes, Nat.add_assoc, Nat.reduceAdd]
  constructor
  · rintro ⟨table, gap, magic, len, crc32, data⟩
    exact ⟨table, gap, magic, len, crc32, data⟩
  · rintro ⟨table, gap, magic, len, crc32, data⟩
    exact ⟨table, gap, magic, len, crc32, data⟩

theorem toNat_len (fits : node.Fits) : node.hdr.len.toNat = node.len := by
  have small := fits.len
  have size : sectorSize - sectorHdrDataSize = 4080 := rfl
  show node.len.toUInt32.toNat = node.len
  rw [Nat.toUInt32, UInt32.toNat_ofNat', Nat.mod_eq_of_lt (by omega)]

theorem toNat_nameLen (fits : node.Fits) : node.hdr.nameLen.toNat = node.key.length := by
  have small : node.key.length ≤ 32 := fits.key
  show node.key.length.toUInt8.toNat = node.key.length
  rw [Nat.toUInt8, UInt8.toNat_ofNat', Nat.mod_eq_of_lt (by omega)]

theorem toNat_valueLen (fits : node.Fits) : node.hdr.valueLen.toNat = node.value.length := by
  have small := fits.len
  have size : sectorSize - sectorHdrDataSize = 4080 := rfl
  rw [len, envLen] at small
  show node.value.length.toUInt32.toNat = node.value.length
  rw [Nat.toUInt32, UInt32.toNat_ofNat', Nat.mod_eq_of_lt (by omega)]

theorem entryCrc_eq (start dataLen : Nat) :
    entryCrc flash start dataLen = efCalcCrc32 0 (window flash (start + envNameLenOffset) dataLen) := by
  have pieces_eq : ∀ (parts : List (Nat × Nat)) (crc : UInt32),
      parts.foldl (fun crc piece => efCalcCrc32 crc (window flash (start + envNameLenOffset + piece.1) piece.2)) crc =
        efCalcCrc32 crc (parts.flatMap fun piece => window flash (start + envNameLenOffset + piece.1) piece.2) := by
    intro parts
    induction parts with
    | nil => exact fun crc => (efCalcCrc32_nil crc).symm
    | cons piece rest ih =>
        intro crc
        rw [List.foldl_cons, ih, List.flatMap_cons, efCalcCrc32_append]
  rw [entryCrc, pieces_eq, window_pieces (Nat.zero_lt_succ 31)]

theorem readStatus_eq : readStatus flash addr envStatusNum = getStatus [flash addr] envStatusNum := by
  rw [readStatus]
  congr 1

/-- An entry as it was written is read back. -/
theorem readEnv_eq (parts : Parts flash addr node) (fits : node.Fits) :
    readEnv flash addr = some (node.object addr, flash) := by
  have size : sectorSize - sectorHdrDataSize = 4080 := rfl
  have area : envAreaSize = 16384 := rfl
  have offset : envNameLenOffset = 16 := rfl
  have bound := fits.len
  have positive : 24 ≤ node.len := by
    rw [len, envLen, envHdrDataSize]
    omega
  have length : (wordAt flash (addr + 8)).toNat = node.len := by rw [parts.len.wordAt, toNat_len fits]
  have dataLen : (node.hdr.lengths ++ node.key ++ node.value).length = node.len - envNameLenOffset := by
    simp [EnvHdrData.lengths, len, envLen, envNameLenOffset, envHdrDataSize]
    omega
  have data : window flash (addr + envNameLenOffset) (node.len - envNameLenOffset) =
      node.hdr.lengths ++ node.key ++ node.value := by
    rw [← dataLen]
    exact parts.data
  have crc : entryCrc flash addr (node.len - envNameLenOffset) = wordAt flash (addr + 12) := by
    rw [entryCrc_eq, data, parts.crc32.wordAt, efCalcCrc32_append, efCalcCrc32_append]
    rfl
  have split := parts.data
  rw [Nor.holds_append, Nor.holds_append] at split
  obtain ⟨⟨lengths, key⟩, -⟩ := split
  have nameLen : (flash (addr + envNameLenOffset)).toNat = node.key.length := by
    rw [← toNat_nameLen fits]
    have first := (Nor.holds_cons.mp lengths).1
    rw [offset, first]
  have valueLen : (wordAt flash (addr + 20)).toNat = node.value.length := by
    rw [← toNat_valueLen fits]
    have last : flash.Holds (addr + 20) (leBytes node.hdr.valueLen) := (Nor.holds_append.mp lengths).2
    rw [last.wordAt]
  have name : window flash (addr + envHdrDataSize) node.key.length = node.key := key
  have status : EnvStatus.ofIndex (readStatus flash addr envStatusNum) = node.status := by
    rw [readStatus_eq, parts.table]
    rfl
  rw [readEnv]
  simp only [length, nameLen, valueLen, name, status]
  rw [if_neg (by omega), if_neg (by omega), if_neg (by simp [crc])]
  rfl

end Node

end SyrFilter.Ef
