import SyrFilter.Lib.Memory

namespace SyrFilter.Ota

/-! # Firmware updates

`ota/wifi_ota.c` and the update variables of `uart/uart_core.c`.  The flash
driver below the download partition decides how an operation ends.
-/

/-- The length of the `download` partition in `storage/fal_cfg.h`. -/
def downloadLen : UInt32 := 524288

/-- How the flash operations of one call end.  An erase leaves whatever it
leaves; a write stores everything or nothing. -/
structure FlashOps where
  found : Bool
  erased : Bool
  afterErase : Nat → UInt8
  written : Bool

structure State where
  firmLength : UInt32
  firmUpdateFlag : UInt8
  firmSize : UInt16
  totalSize : UInt32
  curSize : UInt32
  /-- `dl_part` points to the partition. -/
  dlPart : Bool
  partition : Nat → UInt8
  stProgress : UInt8

/-- All variables as the C runtime clears them. -/
def State.boot (partition : Nat → UInt8) : State where
  firmLength := 0
  firmUpdateFlag := 0
  firmSize := 0
  totalSize := 0
  curSize := 0
  dlPart := false
  partition
  stProgress := 0

/-- Bytes stored in a row from an address on. -/
def store (partition : Nat → UInt8) (address : Nat) (buf : Nat → UInt8) (count : Nat) : Nat → UInt8 :=
  fun index => if address ≤ index ∧ index < address + count then buf (index - address) else partition index

namespace State

variable (ops : FlashOps) (state : State)

/-- `wifi_ota_begin`, and whether it came to its end. -/
def wifiOtaBegin (fileSize : UInt32) : State × Bool :=
  let started := { state with totalSize := fileSize, curSize := 0, dlPart := ops.found }
  if ops.found = false then (started, false)
  else if downloadLen < fileSize then (started, false)
  else ({ started with partition := ops.afterErase }, ops.erased)

/-- `fal_partition_write`.  Its assertions are compiled out; without a partition it
reads one from address 0, of whose name there is no flash device. -/
def falPartitionWrite (addr : UInt32) (buf : Nat → UInt8) (size : UInt32) : Option (Nat → UInt8) :=
  if state.dlPart = false then none
  else if downloadLen < addr + size then none
  else if ops.written = false then none
  else some (store state.partition addr.toNat buf size.toNat)

/-- `wifi_ota_receive`, and whether it returned `RT_EOK`. -/
def wifiOtaReceive (buf : Nat → UInt8) (offset len : UInt32) : State × Bool :=
  if state.curSize ≠ offset then (state, false)
  else
    match state.falPartitionWrite ops state.curSize buf len with
    | none => (state, false)
    | some partition =>
        let curSize := state.curSize + len
        ({ state with partition, curSize, stProgress := (curSize * 100 / state.totalSize).toUInt8 }, true)

theorem wifiOtaBegin_counters (fileSize : UInt32) :
    (state.wifiOtaBegin ops fileSize).1.totalSize = fileSize ∧
      (state.wifiOtaBegin ops fileSize).1.curSize = 0 := by
  rw [wifiOtaBegin]
  dsimp only
  split
  · exact ⟨rfl, rfl⟩
  · split <;> exact ⟨rfl, rfl⟩

/-- When a packet is stored: it continues the data received so far, it ends
within the partition, and the flash takes it. -/
def Stores (offset len : UInt32) : Prop :=
  state.curSize = offset ∧ state.dlPart = true ∧ ¬downloadLen < state.curSize + len ∧
    ops.written = true

variable {ops state} {buf : Nat → UInt8} {offset len : UInt32}

theorem wifiOtaReceive_stored (stores : state.Stores ops offset len) :
    state.wifiOtaReceive ops buf offset len =
      ({ state with
          partition := store state.partition state.curSize.toNat buf len.toNat
          curSize := state.curSize + len
          stProgress := ((state.curSize + len) * 100 / state.totalSize).toUInt8 },
        true) := by
  obtain ⟨continues, there, room, taken⟩ := stores
  simp [wifiOtaReceive, falPartitionWrite, continues, there, taken, continues ▸ room]

theorem wifiOtaReceive_refused (refused : ¬state.Stores ops offset len) :
    state.wifiOtaReceive ops buf offset len = (state, false) := by
  by_cases continues : state.curSize = offset
  · have fails : state.falPartitionWrite ops state.curSize buf len = none := by
      rw [falPartitionWrite]
      split
      · rfl
      split
      · rfl
      split
      · rfl
      · rename_i there room taken
        exact absurd ⟨continues, by simpa using there, room, by simpa using taken⟩ refused
    rw [wifiOtaReceive, if_neg (not_not_intro continues), fails]
  · rw [wifiOtaReceive, if_pos continues]

theorem wifiOtaReceive_congr {buf' : Nat → UInt8} (same : ∀ i < len.toNat, buf i = buf' i) :
    state.wifiOtaReceive ops buf offset len = state.wifiOtaReceive ops buf' offset len := by
  by_cases stores : state.Stores ops offset len
  · have stored : store state.partition state.curSize.toNat buf len.toNat =
        store state.partition state.curSize.toNat buf' len.toNat := by
      funext index
      simp only [store]
      split
      · exact same _ (by omega)
      · rfl
    rw [wifiOtaReceive_stored stores, wifiOtaReceive_stored stores, stored]
  · rw [wifiOtaReceive_refused stores, wifiOtaReceive_refused stores]

end State

end SyrFilter.Ota
