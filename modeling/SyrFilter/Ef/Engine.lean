import SyrFilter.Ef.Sectors

namespace SyrFilter.Ef

open SyrFilter.Lib

/-! # The store

The operations of `ef_env.c` on a flash that takes every write.  A function that
gives `none` does not return.
-/

inductive EfErrCode where
  | noErr
  | eraseErr
  | readErr
  | writeErr
  | envNameErr
  | envNameExist
  | envFull
  | envInitFailed
deriving DecidableEq, Repr

/-- `EF_SEC_REMAIN_THRESHOLD` -/
def secRemainThreshold : Nat := envHdrDataSize + envNameMax

/-- `EF_GC_EMPTY_SEC_THRESHOLD` -/
def gcEmptySecThreshold : Nat := 1

/-! ## Finding an entry -/

def findEnvCb (key : List UInt8) (env : EnvNode) (store : Store) (_found : Option EnvNode) :
    Option (Bool × Store × Option EnvNode) :=
  if key.length ≠ env.nameLen then some (false, store, none)
  else if env.crcIsOk ∧ env.status = .write ∧ strncmpEq key.length env.name key then some (true, store, some env)
  else some (false, store, none)

def findEnvNoCache (store : Store) (key : List UInt8) : Option (Option EnvNode × Store) := do
  let (store, found) ← envIterator (findEnvCb key) store none
  some (found, store)

def findEnv (store : Store) (key : List UInt8) : Option (Option EnvNode × Store) :=
  match getEnvFromCache store.flash store.envCache key with
  | (some addr, envCache) => do
      let (env, flash) ← readEnv store.flash addr
      some (some env, { store with flash, envCache })
  | (none, envCache) => do
      let (found, store) ← findEnvNoCache { store with envCache } key
      match found with
      | some env => some (some env, { store with envCache := updateEnvCache store.envCache key (some env.start) })
      | none => some (none, store)

def getEnv (store : Store) (key : List UInt8) (bufLen : Nat) : Option (List UInt8 × Store) := do
  let (found, store) ← findEnv store key
  match found with
  | some env =>
      let readLen := if env.valueLen < bufLen then env.valueLen else bufLen
      some (window store.flash env.value readLen, store)
  | none => some ([], store)

/-! ## Room for an entry -/

def sectorHdrBytes (combined : UInt32) : List UInt8 :=
  (setStatus sectorStatusNum SectorStoreStatus.storeEmpty.index).1 ++
    (setStatus sectorStatusNum SectorDirtyStatus.dirtyFalse.index).1 ++ [0xFF, 0xFF] ++ leBytes sectorMagicWord ++
    leBytes combined ++ leBytes 0xFFFFFFFF

def formatSector (store : Store) (addr : Nat) (combined : UInt32) : Option Store :=
  if addr % sectorSize ≠ 0 then none
  else
    some
      { store with
        flash := (store.flash.erase addr sectorSize).program addr (sectorHdrBytes combined)
        sectorCache := updateSectorCache store.sectorCache addr (addr + sectorSize) }

/-- `update_sec_status`, with what becomes of `*is_full`. -/
def updateSecStatus (store : Store) (sector : SectorMeta) (newEnvLen : Nat) (isFull : Bool) : Store × Bool :=
  match sector.store with
  | .storeEmpty =>
      let flash := writeStatus store.flash sector.addr sectorStatusNum SectorStoreStatus.storeUsing.index
      ({ store with flash }, isFull)
  | .storeUsing =>
      if sector.remain < secRemainThreshold ∨ sub32 sector.remain newEnvLen < secRemainThreshold then
        let flash := writeStatus store.flash sector.addr sectorStatusNum SectorStoreStatus.storeFull.index
        let sectorCache := updateSectorCache store.sectorCache sector.addr (sector.addr + sectorSize)
        ({ store with flash, sectorCache }, true)
      else (store, false)
  | _ => (store, isFull)

def sectorStatisticsCb (sector : SectorMeta) (store : Store) (acc : Nat × Nat) : Option (Bool × Store × Nat × Nat) :=
  if sector.checkOk ∧ sector.store = .storeEmpty then some (false, store, acc.1 + 1, acc.2)
  else if sector.checkOk ∧ sector.store = .storeUsing then some (false, store, acc.1, acc.2 + 1)
  else some (false, store, acc)

def allocEnvCb (envSize : Nat) (sector : SectorMeta) (store : Store) (emptyEnv : Option Nat) :
    Option (Bool × Store × Option Nat) :=
  if sector.checkOk ∧ envSize < sector.remain ∧
      (sector.dirty = .dirtyFalse ∨ sector.dirty = .dirtyTrue ∧ store.gcRequest = false) then
    some (true, store, sector.emptyEnv)
  else some (false, store, emptyEnv)

def allocEnv (store : Store) (sector : SectorMeta) (envSize : Nat) : Option (Option Nat × SectorMeta × Store) := do
  let (sector, store, emptySector, usingSector) ←
    sectorIterator sector .storeUnused sectorStatisticsCb false store (0, 0)
  let (sector, store, emptyEnv) ←
    if 0 < usingSector then sectorIterator sector .storeUsing (allocEnvCb envSize) true store none
    else some (sector, store, none)
  if 0 < emptySector ∧ emptyEnv = none then
    if gcEmptySecThreshold < emptySector ∨ store.gcRequest then
      let (sector, store, emptyEnv) ← sectorIterator sector .storeEmpty (allocEnvCb envSize) true store emptyEnv
      some (emptyEnv, sector, store)
    else some (none, sector, { store with gcRequest := true })
  else some (emptyEnv, sector, store)

/-! ## Deleting and moving entries -/

/-- `del_env` of an entry that has been found. -/
def delEnv (store : Store) (key : Option (List UInt8)) (oldEnv : EnvNode) (completeDel : Bool) : Store :=
  let store :=
    if completeDel = false then
      { store with
        flash := writeStatus store.flash oldEnv.start envStatusNum EnvStatus.preDelete.index
        lastIsCompleteDel := true }
    else
      { store with
        flash := writeStatus store.flash oldEnv.start envStatusNum EnvStatus.deleted.index
        envCache :=
          if store.lastIsCompleteDel then store.envCache
          else updateEnvCache store.envCache (key.getD oldEnv.name) none
        lastIsCompleteDel := false }
  let dirtyStatusAddr := oldEnv.start / sectorSize * sectorSize + sectorDirtyOffset
  if readStatus store.flash dirtyStatusAddr sectorStatusNum = SectorDirtyStatus.dirtyFalse.index then
    let flash := writeStatus store.flash dirtyStatusAddr sectorStatusNum SectorDirtyStatus.dirtyTrue.index
    { store with flash }
  else store

/-- `del_env` without an entry, which it looks for. -/
def delEnvByKey (store : Store) (key : List UInt8) (completeDel : Bool) : Option (EfErrCode × Store) := do
  let (found, store) ← findEnv store key
  match found with
  | some env => some (.noErr, delEnv store (some key) env completeDel)
  | none => some (.envNameErr, store)

/-- The copy loop of `move_env`. -/
def copyEnv (flash : Nor) (source dest len : Nat) : Nor :=
  (pieces 32 (len - envMagicOffset)).foldl
    (fun flash piece =>
      flash.program (dest + envMagicOffset + piece.1) (window flash (source + envMagicOffset + piece.1) piece.2))
    flash

def moveEnv (store : Store) (env : EnvNode) : Option (EfErrCode × Store) := do
  let store := if env.status = .write then delEnv store none env false else store
  let (envAddr, sector, store) ← allocEnv store .unread env.len
  match envAddr with
  | none => some (.envFull, store)
  | some envAddr =>
      let (created, store) ← if store.inRecoveryCheck then findEnvNoCache store env.name else some (none, store)
      if created.isSome then some (.noErr, delEnv store none env true)
      else
        let (store, _) := updateSecStatus store sector env.len false
        let flash := writeStatus store.flash envAddr envStatusNum EnvStatus.preWrite.index
        let flash := copyEnv flash env.start envAddr env.len
        let flash := writeStatus flash envAddr envStatusNum EnvStatus.write.index
        let sectorCache :=
          updateSectorCache store.sectorCache (envAddr / sectorSize * sectorSize)
            (envAddr + envHdrDataSize + env.nameLen + env.valueLen)
        let envCache := updateEnvCache store.envCache env.name (some envAddr)
        some (.noErr, delEnv { store with flash, sectorCache, envCache } none env true)

/-! ## Collecting garbage -/

def gcCheckCb (sector : SectorMeta) (store : Store) (emptySec : Nat) : Option (Bool × Store × Nat) :=
  some (false, store, if sector.checkOk then emptySec + 1 else emptySec)

/-- What `do_gc` does with each entry. -/
def doGcEnv (env : EnvNode) (store : Store) (acc : Unit) : Option (Bool × Store × Unit) :=
  if env.crcIsOk ∧ (env.status = .write ∨ env.status = .preDelete) then do
    let (_, store) ← moveEnv store env
    some (false, store, acc)
  else some (false, store, acc)

def doGc (sector : SectorMeta) (store : Store) (acc : Unit) : Option (Bool × Store × Unit) :=
  if sector.checkOk ∧ (sector.dirty = .dirtyTrue ∨ sector.dirty = .dirtyGc) then do
    let flash :=
      writeStatus store.flash (sector.addr + sectorDirtyOffset) sectorStatusNum SectorDirtyStatus.dirtyGc.index
    let (_, store, acc) ← envLoop doGcEnv sector sectorSize none { store with flash } acc
    let store ← formatSector store sector.addr sectorNotCombined
    some (false, store, acc)
  else some (false, store, acc)

def gcCollect (store : Store) : Option Store := do
  let (sector, store, emptySec) ← sectorIterator .unread .storeEmpty gcCheckCb false store 0
  if emptySec ≤ gcEmptySecThreshold then
    let (_, store, _) ← sectorIterator sector .storeUnused doGc false store ()
    some { store with gcRequest := false }
  else some { store with gcRequest := false }

def newEnv (store : Store) (sector : SectorMeta) (envSize : Nat) : Option (Option Nat × SectorMeta × Store) := do
  let (emptyEnv, sector, store) ← allocEnv store sector envSize
  if emptyEnv = none ∧ store.gcRequest then
    let store ← gcCollect store
    allocEnv store sector envSize
  else some (emptyEnv, sector, store)

/-! ## Setting a value -/

def createEnvBlob (store : Store) (sector : SectorMeta) (key value : List UInt8) : Option (EfErrCode × Store) := do
  let len := envLen key value
  if envNameMax < key.length then some (.envNameErr, store)
  else if sectorSize - sectorHdrDataSize < len then some (.envFull, store)
  else
    let (envAddr, sector, store) ←
      match sector.emptyEnv with
      | some envAddr => some (some envAddr, sector, store)
      | none => newEnv store sector len
    match envAddr with
    | none => some (.envFull, store)
    | some envAddr =>
        let (store, isFull) := updateSecStatus store sector len false
        let flash := writeEnvHdr store.flash envAddr (envHdr key value)
        let flash := flash.program (envAddr + envHdrDataSize) key
        let sectorCache :=
          if isFull then store.sectorCache else updateSectorCache store.sectorCache sector.addr (envAddr + len)
        let envCache := updateEnvCache store.envCache key (some envAddr)
        let flash := flash.program (envAddr + envHdrDataSize + key.length) value
        let flash := writeStatus flash envAddr envStatusNum EnvStatus.write.index
        let gcRequest := store.gcRequest || isFull
        some (.noErr, { store with flash, sectorCache, envCache, gcRequest })

/-- `set_env`; no value deletes the entry. -/
def setEnv (store : Store) (key : List UInt8) : Option (List UInt8) → Option (EfErrCode × Store)
  | none => delEnvByKey store key true
  | some value => do
      let (envAddr, sector, store) ← newEnv store .unread (envLen key value)
      if envAddr = none then some (.envFull, store)
      else
        let (found, store) ← findEnv store key
        let store :=
          match found with
          | some env => delEnv store (some key) env false
          | none => store
        let (result, store) ← createEnvBlob store sector key value
        let store :=
          match found with
          | some env => if result = .noErr then delEnv store (some key) env true else store
          | none => store
        let store ← if store.gcRequest then gcCollect store else some store
        some (result, store)

/-! ## Starting -/

/-- The sectors that `ef_env_set_default` formats. -/
def formatAll (store : Store) : Option Store :=
  (List.range sectorNum).foldlM (fun store index => formatSector store (envStartAddr + index * sectorSize) sectorNotCombined)
    store

def efEnvSetDefault (defaultEnvSet : List (List UInt8 × List UInt8)) (store : Store) : Option Store := do
  let store ← formatAll store
  defaultEnvSet.foldlM
    (fun store env => do
      let (_, store) ← createEnvBlob store { SectorMeta.unread with emptyEnv := none } env.1 env.2
      some store)
    store

def checkSecHdrCb (sector : SectorMeta) (store : Store) (failedCount : Nat) : Option (Bool × Store × Nat) :=
  if sector.checkOk then some (false, store, failedCount)
  else do
    let store ← formatSector store sector.addr sectorNotCombined
    some (false, store, failedCount + 1)

def checkAndRecoveryGcCb (sector : SectorMeta) (store : Store) (acc : Unit) : Option (Bool × Store × Unit) :=
  if sector.checkOk ∧ sector.dirty = .dirtyGc then do
    let store ← gcCollect { store with gcRequest := true }
    some (false, store, acc)
  else some (false, store, acc)

def checkAndRecoveryEnvCb (env : EnvNode) (store : Store) (acc : Unit) : Option (Bool × Store × Unit) :=
  if env.crcIsOk ∧ env.status = .preDelete then do
    let (result, store) ← moveEnv store env
    some (result ≠ .noErr, store, acc)
  else if env.status = .preWrite then
    let flash := writeStatus store.flash env.start envStatusNum EnvStatus.errHdr.index
    some (true, { store with flash }, acc)
  else some (false, store, acc)

/-- The entries are checked again for as long as garbage is to be collected. -/
def recover : Nat → Store → Option Store
  | 0, _ => none
  | fuel + 1, store => do
      let (store, _) ← envIterator checkAndRecoveryEnvCb store ()
      if store.gcRequest then
        let store ← gcCollect store
        recover fuel store
      else some store

def efLoadEnv (fuel : Nat) (defaultEnvSet : List (List UInt8 × List UInt8)) (store : Store) : Option Store := do
  let (sector, store, checkFailedCount) ←
    sectorIterator .unread .storeUnused checkSecHdrCb false { store with inRecoveryCheck := true } 0
  let store ← if checkFailedCount = sectorNum then efEnvSetDefault defaultEnvSet store else some store
  let (_, store, _) ← sectorIterator sector .storeUnused checkAndRecoveryGcCb false store ()
  let store ← recover fuel store
  some { store with inRecoveryCheck := false }

/-- `default_env_set` of the port: the value of `boot_times` is 0. -/
def defaultEnvSet : List (List UInt8 × List UInt8) :=
  [([0x62, 0x6F, 0x6F, 0x74, 0x5F, 0x74, 0x69, 0x6D, 0x65, 0x73], [0x30])]

/-- `ef_env_init` after a start, where nothing is left of the last run but the flash. -/
def efEnvInit (fuel : Nat) (flash : Nor) : Option Store :=
  efLoadEnv fuel defaultEnvSet
    { flash
      gcRequest := false
      lastIsCompleteDel := false
      inRecoveryCheck := false
      sectorCache := List.replicate 4 ⟨none, 0⟩
      envCache := List.replicate envCacheTableSize ⟨0, 0, none⟩ }

end SyrFilter.Ef
