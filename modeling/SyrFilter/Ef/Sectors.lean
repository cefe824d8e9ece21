import SyrFilter.Ef.Entry

namespace SyrFilter.Ef

open SyrFilter.Lib

/-! # Sectors

The state of `ef_env.c`, its sectors and the loops over them and over the
entries in them.
-/

structure Store where
  flash : Nor
  gcRequest : Bool
  lastIsCompleteDel : Bool
  inRecoveryCheck : Bool
  sectorCache : List SectorCacheNode
  envCache : List EnvCacheNode

inductive SectorStoreStatus where
  | storeUnused
  | storeEmpty
  | storeUsing
  | storeFull
deriving DecidableEq, Repr

def SectorStoreStatus.index : SectorStoreStatus → Nat
  | .storeUnused => 0
  | .storeEmpty => 1
  | .storeUsing => 2
  | .storeFull => 3

def SectorStoreStatus.ofIndex : Nat → SectorStoreStatus
  | 0 => .storeUnused
  | 1 => .storeEmpty
  | 2 => .storeUsing
  | _ => .storeFull

inductive SectorDirtyStatus where
  | dirtyUnused
  | dirtyFalse
  | dirtyTrue
  | dirtyGc
deriving DecidableEq, Repr

def SectorDirtyStatus.index : SectorDirtyStatus → Nat
  | .dirtyUnused => 0
  | .dirtyFalse => 1
  | .dirtyTrue => 2
  | .dirtyGc => 3

def SectorDirtyStatus.ofIndex : Nat → SectorDirtyStatus
  | 0 => .dirtyUnused
  | 1 => .dirtyFalse
  | 2 => .dirtyTrue
  | _ => .dirtyGc

/-- `SECTOR_STORE_STATUS_NUM` and `SECTOR_DIRTY_STATUS_NUM`. -/
def sectorStatusNum : Nat := 4

def sectorDirtyOffset : Nat := 1

/-- `SECTOR_MAGIC_WORD`: EF40. -/
def sectorMagicWord : UInt32 := 0x30344645

def sectorNotCombined : UInt32 := 0xFFFFFFFF

def envStartAddr : Nat := 0

structure SectorMeta where
  checkOk : Bool
  store : SectorStoreStatus
  dirty : SectorDirtyStatus
  addr : Nat
  magic : UInt32
  combined : UInt32
  remain : Nat
  emptyEnv : Option Nat
deriving DecidableEq

/-- A difference of `size_t`. -/
def sub32 (first second : Nat) : Nat := (first + 0x100000000 - second) % 0x100000000

def findNextEnvAddr (store : Store) (start stop : Nat) : Option Nat :=
  match getSectorFromCache store.sectorCache (start / sectorSize * sectorSize) with
  | some emptyEnv => if start = emptyEnv then none else findMagic store.flash start stop
  | none => findMagic store.flash start stop

/-- `get_next_env_addr`; before the first entry there is none. -/
def getNextEnvAddr (store : Store) (sector : SectorMeta) (preEnv : Option EnvNode) : Option Nat :=
  if sector.store = .storeEmpty then none
  else
    match preEnv with
    | none => some (sector.addr + sectorHdrDataSize)
    | some preEnv =>
        if preEnv.start ≤ sector.addr + sectorSize then
          let addr := if preEnv.crcIsOk then preEnv.start + preEnv.len else preEnv.start + 1
          match findNextEnvAddr store addr (sector.addr + sectorSize - sectorHdrDataSize) with
          | some addr => if sector.addr + sectorSize < addr ∨ preEnv.len = 0 then none else some addr
          | none => none
        else none

/-- The loop of `read_sector_meta_data` over the entries: the empty address, what
remains, and whether every entry is in order. -/
def traverse (sector : SectorMeta) : Nat → Store → Option EnvNode → Nat → Nat → Option (Nat × Nat × Bool × Store)
  | 0, _, _, _, _ => none
  | fuel + 1, store, preEnv, emptyEnv, remain =>
      match getNextEnvAddr store sector preEnv with
      | none => some (emptyEnv, remain, true, store)
      | some start =>
          match readEnv store.flash start with
          | none => none
          | some (env, flash) =>
              if env.crcIsOk = false ∧ env.status ≠ .preWrite ∧ env.status ≠ .errHdr then
                some (emptyEnv, 0, false, { store with flash })
              else traverse sector fuel { store with flash } (some env) (emptyEnv + env.len) (sub32 remain env.len)

/-- `read_sector_meta_data`, the flag telling that there is no error.  Behind a
wrong magic word the other fields stay as they are in `sector`. -/
def readSectorMetaData (store : Store) (addr : Nat) (sector : SectorMeta) (traversal : Bool) :
    Option (SectorMeta × Bool × Store) :=
  let magic := wordAt store.flash (addr + 4)
  if addr % sectorSize ≠ 0 then none
  else if magic ≠ sectorMagicWord then
    some ({ sector with addr, magic, checkOk := false, combined := sectorNotCombined }, false, store)
  else
    let sector :=
      { sector with
        addr, magic
        checkOk := true
        combined := wordAt store.flash (addr + 8)
        store := .ofIndex (readStatus store.flash addr sectorStatusNum)
        dirty := .ofIndex (readStatus store.flash (addr + sectorDirtyOffset) sectorStatusNum) }
    if traversal = false then some (sector, true, store)
    else
      match sector.store with
      | .storeEmpty =>
          let sector :=
            { sector with remain := sectorSize - sectorHdrDataSize, emptyEnv := some (addr + sectorHdrDataSize) }
          some (sector, true, store)
      | .storeUsing =>
          match getSectorFromCache store.sectorCache addr with
          | some emptyEnv =>
              some ({ sector with remain := sub32 sectorSize (sub32 emptyEnv addr), emptyEnv := some emptyEnv }, true, store)
          | none =>
              match traverse sector sectorSize store none (addr + sectorHdrDataSize) (sectorSize - sectorHdrDataSize) with
              | none => none
              | some (emptyEnv, remain, ok, store) =>
                  let ffAddr := continueFfAddr store.flash emptyEnv (addr + sectorSize)
                  let remain := if emptyEnv ≠ ffAddr then sub32 sectorSize (sub32 ffAddr addr) else remain
                  some
                    ({ sector with remain, emptyEnv := some ffAddr }, ok,
                      { store with sectorCache := updateSectorCache store.sectorCache addr ffAddr })
      | _ => some ({ sector with remain := 0, emptyEnv := some (addr + sectorHdrDataSize) }, true, store)

/-- `get_next_sector_addr` behind a sector. -/
def getNextSectorAddr (preSec : SectorMeta) : Option Nat :=
  let nextAddr :=
    if preSec.combined = sectorNotCombined then preSec.addr + sectorSize
    else (preSec.addr + preSec.combined.toNat * sectorSize) % 0x100000000
  if nextAddr < envStartAddr + envAreaSize then some nextAddr else none

section Loops

variable {α : Type}

/-- The loop of `sector_iterator` from an address on.  A callback stops it with `true`. -/
def sectorLoop (status : SectorStoreStatus) (callback : SectorMeta → Store → α → Option (Bool × Store × α))
    (traversalEnv : Bool) : Nat → Option Nat → SectorMeta → Store → α → Option (SectorMeta × Store × α)
  | _, none, sector, store, acc => some (sector, store, acc)
  | 0, some _, _, _, _ => none
  | fuel + 1, some secAddr, sector, store, acc => do
      let (sector, _, store) ← readSectorMetaData store secAddr sector false
      if status = .storeUnused ∨ status = sector.store then
        let (sector, _, store) ←
          if traversalEnv then readSectorMetaData store secAddr sector true else some (sector, true, store)
        let (stop, store, acc) ← callback sector store acc
        if stop then some (sector, store, acc)
        else sectorLoop status callback traversalEnv fuel (getNextSectorAddr sector) sector store acc
      else sectorLoop status callback traversalEnv fuel (getNextSectorAddr sector) sector store acc

def sectorIterator (sector : SectorMeta) (status : SectorStoreStatus)
    (callback : SectorMeta → Store → α → Option (Bool × Store × α)) (traversalEnv : Bool) (store : Store) (acc : α) :
    Option (SectorMeta × Store × α) :=
  sectorLoop status callback traversalEnv sectorNum (some envStartAddr) sector store acc

/-- A loop over the entries of a sector, as in `env_iterator` and `do_gc`. -/
def envLoop (callback : EnvNode → Store → α → Option (Bool × Store × α)) (sector : SectorMeta) :
    Nat → Option EnvNode → Store → α → Option (Bool × Store × α)
  | 0, _, _, _ => none
  | fuel + 1, preEnv, store, acc =>
      match getNextEnvAddr store sector preEnv with
      | none => some (false, store, acc)
      | some start => do
          let (env, flash) ← readEnv store.flash start
          let (stop, store, acc) ← callback env { store with flash } acc
          if stop then some (true, store, acc) else envLoop callback sector fuel (some env) store acc

/-- The loop of `env_iterator` from a sector on. -/
def envSectorLoop (callback : EnvNode → Store → α → Option (Bool × Store × α)) :
    Nat → Option Nat → SectorMeta → Store → α → Option (Store × α)
  | _, none, _, store, acc => some (store, acc)
  | 0, some _, _, _, _ => none
  | fuel + 1, some secAddr, sector, store, acc => do
      let (sector, ok, store) ← readSectorMetaData store secAddr sector false
      if ok ∧ (sector.store = .storeUsing ∨ sector.store = .storeFull) then
        let (stop, store, acc) ← envLoop callback sector sectorSize none store acc
        if stop then some (store, acc) else envSectorLoop callback fuel (getNextSectorAddr sector) sector store acc
      else envSectorLoop callback fuel (getNextSectorAddr sector) sector store acc

/-- The sector object of a function before it is read. -/
def SectorMeta.unread : SectorMeta where
  checkOk := false
  store := .storeUnused
  dirty := .dirtyUnused
  addr := 0
  magic := 0
  combined := 0
  remain := 0
  emptyEnv := none

def envIterator (callback : EnvNode → Store → α → Option (Bool × Store × α)) (store : Store) (acc : α) :
    Option (Store × α) :=
  envSectorLoop callback sectorNum (some envStartAddr) .unread store acc

end Loops

end SyrFilter.Ef
