import SyrFilter.Ef.Alloc
import SyrFilter.Ef.Lookup
import SyrFilter.Ef.Writes

namespace SyrFilter.Ef

open SyrFilter.Lib

/-! # Single changes of the store

An entry is deleted in one or two steps, another is put behind those of a sector
that suits it, and a sector is formatted.
-/

/-- A sector of which an entry has been deleted. -/
def Sector.soiled (sector : Sector) (nodes : List Node) : Sector where
  store := sector.store
  dirty := if sector.dirtyStatus = .dirtyFalse then moved SectorDirtyStatus.dirtyTrue.index sector.dirty else sector.dirty
  nodes := nodes

/-- The entry does not leave enough room for another one. -/
def Sector.Fills (sector : Sector) (envSize : Nat) : Prop := sector.storeStatus = .storeUsing ∧ 4024 < sector.used + envSize

instance (sector : Sector) (envSize : Nat) : Decidable (sector.Fills envSize) :=
  inferInstanceAs (Decidable (_ ∧ _))

/-- The status of a sector before an entry is put there. -/
def Sector.opened (sector : Sector) (envSize : Nat) : Sector where
  store :=
    if sector.storeStatus = .storeEmpty then moved SectorStoreStatus.storeUsing.index sector.store
    else if sector.Fills envSize then moved SectorStoreStatus.storeFull.index sector.store
    else sector.store
  dirty := sector.dirty
  nodes := sector.nodes

/-- A sector with another entry. -/
def Sector.put (sector : Sector) (key value : List UInt8) : Sector :=
  { sector.opened (envLen key value) with nodes := sector.nodes ++ [⟨writtenTable, key, value⟩] }

section Statuses

variable {sector : Sector} {key value : List UInt8} {nodes : List Node} {envSize index : Nat}

theorem getStatus_store (sector : Sector) : getStatus [sector.store] sectorStatusNum = sector.storeStatus.index := by
  have bound : getStatus [sector.store] sectorStatusNum ≤ 3 := lastCleared_le
  rw [Sector.storeStatus]
  generalize getStatus [sector.store] sectorStatusNum = index at bound ⊢
  interval_cases index <;> rfl

theorem getStatus_dirty (sector : Sector) : getStatus [sector.dirty] sectorStatusNum = sector.dirtyStatus.index := by
  have bound : getStatus [sector.dirty] sectorStatusNum ≤ 3 := lastCleared_le
  rw [Sector.dirtyStatus]
  generalize getStatus [sector.dirty] sectorStatusNum = index at bound ⊢
  interval_cases index <;> rfl

theorem storeStatus_moved (positive : 0 < index) (below : index < sectorStatusNum) {dirty : UInt8} :
    (Sector.mk (moved index sector.store) dirty nodes).storeStatus = .ofIndex (max sector.storeStatus.index index) := by
  rw [Sector.storeStatus, getStatus_moved positive below (by decide), getStatus_store]

theorem dirtyStatus_moved (positive : 0 < index) (below : index < sectorStatusNum) {store : UInt8} :
    (Sector.mk store (moved index sector.dirty) nodes).dirtyStatus = .ofIndex (max sector.dirtyStatus.index index) := by
  rw [Sector.dirtyStatus, getStatus_moved positive below (by decide), getStatus_dirty]

@[simp] theorem soiled_storeStatus : (sector.soiled nodes).storeStatus = sector.storeStatus := rfl

@[simp] theorem soiled_nodes : (sector.soiled nodes).nodes = nodes := rfl

theorem soiled_dirtyStatus :
    (sector.soiled nodes).dirtyStatus =
      if sector.dirtyStatus = .dirtyFalse then .dirtyTrue else sector.dirtyStatus := by
  rw [Sector.soiled]
  split
  · rename_i clean
    rw [dirtyStatus_moved (by decide) (by decide), clean]
    rfl
  · rfl

@[simp] theorem opened_dirtyStatus : (sector.opened envSize).dirtyStatus = sector.dirtyStatus := rfl

@[simp] theorem opened_nodes : (sector.opened envSize).nodes = sector.nodes := rfl

theorem opened_storeStatus (takes : sector.storeStatus = .storeEmpty ∨ sector.storeStatus = .storeUsing) :
    (sector.opened envSize).storeStatus = if sector.Fills envSize then .storeFull else .storeUsing := by
  rw [Sector.opened]
  rcases takes with empty | using_
  · rw [if_pos empty, storeStatus_moved (by decide) (by decide), empty, if_neg (by simp [Sector.Fills, empty])]
    rfl
  · rw [if_neg (by simp [using_])]
    split
    · rw [storeStatus_moved (by decide) (by decide), using_]
      rfl
    · exact using_

@[simp] theorem put_dirtyStatus : (sector.put key value).dirtyStatus = sector.dirtyStatus := rfl

@[simp] theorem put_nodes : (sector.put key value).nodes = sector.nodes ++ [⟨writtenTable, key, value⟩] := rfl

theorem put_used : (sector.put key value).used = sector.used + envLen key value := by
  rw [Sector.used, put_nodes, size_append, size_cons, size_nil]
  rfl

theorem put_storeStatus (takes : sector.storeStatus = .storeEmpty ∨ sector.storeStatus = .storeUsing) :
    (sector.put key value).storeStatus = if sector.Fills (envLen key value) then .storeFull else .storeUsing :=
  opened_storeStatus takes

end Statuses

section Changes

variable {store store' : Store} {area : Area} {i j : Nat} {sector : Sector} {before after : List Node} {node : Node}
  {key value : List UInt8}

theorem emptyAt_update {addr emptyAddr : Nat} (apart : addr ≠ base i) (empty : EmptyAt area addr emptyAddr) :
    EmptyAt (Function.update area i sector) addr emptyAddr := by
  obtain ⟨m, index, rfl, rfl⟩ := empty
  have different : m ≠ i := fun same => apart (congrArg base same)
  exact ⟨m, index, rfl, by rw [Function.update_of_ne different]⟩

/-- One sector changes, but not where its entries end. -/
theorem Represents.change (represents : Represents store area)
    (at_ : SectorAt store'.flash (base i) sector)
    (outside : ∀ cell, cell < base i ∨ base i + 4096 ≤ cell → store'.flash cell = store.flash cell)
    (cache : store'.sectorCache = store.sectorCache) (used : sector.used = (area i).used)
    (known : sector.storeStatus ≠ .storeUnused) (filled : sector.storeStatus = .storeEmpty ↔ sector.nodes = []) :
    Represents store' (Function.update area i sector) := by
  refine ⟨represents.held.update at_ outside, ?_, ?_, ?_⟩
  · rw [cache]
    apply represents.cached.mono
    rintro addr empty ⟨m, index, rfl, rfl⟩
    refine ⟨m, index, rfl, ?_⟩
    by_cases here : m = i
    · rw [here, Function.update_self, used]
    · rw [Function.update_of_ne here]
  · intro m index
    by_cases here : m = i
    · rwa [here, Function.update_self]
    · rw [Function.update_of_ne here]
      exact represents.known m index
  · intro m index
    by_cases here : m = i
    · rwa [here, Function.update_self]
    · rw [Function.update_of_ne here]
      exact represents.filled m index

/-! ## Deleting -/

/-- The status that `del_env` gives an entry. -/
def deleting (completeDel : Bool) : EnvStatus := if completeDel then .deleted else .preDelete

/-- What `del_env` leaves. -/
structure Deleted (store after : Store) (area' : Area) (key : List UInt8) (completeDel : Bool) : Prop where
  represents : Represents after area'
  gcRequest : after.gcRequest = store.gcRequest
  inRecoveryCheck : after.inRecoveryCheck = store.inRecoveryCheck
  lastIsCompleteDel : after.lastIsCompleteDel = !completeDel
  envCache : after.envCache =
    if completeDel = true ∧ store.lastIsCompleteDel = false then updateEnvCache store.envCache key none else store.envCache

theorem sector_of_start (represents : Represents store area) (index : i < 4) (nodes : (area i).nodes = before ++ node :: after) :
    (base i + 16 + size before) / sectorSize * sectorSize = base i := by
  obtain ⟨-, -, used⟩ := (represents.held i index).entry nodes
  have room := (represents.held i index).room
  have some := node.len_pos
  rw [base, sectorSize]
  omega

theorem delEnv_eq (represents : Represents store area) (index : i < 4) (nodes : (area i).nodes = before ++ node :: after)
    (key : Option (List UInt8)) (completeDel : Bool) :
    Deleted store (delEnv store key (node.object (base i + 16 + size before)) completeDel)
      (Function.update area i ((area i).soiled (before ++ node.moved (deleting completeDel).index :: after)))
      (key.getD node.key) completeDel := by
  have at_ := represents.held i index
  obtain ⟨-, -, used⟩ := at_.entry nodes
  have room := at_.room
  have some := node.len_pos
  have start : (node.object (base i + 16 + size before)).start = base i + 16 + size before := rfl
  have marked := at_.marked nodes (show 0 < (deleting completeDel).index by cases completeDel <;> decide)
    (by cases completeDel <;> decide)
  have elsewhere : ∀ cell, cell < base i ∨ base i + 4096 ≤ cell →
      writeStatus store.flash (base i + 16 + size before) envStatusNum (deleting completeDel).index cell = store.flash cell :=
    fun cell outside => writeStatus_outside (by cases completeDel <;> decide) (by cases completeDel <;> decide)
      (by decide) (by omega)
  have dirty := marked.readDirty.trans (getStatus_dirty (area i))
  -- The first half only changes the status of the entry, whichever it is.
  obtain ⟨middle, flash, cache, gcRequest, inRecoveryCheck, lastIsCompleteDel, envCache, unfolded⟩ :
      ∃ middle : Store,
        middle.flash = writeStatus store.flash (base i + 16 + size before) envStatusNum (deleting completeDel).index ∧
        middle.sectorCache = store.sectorCache ∧ middle.gcRequest = store.gcRequest ∧
        middle.inRecoveryCheck = store.inRecoveryCheck ∧ middle.lastIsCompleteDel = !completeDel ∧
        (middle.envCache =
          if completeDel = true ∧ store.lastIsCompleteDel = false then updateEnvCache store.envCache (key.getD node.key) none
          else store.envCache) ∧
        delEnv store key (node.object (base i + 16 + size before)) completeDel =
          if readStatus middle.flash (base i + sectorDirtyOffset) sectorStatusNum = SectorDirtyStatus.dirtyFalse.index then
            { middle with
              flash := writeStatus middle.flash (base i + sectorDirtyOffset) sectorStatusNum SectorDirtyStatus.dirtyTrue.index }
          else middle := by
    cases completeDel with
    | false =>
        refine ⟨⟨_, store.gcRequest, true, store.inRecoveryCheck, store.sectorCache, store.envCache⟩, rfl, rfl, rfl, rfl, rfl,
          rfl, ?_⟩
        rw [delEnv, start, sector_of_start represents index nodes]
        rfl
    | true =>
        refine ⟨⟨_, store.gcRequest, false, store.inRecoveryCheck, store.sectorCache, _⟩, rfl, rfl, rfl, rfl, rfl, rfl, ?_⟩
        rw [delEnv, start, sector_of_start represents index nodes]
        cases store.lastIsCompleteDel <;> rfl
  rw [← flash] at dirty
  have clean : (area i).dirtyStatus.index = SectorDirtyStatus.dirtyFalse.index ↔ (area i).dirtyStatus = .dirtyFalse := by
    cases (area i).dirtyStatus <;> decide
  have nonempty : (area i).storeStatus ≠ .storeEmpty := by
    rw [Ne, represents.filled i index, nodes]
    simp
  rw [← flash] at marked elsewhere
  rw [unfolded, dirty]
  by_cases was : (area i).dirtyStatus = .dirtyFalse
  · rw [if_pos (clean.mpr was)]
    have soiled := marked.dirtyWritten (show 0 < SectorDirtyStatus.dirtyTrue.index by decide) (by decide)
    refine ⟨represents.change ?_ ?_ cache ?_ (represents.known i index) ?_, gcRequest, inRecoveryCheck, lastIsCompleteDel,
      envCache⟩
    · rw [Sector.soiled, if_pos was]
      exact soiled
    · intro cell outside
      dsimp only
      rw [writeStatus_outside (by decide) (by decide) (by decide) (by rw [sectorDirtyOffset]; omega), elsewhere cell outside]
    · rw [Sector.used, Sector.used, soiled_nodes, nodes]
      simp
    · simp [nonempty]
  · rw [if_neg fun same => was (clean.mp same)]
    refine ⟨represents.change ?_ elsewhere cache ?_ (represents.known i index) ?_, gcRequest, inRecoveryCheck,
      lastIsCompleteDel, envCache⟩
    · rw [Sector.soiled, if_neg was]
      exact marked
    · rw [Sector.used, Sector.used, soiled_nodes, nodes]
      simp
    · simp [nonempty]

/-! ## Putting -/

/-- What `update_sec_status` leaves of a sector that an entry goes to. -/
structure Opened (store : Store) (area : Area) (j envSize : Nat) (store' : Store) (full : Bool) : Prop where
  updated : updateSecStatus store ((area j).object j) envSize false = (store', full)
  at_ : SectorAt store'.flash (base j) ((area j).opened envSize)
  outside : ∀ cell, cell < base j ∨ base j + 4096 ≤ cell → store'.flash cell = store.flash cell
  fills : full = true ↔ (area j).Fills envSize
  cached : SectorCached store'.sectorCache fun addr emptyAddr => EmptyAt area addr emptyAddr ∧ (full = true → addr ≠ base j)
  gcRequest : store'.gcRequest = store.gcRequest
  lastIsCompleteDel : store'.lastIsCompleteDel = store.lastIsCompleteDel
  inRecoveryCheck : store'.inRecoveryCheck = store.inRecoveryCheck
  envCache : store'.envCache = store.envCache

theorem updateSecStatus_eq (represents : Represents store area) (index : j < 4)
    (takes : (area j).storeStatus = .storeEmpty ∨ (area j).storeStatus = .storeUsing) {envSize : Nat}
    (room : envSize < 4080 - (area j).used) : ∃ store' full, Opened store area j envSize store' full := by
  have at_ := represents.held j index
  have elsewhere (status : SectorStoreStatus) (positive : 0 < status.index) :
      ∀ cell, cell < base j ∨ base j + 4096 ≤ cell →
        writeStatus store.flash (base j) sectorStatusNum status.index cell = store.flash cell :=
    fun cell outside => writeStatus_outside positive (by cases status <;> decide) (by decide) (by omega)
  have still : SectorCached store.sectorCache fun addr emptyAddr =>
      EmptyAt area addr emptyAddr ∧ (false = true → addr ≠ base j) :=
    represents.cached.mono fun addr empty right => ⟨right, fun full => absurd full Bool.false_ne_true⟩
  rcases takes with empty | using_
  · refine ⟨{ store with flash := writeStatus store.flash (base j) sectorStatusNum SectorStoreStatus.storeUsing.index },
      false, ?_, ?_, elsewhere .storeUsing (by decide), by simp [Sector.Fills, empty], still, rfl, rfl, rfl, rfl⟩
    · simp only [updateSecStatus, Sector.object, empty]
    · rw [Sector.opened, if_pos empty]
      exact at_.storeWritten (show 0 < SectorStoreStatus.storeUsing.index by decide) (by decide)
  · have remain : (area j).Fills envSize ↔
        4080 - (area j).used < secRemainThreshold ∨ sub32 (4080 - (area j).used) envSize < secRemainThreshold := by
      have difference : sub32 (4080 - (area j).used) envSize = 4080 - (area j).used - envSize := by
        rw [sub32]
        omega
      rw [difference, Sector.Fills, secRemainThreshold, envHdrDataSize, envNameMax]
      constructor
      · rintro ⟨-, over_⟩
        omega
      · intro less
        exact ⟨using_, by omega⟩
    by_cases fills : (area j).Fills envSize
    · refine ⟨{ store with
          flash := writeStatus store.flash (base j) sectorStatusNum SectorStoreStatus.storeFull.index
          sectorCache := updateSectorCache store.sectorCache (base j) (base j + sectorSize) },
        true, ?_, ?_, elsewhere .storeFull (by decide), by simp [fills], ?_, rfl, rfl, rfl, rfl⟩
      · simp only [updateSecStatus, Sector.object, using_]
        rw [if_pos (remain.mp fills)]
      · rw [Sector.opened, if_neg (by simp [using_]), if_pos fills]
        exact at_.storeWritten (show 0 < SectorStoreStatus.storeFull.index by decide) (by decide)
      · apply represents.cached.update
        · exact fun _ below => absurd below (Nat.lt_irrefl _)
        · exact fun addr empty apart right => ⟨right, fun _ => apart⟩
    · refine ⟨store, false, ?_, ?_, fun _ _ => rfl, by simp [fills], still, rfl, rfl, rfl, rfl⟩
      · simp only [updateSecStatus, Sector.object, using_]
        rw [if_neg fun less => fills (remain.mpr less)]
      · rw [Sector.opened, if_neg (by simp [using_]), if_neg fills]
        exact at_

/-- The entry is written and the sector cache told, unless the sector is full. -/
theorem Opened.put {opened_ : Store} {full : Bool}
    (opened : Opened store area j (envLen key value) opened_ full) (represents : Represents store area) (index : j < 4)
    (takes : (area j).storeStatus = .storeEmpty ∨ (area j).storeStatus = .storeUsing)
    (room : envLen key value < 4080 - (area j).used) (short : key.length ≤ envNameMax)
    (written_ : store'.flash = written opened_.flash (free area j) ((envHdr key value).bytes ++ key ++ value))
    (told : store'.sectorCache = updateSectorCache opened_.sectorCache (base j) (free area j + envLen key value) ∨
      full = true ∧ store'.sectorCache = opened_.sectorCache) :
    Represents store' (Function.update area j ((area j).put key value)) := by
  have fits : (⟨writtenTable, key, value⟩ : Node).Fits := by
    refine ⟨short, ?_⟩
    show envLen key value ≤ sectorSize - sectorHdrDataSize
    rw [sectorSize, sectorHdrDataSize]
    omega
  have used : ((area j).opened (envLen key value)).used = (area j).used := rfl
  have appended := opened.at_.appended key value fits (by rw [used]; omega)
  have free_ : base j + 16 + ((area j).opened (envLen key value)).used = free area j := rfl
  rw [free_] at appended
  refine ⟨represents.held.update (by rwa [written_]) ?_, ?_, ?_, ?_⟩
  · intro cell outside
    have length : ((envHdr key value).bytes ++ key ++ value).length + 4 = envLen key value := by
      rw [List.length_append, List.length_append, Node.length_hdr_bytes, envLen, envHdrDataSize]
      omega
    have blank : opened_.flash.Blank (free area j) (free area j + 4 + ((envHdr key value).bytes ++ key ++ value).length) := by
      apply opened.at_.blank.mono (by rw [free_])
      rw [free]
      omega
    rw [written_, (written_holds blank).2 cell (by rw [free]; omega), opened.outside cell outside]
  · have later : ∀ addr empty, addr ≠ base j → EmptyAt area addr empty →
        EmptyAt (Function.update area j ((area j).put key value)) addr empty :=
      fun addr empty apart right => emptyAt_update apart right
    rcases told with told | ⟨isFull, told⟩
    · rw [told]
      apply opened.cached.update
      · intro _ _
        refine ⟨j, index, rfl, ?_⟩
        rw [Function.update_self, put_used, free, Nat.add_assoc]
      · exact fun addr empty apart right => later addr empty apart right.1
    · rw [told]
      exact opened.cached.mono fun addr empty right => later addr empty (right.2 isFull) right.1
  · intro m below
    by_cases here : m = j
    · rw [here, Function.update_self, put_storeStatus takes]
      split <;> decide
    · rw [Function.update_of_ne here]
      exact represents.known m below
  · intro m below
    by_cases here : m = j
    · rw [here, Function.update_self, put_storeStatus takes, put_nodes]
      split <;> simp
    · rw [Function.update_of_ne here]
      exact represents.filled m below

/-! ## Formatting -/

theorem formatSector_base (store : Store) (j : Nat) (combined : UInt32) :
    formatSector store (base j) combined =
      some { store with
        flash := (store.flash.erase (base j) sectorSize).program (base j) (sectorHdrBytes combined)
        sectorCache := updateSectorCache store.sectorCache (base j) (base j + sectorSize) } := by
  have start : base j % sectorSize = 0 := by
    rw [base]
    exact Nat.mul_mod_left j sectorSize
  rw [formatSector, if_neg (by simp [start])]

theorem formatted_outside {flash : Nor} {cell : Nat} (outside : cell < base j ∨ base j + 4096 ≤ cell) :
    (flash.erase (base j) sectorSize).program (base j) (sectorHdrBytes sectorNotCombined) cell = flash cell := by
  have length : (sectorHdrBytes sectorNotCombined).length = 16 := by decide
  rw [Nor.program_outside (by omega), Nor.erase_outside (by rw [sectorSize]; omega)]

theorem formatSector_eq (represents : Represents store area) (j : Nat) :
    ∃ store', formatSector store (base j) sectorNotCombined = some store' ∧
      Represents store' (Function.update area j .fresh) ∧ store'.gcRequest = store.gcRequest ∧
      store'.lastIsCompleteDel = store.lastIsCompleteDel ∧ store'.inRecoveryCheck = store.inRecoveryCheck ∧
      store'.envCache = store.envCache := by
  have fresh : Sector.fresh.storeStatus = .storeEmpty := by decide
  refine ⟨_, formatSector_base store j sectorNotCombined, ⟨?_, ?_, ?_, ?_⟩, rfl, rfl, rfl, rfl⟩
  · exact represents.held.update formatted_holds fun cell outside => formatted_outside outside
  · apply represents.cached.update
    · exact fun _ below => absurd below (Nat.lt_irrefl _)
    · exact fun addr empty apart right => emptyAt_update apart right
  · intro m below
    by_cases here : m = j
    · rw [here, Function.update_self, fresh]
      decide
    · rw [Function.update_of_ne here]
      exact represents.known m below
  · intro m below
    by_cases here : m = j
    · rw [here, Function.update_self, fresh]
      exact ⟨fun _ => rfl, fun _ => rfl⟩
    · rw [Function.update_of_ne here]
      exact represents.filled m below

end Changes

end SyrFilter.Ef
