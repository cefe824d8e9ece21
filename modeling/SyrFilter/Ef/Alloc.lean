import SyrFilter.Ef.Engine
import SyrFilter.Ef.Loops

namespace SyrFilter.Ef

open SyrFilter.Lib

/-! # Room for an entry

Which sector `alloc_env` takes.
-/

/-- The sector has room and may be used. -/
def Sector.Suits (sector : Sector) (gcRequest : Bool) (envSize : Nat) : Prop :=
  envSize < 4080 - sector.used ∧
    (sector.dirtyStatus = .dirtyFalse ∨ sector.dirtyStatus = .dirtyTrue ∧ gcRequest = false)

/-- How many of the sectors have a status. -/
def countStatus (area : Area) (status : SectorStoreStatus) (upTo : Nat) : Nat :=
  (List.range upTo).countP fun i => (area i).storeStatus = status

/-- Nothing has changed but the sector cache, and what is requested. -/
structure Searched (store store' : Store) (area : Area) (gcRequest : Bool) : Prop where
  represents : Represents store' area
  flash : store'.flash = store.flash
  gcRequest : store'.gcRequest = gcRequest
  lastIsCompleteDel : store'.lastIsCompleteDel = store.lastIsCompleteDel
  inRecoveryCheck : store'.inRecoveryCheck = store.inRecoveryCheck
  envCache : store'.envCache = store.envCache

/-- The place for the next entry of a sector. -/
def free (area : Area) (index : Nat) : Nat := base index + 16 + (area index).used

section

variable {store store' : Store} {area : Area} {sector : SectorMeta} {status : SectorStoreStatus} {envSize upTo : Nat}

theorem Represents.cachedAgain (represents : Represents store area) {gcRequest : Bool} {cache : List SectorCacheNode}
    (cached : SectorCached cache (EmptyAt area)) :
    Represents { store with sectorCache := cache, gcRequest := gcRequest } area :=
  ⟨represents.held, cached, represents.known, represents.filled⟩

theorem countStatus_pos : 0 < countStatus area status upTo ↔ ∃ i < upTo, (area i).storeStatus = status := by
  rw [countStatus, List.countP_pos_iff]
  simp

theorem countStatus_succ :
    countStatus area status (upTo + 1) = countStatus area status upTo + if (area upTo).storeStatus = status then 1 else 0 := by
  simp [countStatus, List.range_succ, List.countP_append, List.countP_cons]

/-- Of two sectors with a status one is another than a given one. -/
theorem other_of_countStatus (many : 1 < countStatus area status upTo) (index : Nat) :
    ∃ i < upTo, i ≠ index ∧ (area i).storeStatus = status := by
  by_contra none
  have only : ∀ i < upTo, (area i).storeStatus = status → i = index := by
    intro i below same
    by_contra different
    exact none ⟨i, below, different, same⟩
  have atMost : countStatus area status upTo ≤ (List.range upTo).countP fun i => i = index :=
    List.countP_mono_left fun i member same => by simpa using only i (List.mem_range.mp member) (by simpa using same)
  have single : (List.range upTo).countP (fun i => i = index) ≤ 1 := by
    have counted := List.nodup_iff_count_le_one.mp (@List.nodup_range upTo) index
    rw [List.count] at counted
    simpa [BEq.beq] using counted
  omega

/-- The statistics of `alloc_env`. -/
theorem sectorStatistics (represents : Represents store area) :
    ∃ sector', sectorIterator sector .storeUnused sectorStatisticsCb false store (0, 0) =
      some (sector', store, countStatus area .storeEmpty 4, countStatus area .storeUsing 4) := by
  let counted (n : Nat) (area' : Area) (store' : Store) (acc : Nat × Nat) : Prop :=
    area' = area ∧ store' = store ∧ acc = (countStatus area .storeEmpty n, countStatus area .storeUsing n)
  have rule := @sectorIterator_rule store area sector _ .storeUnused sectorStatisticsCb counted
    (fun _ _ some _ => absurd rfl some)
    (by
      rintro n area' store' acc sector - represents ⟨rfl, rfl, rfl⟩ -
      simp only [counted, countStatus_succ]
      have ok : (sector.header n (area' n)).checkOk = true := rfl
      have same : (sector.header n (area' n)).store = (area' n).storeStatus := rfl
      simp only [sectorStatisticsCb, ok, same, true_and]
      cases (area' n).storeStatus <;> exact ⟨_, _, _, rfl, represents, rfl, rfl, rfl⟩)
    (0, 0) represents ⟨rfl, rfl, rfl⟩
  obtain ⟨sector', store', acc', area', iterated, -, -, rfl, rfl⟩ := rule
  exact ⟨sector', iterated⟩

theorem allocEnvCb_eq {held : Sector} {index : Nat} (acc : Option Nat) :
    (held.Suits store.gcRequest envSize →
      allocEnvCb envSize (held.object index) store acc = some (true, store, some (base index + 16 + held.used))) ∧
      (¬held.Suits store.gcRequest envSize → allocEnvCb envSize (held.object index) store acc = some (false, store, acc)) := by
  have suits : ((held.object index).checkOk = true ∧ envSize < (held.object index).remain ∧
      ((held.object index).dirty = .dirtyFalse ∨ (held.object index).dirty = .dirtyTrue ∧ store.gcRequest = false)) ↔
        held.Suits store.gcRequest envSize :=
    ⟨fun both => both.2, fun both => ⟨rfl, both⟩⟩
  rw [allocEnvCb]
  exact ⟨fun here => if_pos (suits.mpr here), fun here => if_neg fun both => here (suits.mp both)⟩

/-- The iterators of `alloc_env` take the first sector of a status that suits. -/
theorem allocIterator (represents : Represents store area) (takes : status = .storeEmpty ∨ status = .storeUsing) :
    ∃ sector' cache found, SectorCached cache (EmptyAt area) ∧
      sectorIterator sector status (allocEnvCb envSize) true store none =
        some (sector', { store with sectorCache := cache }, found) ∧
      ((∃ j < 4, (area j).storeStatus = status ∧ (area j).Suits store.gcRequest envSize ∧
          sector' = (area j).object j ∧ found = some (free area j)) ∨
        (∀ j < 4, (area j).storeStatus = status → ¬(area j).Suits store.gcRequest envSize) ∧ found = none) := by
  have loop (count : Nat) : ∀ (n : Nat) (sector : SectorMeta) (cache : List SectorCacheNode), n + count = 4 →
      SectorCached cache (EmptyAt area) →
      (∀ j < n, (area j).storeStatus = status → ¬(area j).Suits store.gcRequest envSize) →
      ∃ sector' cache' found, SectorCached cache' (EmptyAt area) ∧
        sectorLoop status (allocEnvCb envSize) true count (if n < 4 then some (base n) else none) sector
            { store with sectorCache := cache } none =
          some (sector', { store with sectorCache := cache' }, found) ∧
        ((∃ j < 4, (area j).storeStatus = status ∧ (area j).Suits store.gcRequest envSize ∧
            sector' = (area j).object j ∧ found = some (free area j)) ∨
          (∀ j < 4, (area j).storeStatus = status → ¬(area j).Suits store.gcRequest envSize) ∧ found = none) := by
    induction count with
    | zero =>
        rintro n sector cache rfl cached none
        exact ⟨sector, cache, .none, cached, by rw [if_neg (by omega), sectorLoop], .inr ⟨none, rfl⟩⟩
    | succ count ih =>
        intro n sector cache total cached none
        have index : n < 4 := by omega
        have represents' : Represents { store with sectorCache := cache } area := represents.cachedAgain cached
        rw [if_pos index, sectorLoop, readSectorMetaData_header represents' index]
        dsimp only [Option.bind_eq_bind, Option.bind_some]
        have used : status ≠ .storeUnused := by rcases takes with rfl | rfl <;> decide
        by_cases here : (area n).storeStatus = status
        · rw [if_pos (.inr here.symm), if_pos rfl]
          obtain ⟨cache', cached', read⟩ :=
            @readSectorMetaData_object _ _ _ (sector.header n (area n)) represents' index (here.symm ▸ takes)
          rw [read]
          dsimp only [Option.bind_some]
          have next : getNextSectorAddr ((area n).object n) = if n + 1 < 4 then .some (base (n + 1)) else .none :=
            getNextSectorAddr_eq rfl rfl
          obtain ⟨stops, continues⟩ :=
            @allocEnvCb_eq { store with sectorCache := cache' } envSize (area n) n .none
          by_cases suits : (area n).Suits store.gcRequest envSize
          · rw [stops suits]
            dsimp only [Option.bind_some]
            exact ⟨_, cache', _, cached', if_pos rfl, .inl ⟨n, index, here, suits, rfl, rfl⟩⟩
          · rw [continues suits]
            dsimp only [Option.bind_some]
            rw [if_neg Bool.false_ne_true, next]
            refine ih (n + 1) _ cache' (by omega) cached' fun j below same => ?_
            by_cases last : j = n
            · rwa [last]
            · exact none j (by omega) same
        · have next : getNextSectorAddr (sector.header n (area n)) = if n + 1 < 4 then .some (base (n + 1)) else .none :=
            getNextSectorAddr_eq rfl rfl
          rw [if_neg (not_or.mpr ⟨used, fun same => here same.symm⟩), next]
          refine ih (n + 1) _ cache (by omega) cached fun j below same => ?_
          by_cases last : j = n
          · exact absurd (last ▸ same) here
          · exact none j (by omega) same
  exact loop 4 0 sector store.sectorCache rfl represents.cached fun j below => absurd below (Nat.not_lt_zero j)

/-- The second half of `alloc_env`: the empty sectors. -/
def allocEmpty (store : Store) (sector : SectorMeta) (envSize emptySector : Nat) (emptyEnv : Option Nat) :
    Option (Option Nat × SectorMeta × Store) :=
  if 0 < emptySector ∧ emptyEnv = none then
    if gcEmptySecThreshold < emptySector ∨ store.gcRequest then
      (sectorIterator sector .storeEmpty (allocEnvCb envSize) true store emptyEnv).bind fun found =>
        some (found.2.2, found.1, found.2.1)
    else some (none, sector, { store with gcRequest := true })
  else some (emptyEnv, sector, store)

/-- The first half: the sectors in use. -/
theorem allocUsing (represents : Represents store area) :
    ∃ sector' cache found, SectorCached cache (EmptyAt area) ∧
      allocEnv store sector envSize =
        allocEmpty { store with sectorCache := cache } sector' envSize (countStatus area .storeEmpty 4) found ∧
      ((∃ j < 4, (area j).storeStatus = .storeUsing ∧ (area j).Suits store.gcRequest envSize ∧
          sector' = (area j).object j ∧ found = some (free area j)) ∨
        (∀ j < 4, (area j).storeStatus = .storeUsing → ¬(area j).Suits store.gcRequest envSize) ∧ found = none) := by
  obtain ⟨counted, statistics⟩ := @sectorStatistics store area sector represents
  by_cases using_ : 0 < countStatus area .storeUsing 4
  · obtain ⟨sector', cache, found, cached, tried, outcome⟩ :=
      @allocIterator store area counted .storeUsing envSize represents (.inr rfl)
    refine ⟨sector', cache, found, cached, ?_, outcome⟩
    rw [allocEnv, statistics]
    dsimp only [Option.bind_eq_bind, Option.bind_some]
    rw [if_pos using_, tried]
    rfl
  · refine ⟨counted, store.sectorCache, none, represents.cached, ?_, .inr ⟨fun j below same => ?_, rfl⟩⟩
    · rw [allocEnv, statistics]
      dsimp only [Option.bind_eq_bind, Option.bind_some]
      rw [if_neg using_]
      rfl
    · exact absurd (countStatus_pos.mpr ⟨j, below, same⟩) using_

/-- Where there is room `alloc_env` finds it, in an empty sector only if none in
use has room. -/
theorem allocEnv_some (represents : Represents store area)
    (room : (∃ j < 4, (area j).storeStatus = .storeUsing ∧ (area j).Suits store.gcRequest envSize) ∨
      (∃ j < 4, (area j).storeStatus = .storeEmpty ∧ (area j).Suits store.gcRequest envSize) ∧
        (gcEmptySecThreshold < countStatus area .storeEmpty 4 ∨ store.gcRequest = true)) :
    ∃ j < 4, ∃ store', (area j).Suits store.gcRequest envSize ∧
      ((area j).storeStatus = .storeUsing ∨ (area j).storeStatus = .storeEmpty ∧
        (gcEmptySecThreshold < countStatus area .storeEmpty 4 ∨ store.gcRequest = true)) ∧
      allocEnv store sector envSize = some (some (free area j), (area j).object j, store') ∧
      Searched store store' area store.gcRequest := by
  obtain ⟨sector', cache, found, cached, tried, ⟨j, index, using_, suits, rfl, rfl⟩ | ⟨none, rfl⟩⟩ :=
    @allocUsing store area sector envSize represents
  · refine ⟨j, index, _, suits, .inl using_, ?_, represents.cachedAgain cached, rfl, rfl, rfl, rfl, rfl⟩
    rw [tried, allocEmpty, if_neg (by simp)]
  · obtain ⟨⟨j, index, empty, suits⟩, allowed⟩ :=
      room.resolve_left fun ⟨j, index, using_, suits⟩ => none j index using_ suits
    obtain ⟨sector', cache', found, cached', tried', ⟨i, index', empty', suits', rfl, rfl⟩ | ⟨none', -⟩⟩ :=
      @allocIterator { store with sectorCache := cache } area sector' .storeEmpty envSize
        (represents.cachedAgain cached) (.inl rfl)
    · refine ⟨i, index', _, suits', .inr ⟨empty', allowed⟩, ?_, represents.cachedAgain cached', rfl, rfl, rfl, rfl, rfl⟩
      rw [tried, allocEmpty, if_pos ⟨countStatus_pos.mpr ⟨j, index, empty⟩, rfl⟩, if_pos allowed, tried']
      rfl
    · exact absurd suits (none' j index empty)

/-- Otherwise it requests that garbage be collected. -/
theorem allocEnv_none (represents : Represents store area)
    (none : ∀ j < 4, (area j).storeStatus = .storeUsing → ¬(area j).Suits store.gcRequest envSize)
    (last : countStatus area .storeEmpty 4 = 1) (unrequested : store.gcRequest = false) :
    ∃ sector' store', allocEnv store sector envSize = some (.none, sector', store') ∧ Searched store store' area true := by
  obtain ⟨sector', cache, found, cached, tried, ⟨j, index, using_, suits, -⟩ | ⟨-, rfl⟩⟩ :=
    @allocUsing store area sector envSize represents
  · exact absurd suits (none j index using_)
  · refine ⟨sector', { store with sectorCache := cache, gcRequest := true }, ?_, ?_⟩
    · rw [tried, allocEmpty, last, if_pos ⟨Nat.one_pos, rfl⟩, if_neg (by simp [gcEmptySecThreshold, unrequested])]
    · exact ⟨represents.cachedAgain cached, rfl, rfl, rfl, rfl, rfl⟩

end

end SyrFilter.Ef
