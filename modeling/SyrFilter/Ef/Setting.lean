import SyrFilter.Ef.Collect

namespace SyrFilter.Ef

open SyrFilter.Lib

/-! # Setting a value

`set_env` puts the new entry behind the old one before it deletes that, and
collects garbage where it is due.
-/

/-- The entries that a flash has place for: all of them and one more go into one
sector without filling it. -/
def capacity : Nat := 4024

section NewEntry

variable {store store' : Store} {area : Area} {sector : SectorMeta} {envSize j : Nat} {gcRequest : Bool}

theorem Tidy.searched (tidy : Tidy store area) (searched : Searched store store' area gcRequest) : Tidy store' area where
  represents := searched.represents
  indexed := searched.envCache ▸ tidy.indexed
  sectors := tidy.sectors
  spare := tidy.spare
  recovered := searched.inRecoveryCheck.trans tidy.recovered
  complete := searched.lastIsCompleteDel.trans tidy.complete

/-- A sector without deleted entries holds no more than is in order. -/
theorem used_le (tidy : Tidy store area) (index : j < 4) (clean : (area j).dirtyStatus = .dirtyFalse) :
    (area j).used ≤ footprint (contents area) := by
  have among := @footprint_live_le area j index
  rwa [footprint_live ((tidy.sectors j index).clean clean)] at among

/-- A place for a new entry, beside which a sector stays empty. -/
structure Place (store store' : Store) (area area' : Area) (j envSize : Nat) : Prop where
  index : j < 4
  tidy : Tidy store' area'
  request : store'.gcRequest = false
  same : contents area' = contents area
  takes : (area' j).storeStatus = .storeUsing ∨ (area' j).storeStatus = .storeEmpty
  suits : (area' j).Suits false envSize
  spare : ∃ i < 4, i ≠ j ∧ (area' i).storeStatus = .storeEmpty

/-- Without a request there is a place in a sector in use or in one of two empty ones. -/
theorem place_of_alloc (tidy : Tidy store area) (request : store.gcRequest = false)
    (room : (∃ j < 4, (area j).storeStatus = .storeUsing ∧ (area j).Suits false envSize) ∨
      envSize < 4080 ∧ gcEmptySecThreshold < countStatus area .storeEmpty 4) :
    ∃ store' j, allocEnv store sector envSize = some (some (free area j), (area j).object j, store') ∧
      Place store store' area area j envSize := by
  obtain ⟨j, index, store', suits, takes, allocated, searched⟩ :=
    @allocEnv_some store area sector envSize tidy.represents (by
      rw [request]
      refine room.imp id fun ⟨small, several⟩ => ⟨?_, .inl several⟩
      obtain ⟨i, below, empty⟩ := tidy.spare
      have none := (tidy.represents.filled i below).mp empty
      have used : (area i).used = 0 := by rw [Sector.used, none, size_nil]
      exact ⟨i, below, empty, by omega, .inl ((tidy.sectors i below).fresh none)⟩)
  rw [request] at suits takes searched
  refine ⟨store', j, allocated, index, tidy.searched searched, searched.gcRequest, rfl, takes.imp id And.left, suits, ?_⟩
  rcases takes with using_ | ⟨empty, several | requested⟩
  · obtain ⟨i, below, empty⟩ := tidy.spare
    refine ⟨i, below, ?_, empty⟩
    rintro rfl
    rw [using_] at empty
    cases empty
  · exact other_of_countStatus several j
  · cases requested

theorem newEnv_eq (tidy : Tidy store area) (request : store.gcRequest = false)
    (fits : footprint (contents area) + envSize ≤ capacity) :
    ∃ store' area' j, newEnv store sector envSize = some (some (free area' j), (area' j).object j, store') ∧
      Place store store' area area' j envSize := by
  rw [capacity] at fits
  by_cases room : (∃ j < 4, (area j).storeStatus = .storeUsing ∧ (area j).Suits false envSize) ∨
      envSize < 4080 ∧ gcEmptySecThreshold < countStatus area .storeEmpty 4
  · obtain ⟨store', j, allocated, place⟩ := @place_of_alloc _ _ sector _ tidy request room
    refine ⟨store', area, j, ?_, place⟩
    rw [newEnv, allocated]
    dsimp only [Option.bind_eq_bind, Option.bind_some]
    rw [if_neg (by simp)]
  · obtain ⟨unsuited, few⟩ := not_or.mp room
    have last : countStatus area .storeEmpty 4 = 1 := by
      have some := countStatus_pos.mpr tidy.spare
      rw [gcEmptySecThreshold] at few
      omega
    obtain ⟨sector', store1, requested, searched⟩ :=
      @allocEnv_none store area sector envSize tidy.represents
        (fun j below using_ suits => unsuited ⟨j, below, using_, request ▸ suits⟩) last request
    obtain ⟨store2, area2, collected, tidy2, request2, same2, clean2⟩ :=
      gcCollect_eq (tidy.searched searched) searched.gcRequest (by omega)
    have clean := clean2 (Nat.le_of_eq last)
    have held (j : Nat) (below : j < 4) : (area2 j).used + envSize ≤ 4024 := by
      have among := used_le tidy2 below (clean j below)
      rw [same2] at among
      omega
    obtain ⟨store3, j, allocated, place⟩ := @place_of_alloc store2 area2 sector' envSize tidy2 request2 (by
      by_cases using_ : ∃ j < 4, (area2 j).storeStatus = .storeUsing
      · obtain ⟨j, below, using_⟩ := using_
        have upTo := held j below
        exact .inl ⟨j, below, using_, by omega, .inl (clean j below)⟩
      · right
        -- None is in use, and none could be full.
        have empty (j : Nat) (below : j < 4) : (area2 j).storeStatus = .storeEmpty := by
          have known := tidy2.represents.known j below
          have full := (tidy2.sectors j below).full
          have upTo := held j below
          cases status : (area2 j).storeStatus with
          | storeUnused => exact absurd status known
          | storeEmpty => rfl
          | storeUsing => exact absurd ⟨j, below, status⟩ using_
          | storeFull =>
              have more := full status
              omega
        refine ⟨by omega, ?_⟩
        rw [gcEmptySecThreshold, countStatus, List.countP_eq_length.mpr]
        · decide
        · intro j member
          simpa using empty j (List.mem_range.mp member))
    refine ⟨store3, area2, j, ?_, { place with same := place.same.trans same2 }⟩
    rw [newEnv, requested]
    dsimp only [Option.bind_eq_bind, Option.bind_some]
    rw [if_pos ⟨rfl, searched.gcRequest⟩, collected]
    dsimp only [Option.bind_some]
    rw [allocated]

end NewEntry

section Blob

variable {store opened_ : Store} {area : Area} {sector : SectorMeta} {key value : List UInt8} {envAddr j : Nat} {full : Bool}

theorem createEnvBlob_of_opened (place : sector.emptyEnv = some envAddr) (short : key.length ≤ envNameMax)
    (small : envLen key value ≤ 4080) (updated : updateSecStatus store sector (envLen key value) false = (opened_, full)) :
    createEnvBlob store sector key value =
      some (.noErr,
        { opened_ with
          flash := written opened_.flash envAddr ((envHdr key value).bytes ++ key ++ value)
          sectorCache :=
            if full then opened_.sectorCache
            else updateSectorCache opened_.sectorCache sector.addr (envAddr + envLen key value)
          envCache := updateEnvCache opened_.envCache key (some envAddr)
          gcRequest := opened_.gcRequest || full }) := by
  have room : sectorSize - sectorHdrDataSize = 4080 := by decide
  rw [createEnvBlob, room, if_neg (by omega), if_neg (by omega), place]
  dsimp only [Option.bind_eq_bind, Option.bind_some]
  rw [updated]
  dsimp only
  rw [created_eq]

/-- Without a place `create_env_blob` looks for one itself. -/
theorem createEnvBlob_of_newEnv {store' : Store} {sector' : SectorMeta} (none : sector.emptyEnv = .none)
    (found : newEnv store sector (envLen key value) = some (some envAddr, sector', store'))
    (place : sector'.emptyEnv = some envAddr) (short : key.length ≤ envNameMax) (small : envLen key value ≤ 4080) :
    createEnvBlob store sector key value = createEnvBlob store' sector' key value := by
  have room : sectorSize - sectorHdrDataSize = 4080 := by decide
  rw [createEnvBlob, createEnvBlob, room, if_neg (by omega), if_neg (by omega), none, place]
  dsimp only [Option.bind_eq_bind, Option.bind_some]
  rw [if_neg (by omega), if_neg (by omega), found]
  rfl

/-- What `create_env_blob` leaves. -/
structure Created (store after : Store) (area : Area) (j : Nat) (key value : List UInt8) : Prop where
  represents : Represents after (Function.update area j ((area j).put key value))
  request : ¬(area j).Fills (envLen key value) → after.gcRequest = store.gcRequest
  inRecoveryCheck : after.inRecoveryCheck = store.inRecoveryCheck
  lastIsCompleteDel : after.lastIsCompleteDel = store.lastIsCompleteDel
  envCache : after.envCache = updateEnvCache store.envCache key (some (free area j))

/-- The object of the sector may be out of date in what is not looked at. -/
theorem createEnvBlob_eq (represents : Represents store area) (index : j < 4)
    (takes : (area j).storeStatus = .storeUsing ∨ (area j).storeStatus = .storeEmpty)
    (room : envLen key value < 4080 - (area j).used) (short : key.length ≤ envNameMax)
    (sector_ : { sector with dirty := (area j).dirtyStatus } = (area j).object j) :
    ∃ store', createEnvBlob store sector key value = some (.noErr, store') ∧ Created store store' area j key value := by
  obtain ⟨opened_, full, opened⟩ := updateSecStatus_eq represents index takes.symm room
  have fields := sector_
  simp only [Sector.object, SectorMeta.mk.injEq] at fields
  obtain ⟨-, store_, -, addr, -, -, remain, place⟩ := fields
  have updated : updateSecStatus store sector (envLen key value) false = (opened_, full) := by
    rw [← opened.updated, ← sector_]
    rfl
  have created := createEnvBlob_of_opened place short (by omega) updated
  refine ⟨_, created, ?_, ?_, opened.inRecoveryCheck, opened.lastIsCompleteDel, ?_⟩
  · refine opened.put represents index takes.symm room short rfl ?_
    dsimp only
    rw [addr]
    cases full with
    | true => exact .inr ⟨rfl, rfl⟩
    | false => exact .inl rfl
  · intro room
    have notFull : full = false := Bool.eq_false_iff.mpr fun full => room (opened.fills.mp full)
    dsimp only
    rw [notFull, opened.gcRequest, Bool.or_false]
  · dsimp only
    rw [opened.envCache]
    rfl

end Blob

section Old

variable {store after_ : Store} {area : Area} {sector : Sector} {i j : Nat} {before after nodes : List Node} {node changed : Node}
  {key value : List UInt8}

theorem soiled_soiled (nodes nodes' : List Node) : (sector.soiled nodes).soiled nodes' = sector.soiled nodes' := by
  have status := @soiled_dirtyStatus sector nodes
  rw [Sector.soiled, status]
  by_cases clean : sector.dirtyStatus = .dirtyFalse
  · rw [if_pos clean, if_neg (by decide), Sector.soiled, Sector.soiled, if_pos clean]
  · rw [if_neg clean, if_neg clean, Sector.soiled, Sector.soiled, if_neg clean]

theorem put_soiled (same : size nodes = sector.used) :
    (sector.soiled nodes).put key value = (sector.put key value).soiled (nodes ++ [⟨writtenTable, key, value⟩]) := by
  have used : (sector.soiled nodes).used = sector.used := same
  have fills : (sector.soiled nodes).Fills (envLen key value) ↔ sector.Fills (envLen key value) := by
    rw [Sector.Fills, Sector.Fills, used, soiled_storeStatus]
  rw [Sector.put, Sector.opened, soiled_storeStatus]
  simp only [fills]
  rfl

/-- The entries of a sector behind an old one, once there is a new one. -/
def behind (i j : Nat) (after : List Node) (key value : List UInt8) : List Node :=
  if i = j then after ++ [⟨writtenTable, key, value⟩] else after

/-- Whether an entry is changed before or after another is put, the area is the same. -/
theorem put_change (nodes : (area i).nodes = before ++ node :: after) (same : changed.len = node.len) :
    Function.update (Function.update area i ((area i).soiled (before ++ changed :: after))) j
        ((Function.update area i ((area i).soiled (before ++ changed :: after)) j).put key value) =
      Function.update (Function.update area j ((area j).put key value)) i
        ((Function.update area j ((area j).put key value) i).soiled (before ++ changed :: behind i j after key value)) := by
  by_cases here : i = j
  · subst here
    have used : size (before ++ changed :: after) = (area i).used := by
      rw [Sector.used, nodes]
      simp [same]
    rw [Function.update_self, Function.update_self, Function.update_idem, Function.update_idem, put_soiled used, behind,
      if_pos rfl]
    simp
  · rw [Function.update_of_ne (Ne.symm here), Function.update_of_ne here, behind, if_neg here,
      Function.update_comm (Ne.symm here)]

theorem put_nodes_behind (nodes : (area i).nodes = before ++ node :: after) :
    (Function.update area j ((area j).put key value) i).nodes = before ++ node :: behind i j after key value := by
  by_cases here : i = j
  · subst here
    rw [Function.update_self, put_nodes, nodes, behind, if_pos rfl]
    simp
  · rw [Function.update_of_ne here, nodes, behind, if_neg here]

theorem Sector.Tidy.deleted (tidy : sector.Tidy) (nodes : sector.nodes = before ++ node :: after)
    (deleted : changed.status = .deleted) (same : changed.len = node.len) :
    (sector.soiled (before ++ changed :: after)).Tidy := by
  have dirty : (sector.soiled (before ++ changed :: after)).dirtyStatus = .dirtyTrue := by
    rw [soiled_dirtyStatus]
    rcases tidy.dirty with clean | dirty
    · rw [if_pos clean]
    · rw [dirty, if_neg (by decide)]
  refine ⟨?_, .inr dirty, fun clean => ?_, ?_, by simp⟩
  · intro other member
    rcases List.mem_append.mp member with early | late
    · exact tidy.statuses other (by simp [nodes, early])
    · rcases List.mem_cons.mp late with rfl | later
      · exact .inr deleted
      · exact tidy.statuses other (by simp [nodes, later])
  · rw [dirty] at clean
    cases clean
  · intro full
    have more := tidy.full full
    rw [Sector.used, nodes] at more
    rw [Sector.used, soiled_nodes]
    simpa [same] using more

end Old

section Set

variable {keys : Finset (List UInt8)} {store : Store} {area : Area} {map : List UInt8 → Option (List UInt8)}
  {key value old : List UInt8} {sector : SectorMeta} {i j : Nat} {before after : List Node} {node : Node}

/-- The last step of `set_env`. -/
theorem finish (tidy : Tidy store area) (fits : footprint (contents area) ≤ capacity) :
    ∃ store' area', (if store.gcRequest then gcCollect store else some store) = some store' ∧ Tidy store' area' ∧
      store'.gcRequest = false ∧ contents area' = contents area := by
  by_cases request : store.gcRequest = true
  · obtain ⟨store', area', collected, tidy', request', same, -⟩ := gcCollect_eq tidy request fits
    exact ⟨store', area', by rw [if_pos request, collected], tidy', request', same⟩
  · exact ⟨store, area, by rw [if_neg request], tidy, by simpa using request, rfl⟩

/-- An entry for a new key. -/
theorem Created.tidy {store' : Store} (created : Created store store' area j key value) (tidy : Tidy store area)
    (index : j < 4) (takes : (area j).storeStatus = .storeUsing ∨ (area j).storeStatus = .storeEmpty)
    (spare : ∃ i < 4, i ≠ j ∧ (area i).storeStatus = .storeEmpty) :
    Tidy store' (Function.update area j ((area j).put key value)) := by
  refine ⟨created.represents, ?_, ?_, ?_, created.inRecoveryCheck.trans tidy.recovered,
    created.lastIsCompleteDel.trans tidy.complete⟩
  · rw [created.envCache]
    apply tidy.indexed.update
    · intro place there
      rw [← Option.some.inj there]
      exact LiveAt.new index key value
    · exact fun crc addr _ live_ => live_.put index key value
  · intro m below
    by_cases here : m = j
    · rw [here, Function.update_self]
      exact (tidy.sectors j index).put takes key value
    · rw [Function.update_of_ne here]
      exact tidy.sectors m below
  · obtain ⟨i, below, apart, empty⟩ := spare
    exact ⟨i, below, by rwa [Function.update_of_ne apart]⟩

/-- The entry that had the value is deleted, in whatever steps. -/
theorem tidy_deleted {store' : Store}
    (represents : Represents store' (Function.update area i ((area i).soiled (before ++ node :: after))))
    (indexed : EnvCached store'.envCache (LiveAt (Function.update area i ((area i).soiled (before ++ node :: after)))))
    (index : i < 4) {written_ : Node} (nodes : (area i).nodes = before ++ written_ :: after) (deleted : node.status = .deleted)
    (same : node.len = written_.len) (sectors : ∀ m < 4, (area m).Tidy) (spare : ∃ m < 4, (area m).nodes = [])
    (recovered : store'.inRecoveryCheck = false) (complete : store'.lastIsCompleteDel = false) :
    Tidy store' (Function.update area i ((area i).soiled (before ++ node :: after))) := by
  refine ⟨represents, indexed, ?_, ?_, recovered, complete⟩
  · intro m below
    by_cases here : m = i
    · rw [here, Function.update_self]
      exact (sectors i index).deleted nodes deleted same
    · rw [Function.update_of_ne here]
      exact sectors m below
  · obtain ⟨m, below, none⟩ := spare
    have apart : m ≠ i := by
      rintro rfl
      rw [nodes] at none
      simp at none
    refine ⟨m, below, (represents.filled m below).mpr ?_⟩
    rwa [Function.update_of_ne apart]

/-- An entry for a key that has one: the old one is deleted around the new one. -/
theorem replace_eq (tidy : Tidy store area) (index : i < 4) (nodes : (area i).nodes = before ++ node :: after)
    (written_ : node.status = .write) (index' : j < 4)
    (takes : (area j).storeStatus = .storeUsing ∨ (area j).storeStatus = .storeEmpty)
    (room : envLen node.key value < 4080 - (area j).used) (spare : ∃ i < 4, i ≠ j ∧ (area i).storeStatus = .storeEmpty)
    (short : node.key.length ≤ envNameMax) :
    ∃ store' area',
      createEnvBlob (delEnv store (some node.key) (node.object (base i + 16 + size before)) false) ((area j).object j)
          node.key value = some (.noErr, store') ∧
        Tidy (delEnv store' (some node.key) (node.object (base i + 16 + size before)) true) area' ∧
        (node.key, node.value) ::ₘ contents area' = (node.key, value) ::ₘ contents area := by
  have deleted := delEnv_eq tidy.represents index nodes (some node.key) false
  generalize delEnv store (some node.key) (node.object (base i + 16 + size before)) false = store1 at deleted
  obtain ⟨represents1, request1, recovered1, complete1, envCache1⟩ := deleted
  rw [if_neg (by simp)] at envCache1
  have length : (node.moved (deleting false).index).len = node.len := rfl
  have changed := @put_change area i j before after node _ node.key value nodes length
  have marked : size (before ++ node.moved (deleting false).index :: after) = (area i).used := by
    rw [Sector.used, nodes]
    simp
  obtain ⟨area1, area1_⟩ : ∃ area1, area1 = Function.update area i
      ((area i).soiled (before ++ node.moved (deleting false).index :: after)) := ⟨_, rfl⟩
  rw [← area1_] at represents1 changed
  have same : (area1 j).storeStatus = (area j).storeStatus ∧ (area1 j).used = (area j).used := by
    rw [area1_]
    by_cases here : j = i
    · rw [here, Function.update_self]
      exact ⟨rfl, marked⟩
    · rw [Function.update_of_ne here]
      exact ⟨rfl, rfl⟩
  have sector_ : { (area j).object j with dirty := (area1 j).dirtyStatus } = (area1 j).object j := by
    rw [Sector.object, Sector.object, same.1, same.2]
  obtain ⟨store2, created_, represents2, -, recovered2, complete2, envCache2⟩ :=
    @createEnvBlob_eq store1 area1 _ node.key value j represents1 index' (same.1 ▸ takes) (same.2 ▸ room) short sector_
  obtain ⟨put, put_⟩ : ∃ put, put = Function.update area j ((area j).put node.key value) := ⟨_, rfl⟩
  have nodesPut : (put i).nodes = before ++ node :: behind i j after node.key value := by
    rw [put_]
    exact put_nodes_behind nodes
  rw [changed, ← put_] at represents2
  have nodes2 := congrArg Sector.nodes (Function.update_self i
    ((put i).soiled (before ++ node.moved (deleting false).index :: behind i j after node.key value)) put)
  have deleted2 := delEnv_eq represents2 index nodes2 (some node.key) true
  rw [delEnv_moved, Function.update_idem, Function.update_self, soiled_soiled] at deleted2
  obtain ⟨represents3, request3, recovered3, complete3, envCache3⟩ := deleted2
  rw [complete2, complete1, if_neg (by simp)] at envCache3
  have freeSame : free area1 j = free area j := by rw [free, free, same.2]
  rw [envCache2, envCache1, freeSame] at envCache3
  have gone : node.gone.status = .deleted := node.gone_status written_
  have sectors : ∀ m < 4, (put m).Tidy := by
    intro m below
    rw [put_]
    by_cases here : m = j
    · rw [here, Function.update_self]
      exact (tidy.sectors j index').put takes node.key value
    · rw [Function.update_of_ne here]
      exact tidy.sectors m below
  have spare' : ∃ m < 4, (put m).nodes = [] := by
    obtain ⟨m, below, apart, empty⟩ := spare
    refine ⟨m, below, ?_⟩
    rw [put_, Function.update_of_ne apart]
    exact (tidy.represents.filled m below).mp empty
  refine ⟨store2, Function.update put i ((put i).soiled (before ++ node.gone :: behind i j after node.key value)), created_,
    tidy_deleted represents3 ?_ index nodesPut gone rfl sectors spare' ?_ complete3, ?_⟩
  · -- The other order: the old entry is gone first, then the new one comes.
    obtain ⟨rest, rest_⟩ : ∃ rest, rest = Function.update area i ((area i).soiled (before ++ node.gone :: after)) :=
      ⟨_, rfl⟩
    have reordered := @put_change area i j before after node node.gone node.key value nodes rfl
    rw [← rest_, ← put_] at reordered
    have freeRest : free rest j = free area j := by
      rw [free, free, rest_]
      by_cases here : j = i
      · rw [here, Function.update_self, Sector.used, soiled_nodes, Sector.used, nodes]
        simp [Node.gone]
      · rw [Function.update_of_ne here]
    rw [envCache3, ← reordered, ← freeRest]
    apply tidy.indexed.update
    · intro place there
      rw [← Option.some.inj there]
      exact LiveAt.new index' node.key value
    · intro crc addr different live_
      have still : LiveAt rest crc addr := by
        rw [rest_]
        exact @LiveAt.replace _ _ _ _ _ _ _ _ _ live_ tidy.represents index nodes different node.gone rfl rfl
      exact still.put index' node.key value
  · rw [recovered3, recovered2, recovered1, tidy.recovered]
  · have first : contents put = (node.key, value) ::ₘ contents area := by
      rw [put_]
      exact contents_put index' node.key value
    rw [← first]
    exact (contents_marked index nodesPut written_ (by simp [gone]) rfl).symm

theorem within_of_means (means : Means (contents area) map) (within : ∀ key value, map key = some value → key ∈ keys) :
    Within keys area := fun entry member => within entry.1 entry.2 ((means.mem entry.1 entry.2).mp member)

section Steps

variable {store1 store2 store3 store4 : Store} {envAddr : Nat} {env : EnvNode}

theorem setEnv_new (made : newEnv store .unread (envLen key value) = some (some envAddr, sector, store1))
    (searched : findEnv store1 key = some (none, store2))
    (created : createEnvBlob store2 sector key value = some (.noErr, store3))
    (finished : (if store3.gcRequest then gcCollect store3 else some store3) = some store4) :
    setEnv store key (some value) = some (.noErr, store4) := by
  rw [setEnv, made]
  dsimp only [Option.bind_eq_bind, Option.bind_some]
  rw [if_neg (by simp), searched]
  dsimp only [Option.bind_some]
  rw [created]
  dsimp only [Option.bind_some]
  by_cases requested : store3.gcRequest = true
  · rw [if_pos requested] at finished ⊢
    rw [finished]
    rfl
  · rw [if_neg requested] at finished ⊢
    rw [Option.some.inj finished]

theorem setEnv_old (made : newEnv store .unread (envLen key value) = some (some envAddr, sector, store1))
    (searched : findEnv store1 key = some (some env, store2))
    (created : createEnvBlob (delEnv store2 (some key) env false) sector key value = some (.noErr, store3))
    (finished : (if (delEnv store3 (some key) env true).gcRequest then gcCollect (delEnv store3 (some key) env true)
      else some (delEnv store3 (some key) env true)) = some store4) :
    setEnv store key (some value) = some (.noErr, store4) := by
  rw [setEnv, made]
  dsimp only [Option.bind_eq_bind, Option.bind_some]
  rw [if_neg (by simp), searched]
  dsimp only [Option.bind_some]
  rw [created]
  generalize deleted : delEnv store3 (some key) env true = store3' at finished
  simp only [Option.bind_some, if_true, deleted]
  by_cases requested : store3'.gcRequest = true
  · rw [if_pos requested] at finished ⊢
    rw [finished]
    rfl
  · rw [if_neg requested] at finished ⊢
    rw [Option.some.inj finished]

end Steps

/-- A value is set: the store holds the map with the new value. -/
theorem setEnv_eq (known : Keys keys) (tidy : Tidy store area) (request : store.gcRequest = false)
    (means : Means (contents area) map) (within : ∀ key value, map key = some value → key ∈ keys) (member : key ∈ keys)
    (fits : footprint (contents area) + envLen key value ≤ capacity) :
    ∃ store' area', setEnv store key (some value) = some (.noErr, store') ∧ Tidy store' area' ∧
      store'.gcRequest = false ∧ Means (contents area') (Function.update map key (some value)) := by
  obtain ⟨store1, area1, j, made, place⟩ := @newEnv_eq store area .unread _ tidy request fits
  obtain ⟨index', tidy1, request1, same1, takes, suits, spare⟩ := place
  rw [← same1] at means fits
  obtain ⟨found, cache, indexed, found_, searched⟩ :=
    findEnv_eq tidy1.represents tidy1.indexed known (within_of_means means within) member
  obtain ⟨store2, store2_⟩ : ∃ store2, store2 = { store1 with envCache := cache } := ⟨_, rfl⟩
  have tidy2 : Tidy store2 area1 := by
    obtain ⟨⟨held, cached, known, filled⟩, -, sectors, spare, recovered, complete⟩ := tidy1
    rw [store2_]
    exact ⟨⟨held, cached, known, filled⟩, indexed, sectors, spare, recovered, complete⟩
  rw [← store2_] at searched
  have short := known.short key member
  cases found_ with
  | nowhere unset =>
      obtain ⟨store3, created_, created⟩ :=
        @createEnvBlob_eq store2 area1 ((area1 j).object j) key value j tidy2.represents index' takes suits.1 short rfl
      have absent : map key = none := by
        cases held : map key with
        | none => rfl
        | some value => exact absurd ((means.mem key value).mpr held) (unset value)
      obtain ⟨store4, area4, finished, tidy4, request4, same4⟩ := finish (created.tidy tidy2 index' takes spare) (by
        rw [contents_put index', footprint_cons]
        omega)
      refine ⟨store4, area4, setEnv_new made searched created_ finished, tidy4, request4, ?_⟩
      rw [same4, contents_put index']
      exact means.insert absent value
  | @here addr node at_ written_ same =>
      obtain ⟨i, index, before, after, nodes, rfl⟩ := at_.split
      subst same
      obtain ⟨store3, area3, created, tidy3, contents3⟩ :=
        replace_eq tidy2 index nodes written_ index' takes suits.1 spare short
      have total := congrArg footprint contents3
      rw [footprint_cons, footprint_cons] at total
      obtain ⟨store4, area4, finished, tidy4, request4, same4⟩ := finish tidy3 (by omega)
      refine ⟨store4, area4, setEnv_old made searched created finished, tidy4, request4, ?_⟩
      -- All but the old entry is in order as before.
      obtain ⟨rest, rest_⟩ := Multiset.exists_cons_of_mem (mem_contents.mpr ⟨_, node, at_, written_, rfl, rfl⟩)
      rw [rest_] at means contents3
      rw [Multiset.cons_swap, Multiset.cons_inj_right] at contents3
      rw [same4, contents3]
      exact means.replace value

/-- A value is deleted. -/
theorem delete_eq (known : Keys keys) (tidy : Tidy store area) (means : Means (contents area) map)
    (within : ∀ key value, map key = some value → key ∈ keys) (member : key ∈ keys) :
    ∃ store' area', setEnv store key none = some (if (map key).isSome then .noErr else .envNameErr, store') ∧
      Tidy store' area' ∧ store'.gcRequest = store.gcRequest ∧
      Means (contents area') (Function.update map key none) := by
  obtain ⟨found, cache, indexed, found_, searched⟩ :=
    findEnv_eq tidy.represents tidy.indexed known (within_of_means means within) member
  obtain ⟨store2, store2_⟩ : ∃ store2, store2 = { store with envCache := cache } := ⟨_, rfl⟩
  have tidy2 : Tidy store2 area := by
    obtain ⟨⟨held, cached, known, filled⟩, -, sectors, spare, recovered, complete⟩ := tidy
    rw [store2_]
    exact ⟨⟨held, cached, known, filled⟩, indexed, sectors, spare, recovered, complete⟩
  have request2 : store2.gcRequest = store.gcRequest := by rw [store2_]
  rw [← store2_] at searched
  rw [setEnv, delEnvByKey, searched]
  dsimp only [Option.bind_eq_bind, Option.bind_some]
  cases found_ with
  | nowhere unset =>
      have absent : map key = none := by
        cases held : map key with
        | none => rfl
        | some value => exact absurd ((means.mem key value).mpr held) (unset value)
      refine ⟨store2, area, by rw [absent]; rfl, tidy2, request2, ?_⟩
      rwa [← absent, Function.update_eq_self]
  | @here addr node at_ written_ same =>
      obtain ⟨i, index, before, after, nodes, rfl⟩ := at_.split
      subst same
      have held : map node.key = some node.value :=
        (means.mem node.key node.value).mp (mem_contents.mpr ⟨_, node, at_, written_, rfl, rfl⟩)
      have deleted := delEnv_eq tidy2.represents index nodes (some node.key) true
      obtain ⟨represents3, request3, recovered3, complete3, envCache3⟩ := deleted
      rw [tidy2.complete, if_pos ⟨rfl, rfl⟩] at envCache3
      have status : (node.moved (deleting true).index).status = .deleted := by
        exact Node.status_moved (by decide) (by rw [written_]; decide)
      refine ⟨_, _, by rw [held]; rfl,
        tidy_deleted represents3 ?_ index nodes status rfl tidy2.sectors ?_ (recovered3.trans tidy2.recovered) complete3,
        request3.trans request2, ?_⟩
      · rw [envCache3]
        apply tidy2.indexed.update
        · exact fun place there => by cases there
        · intro crc addr different live_
          exact @LiveAt.replace _ _ _ _ _ _ _ _ _ live_ tidy2.represents index nodes different
            (node.moved (deleting true).index) rfl rfl
      · obtain ⟨m, below, empty⟩ := tidy2.spare
        exact ⟨m, below, (tidy2.represents.filled m below).mp empty⟩
      · have before := @contents_marked _ _ ((area i).soiled (before ++ node.moved (deleting true).index :: after)) _ _ _
          index nodes written_ _ (by simp [status]) rfl
        rw [before] at means
        exact means.erase

end Set

end SyrFilter.Ef
