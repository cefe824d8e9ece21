import SyrFilter.Ef.Steps

namespace SyrFilter.Ef

open SyrFilter.Lib

/-! # Collecting garbage

What is in order is moved out of the sectors with deleted entries, and these are
formatted.  Nothing is lost as long as one sector could hold it all.
-/

/-- An entry that has been moved. -/
def Node.gone (node : Node) : Node := (node.moved EnvStatus.preDelete.index).moved EnvStatus.deleted.index

section Moving

variable {store : Store} {area : Area} {i j : Nat} {before after : List Node} {node : Node}

theorem Node.gone_status (written : node.status = .write) : node.gone.status = .deleted := by
  have first : (node.moved EnvStatus.preDelete.index).status = .preDelete :=
    Node.status_moved (by decide) (by rw [written]; decide)
  exact Node.status_moved (by decide) (by rw [first]; decide)

/-- Only the place and the name of an entry count when it is deleted. -/
theorem delEnv_moved (index addr : Nat) (key : Option (List UInt8)) (completeDel : Bool) :
    delEnv store key ((node.moved index).object addr) completeDel = delEnv store key (node.object addr) completeDel := rfl

theorem not_suits_of_gc {sector : Sector} (gc : sector.dirtyStatus = .dirtyGc) (gcRequest : Bool) (envSize : Nat) :
    ¬sector.Suits gcRequest envSize := by
  simp [Sector.Suits, gc]

theorem soiled_of_gc (gc : (area i).dirtyStatus = .dirtyGc) (nodes : List Node) :
    (area i).soiled nodes = { area i with nodes } := by
  rw [Sector.soiled, if_neg (by simp [gc])]

theorem sector_of_free (room : (area j).used < 4080) : free area j / sectorSize * sectorSize = base j := by
  rw [free, base, sectorSize]
  omega

/-- What is left to do once there is a place for the entry. -/
theorem moveEnv_of_alloc {env : EnvNode} {middle opened : Store} {sector : SectorMeta} {envAddr : Nat} {full : Bool}
    (written_ : env.status = .write)
    (allocated : allocEnv (delEnv store none env false) .unread env.len = some (some envAddr, sector, middle))
    (recovered : middle.inRecoveryCheck = false) (updated : updateSecStatus middle sector env.len false = (opened, full)) :
    moveEnv store env =
      some (.noErr,
        delEnv
          { opened with
            flash :=
              writeStatus
                (copyEnv (writeStatus opened.flash envAddr envStatusNum EnvStatus.preWrite.index) env.start envAddr env.len)
                envAddr envStatusNum EnvStatus.write.index
            sectorCache :=
              updateSectorCache opened.sectorCache (envAddr / sectorSize * sectorSize)
                (envAddr + envHdrDataSize + env.nameLen + env.valueLen)
            envCache := updateEnvCache opened.envCache env.name (some envAddr) }
          none env true) := by
  rw [moveEnv, if_pos written_]
  dsimp only [Option.bind_eq_bind]
  rw [allocated]
  dsimp only [Option.bind_some]
  rw [if_neg (by simp [recovered]), updated]
  rfl

/-- An entry of one sector is changed, and another sector has one more. -/
theorem moved_area (apart : j ≠ i) (marked final : List Node) (key value : List UInt8) :
    Function.update
        (Function.update (Function.update area i { area i with nodes := marked }) j ((area j).put key value)) i
        { area i with nodes := final } =
      Function.update (Function.update area i { area i with nodes := final }) j ((area j).put key value) := by
  rw [Function.update_comm apart, Function.update_idem]

/-- What is copied is still where it was when the sector it goes to is opened. -/
theorem Opened.copied {opened_ : Store} {full : Bool} (opened : Opened store area j node.len opened_ full)
    (represents : Represents store area) (index : i < 4) (apart : j ≠ i) (nodes : (area i).nodes = before ++ node :: after)
    (small : node.len < 4080 - (area j).used) :
    writeStatus
        (copyEnv (writeStatus opened_.flash (free area j) envStatusNum EnvStatus.preWrite.index)
          (base i + 16 + size before) (free area j) node.len)
        (free area j) envStatusNum EnvStatus.write.index =
      written opened_.flash (free area j) ((envHdr node.key node.value).bytes ++ node.key ++ node.value) := by
  have held : Held opened_.flash (Function.update area j ((area j).opened node.len)) :=
    represents.held.update opened.at_ opened.outside
  have nodes' : (Function.update area j ((area j).opened node.len) i).nodes = before ++ node :: after := by
    rw [Function.update_of_ne apart.symm, nodes]
  obtain ⟨-, -, used⟩ := (represents.held i index).entry nodes
  have room := (represents.held i index).room
  refine copied_eq ((held i index).entry nodes').1 ?_
  rw [free]
  rcases base_apart apart with early | late
  · omega
  · omega

/-- An entry in order is moved to a sector with room. -/
theorem moveEnv_eq (represents : Represents store area) (index : i < 4) (nodes : (area i).nodes = before ++ node :: after)
    (written_ : node.status = .write) (gc : (area i).dirtyStatus = .dirtyGc) (request : store.gcRequest = true)
    (recovered : store.inRecoveryCheck = false)
    (room : ∃ j < 4, ((area j).storeStatus = .storeUsing ∨ (area j).storeStatus = .storeEmpty) ∧
      (area j).Suits true node.len) :
    ∃ j < 4, j ≠ i ∧ ((area j).storeStatus = .storeUsing ∨ (area j).storeStatus = .storeEmpty) ∧
      (area j).Suits true node.len ∧
      ∃ store', moveEnv store (node.object (base i + 16 + size before)) = some (.noErr, store') ∧
        Represents store'
          (Function.update (Function.update area i { area i with nodes := before ++ node.gone :: after }) j
            ((area j).put node.key node.value)) ∧
        store'.gcRequest = true ∧ store'.inRecoveryCheck = false ∧ store'.lastIsCompleteDel = false ∧
        store'.envCache = updateEnvCache store.envCache node.key (some (free area j)) := by
  have deleted := delEnv_eq represents index nodes none false
  rw [soiled_of_gc gc] at deleted
  generalize first : delEnv store none (node.object (base i + 16 + size before)) false = store1 at deleted
  obtain ⟨represents1, request1, recovered1, complete1, envCache1⟩ := deleted
  rw [if_neg (by simp)] at envCache1
  rw [request] at request1
  rw [recovered] at recovered1
  obtain ⟨marked, marked_⟩ : ∃ marked, marked = before ++ node.moved (deleting false).index :: after := ⟨_, rfl⟩
  rw [← marked_] at represents1
  obtain ⟨area1, area1_⟩ : ∃ area1, area1 = Function.update area i { area i with nodes := marked } := ⟨_, rfl⟩
  rw [← area1_] at represents1
  have other (m : Nat) (apart : m ≠ i) : area1 m = area m := by rw [area1_, Function.update_of_ne apart]
  have this : area1 i = { area i with nodes := marked } := by rw [area1_, Function.update_self]
  have room1 : (∃ j < 4, (area1 j).storeStatus = .storeUsing ∧ (area1 j).Suits store1.gcRequest node.len) ∨
      (∃ j < 4, (area1 j).storeStatus = .storeEmpty ∧ (area1 j).Suits store1.gcRequest node.len) ∧
        (gcEmptySecThreshold < countStatus area1 .storeEmpty 4 ∨ store1.gcRequest = true) := by
    obtain ⟨j, below, takes, suits⟩ := room
    have apart : j ≠ i := by
      rintro rfl
      exact not_suits_of_gc gc _ _ suits
    rw [request1]
    rcases takes with using_ | empty
    · exact .inl ⟨j, below, by rwa [other j apart], by rwa [other j apart]⟩
    · exact .inr ⟨⟨j, below, by rwa [other j apart], by rwa [other j apart]⟩, .inr rfl⟩
  obtain ⟨j, below, store2, suits, takes, allocated, searched⟩ :=
    @allocEnv_some store1 area1 .unread node.len represents1 room1
  rw [request1] at suits
  have apart : j ≠ i := by
    rintro rfl
    exact not_suits_of_gc (this ▸ gc) _ _ suits
  have takes1 : (area1 j).storeStatus = .storeUsing ∨ (area1 j).storeStatus = .storeEmpty := takes.imp id fun both => both.1
  have same : area1 j = area j := other j apart
  have freeSame : free area1 j = free area j := by rw [free, free, same]
  obtain ⟨opened_, full, opened⟩ := updateSecStatus_eq searched.represents below takes1.symm suits.1
  have nodes1 : (area1 i).nodes = before ++ node.moved (deleting false).index :: after := by rw [this, marked_]
  have fits := ((represents.held i index).entry nodes).2.1
  have small := suits.1
  have sectorOf : free area1 j / sectorSize * sectorSize = base j := sector_of_free (by omega)
  have result := moveEnv_of_alloc written_ (by rw [first]; exact allocated)
    (searched.inRecoveryCheck.trans recovered1) opened.updated
  have copied : writeStatus
      (copyEnv (writeStatus opened_.flash (free area1 j) envStatusNum EnvStatus.preWrite.index)
        (node.object (base i + 16 + size before)).start (free area1 j) (node.object (base i + 16 + size before)).len)
      (free area1 j) envStatusNum EnvStatus.write.index =
      written opened_.flash (free area1 j) ((envHdr node.key node.value).bytes ++ node.key ++ node.value) :=
    @Opened.copied _ _ _ _ _ _ (node.moved (deleting false).index) _ _ opened searched.represents index apart nodes1 small
  have ends : free area1 j + envHdrDataSize + (node.object (base i + 16 + size before)).nameLen +
      (node.object (base i + 16 + size before)).valueLen = free area1 j + envLen node.key node.value := by
    simp only [Node.object, envLen, Nat.add_assoc]
  rw [copied, ends, sectorOf] at result
  generalize stored : Store.mk _ _ _ _ _ _ = store3 at result
  have represents3 : Represents store3 (Function.update area1 j ((area1 j).put node.key node.value)) := by
    rw [← stored]
    exact opened.put searched.represents below takes1.symm suits.1 fits.key rfl (.inl rfl)
  have nodes3 : (Function.update area1 j ((area1 j).put node.key node.value) i).nodes =
      before ++ node.moved (deleting false).index :: after := by rw [Function.update_of_ne apart.symm, nodes1]
  have gc3 : (Function.update area1 j ((area1 j).put node.key node.value) i).dirtyStatus = .dirtyGc := by
    rw [Function.update_of_ne apart.symm, this]
    exact gc
  have deleted3 := delEnv_eq represents3 index nodes3 none true
  rw [delEnv_moved, soiled_of_gc gc3, Function.update_of_ne apart.symm, this, area1_, Function.update_of_ne apart,
    moved_area apart] at deleted3
  obtain ⟨represents4, request4, recovered4, complete4, envCache4⟩ := deleted3
  rw [same] at takes1 suits
  refine ⟨j, below, apart, takes1, suits, _, result, represents4, ?_, ?_, complete4, ?_⟩
  · rw [request4, ← stored]
    exact opened.gcRequest.trans (searched.gcRequest.trans request1)
  · rw [recovered4, ← stored]
    exact opened.inRecoveryCheck.trans (searched.inRecoveryCheck.trans recovered1)
  · have complete3 : opened_.lastIsCompleteDel = true :=
      opened.lastIsCompleteDel.trans (searched.lastIsCompleteDel.trans complete1)
    rw [envCache4, ← stored, if_neg (by simp [complete3]), opened.envCache, searched.envCache, envCache1, freeSame]
    rfl

end Moving

/-! ## What is kept in order -/

/-- What holds of a sector between operations. -/
structure Sector.Tidy (sector : Sector) : Prop where
  statuses : ∀ node ∈ sector.nodes, node.status = .write ∨ node.status = .deleted
  dirty : sector.dirtyStatus = .dirtyFalse ∨ sector.dirtyStatus = .dirtyTrue
  clean : sector.dirtyStatus = .dirtyFalse → ∀ node ∈ sector.nodes, node.status = .write
  full : sector.storeStatus = .storeFull → 4024 < sector.used
  fresh : sector.nodes = [] → sector.dirtyStatus = .dirtyFalse

section Order

variable {store : Store} {area : Area} {i j addr : Nat} {before after : List Node} {node : Node} {sector : Sector}
  {key value : List UInt8} {crc : UInt16}

theorem Sector.Tidy.put (tidy : sector.Tidy) (takes : sector.storeStatus = .storeUsing ∨ sector.storeStatus = .storeEmpty)
    (key value : List UInt8) : (sector.put key value).Tidy := by
  refine ⟨?_, tidy.dirty, ?_, ?_, by simp⟩
  · intro node member
    rcases List.mem_append.mp member with old | new
    · exact tidy.statuses node old
    · rw [List.mem_singleton.mp new]
      exact .inl (status_written key value)
  · intro clean node member
    rcases List.mem_append.mp member with old | new
    · exact tidy.clean clean node old
    · rw [List.mem_singleton.mp new]
      exact status_written key value
  · rw [put_storeStatus takes.symm, put_used]
    split
    · rename_i fills
      exact fun _ => fills.2
    · exact fun full => by cases full

theorem Sector.Tidy.formatted : Sector.fresh.Tidy where
  statuses := by simp [Sector.fresh]
  dirty := .inl (by decide)
  clean := by simp [Sector.fresh]
  full := by decide
  fresh _ := by decide

theorem contents_put (below : j < 4) (key value : List UInt8) :
    contents (Function.update area j ((area j).put key value)) = (key, value) ::ₘ contents area :=
  contents_append below put_nodes (status_written key value)

theorem LiveAt.put (below : j < 4) (live : LiveAt area crc addr) (key value : List UInt8) :
    LiveAt (Function.update area j ((area j).put key value)) crc addr := by
  obtain ⟨node, at_, there⟩ := live
  exact ⟨node, at_.append below put_nodes, there⟩

theorem LiveAt.new (below : j < 4) (key value : List UInt8) :
    LiveAt (Function.update area j ((area j).put key value)) (calcNameCrc key) (free area j) := by
  refine ⟨⟨writtenTable, key, value⟩, ?_, status_written key value, rfl⟩
  rw [at_update below]
  exact .inl (mem_placed.mpr ⟨(area j).nodes, [], rfl, rfl⟩)

/-- Whatever becomes of an entry, those with another checksum are in order still. -/
theorem LiveAt.replace (live : LiveAt area crc addr) (represents : Represents store area) (below : i < 4)
    (nodes : (area i).nodes = before ++ node :: after) (other : crc ≠ calcNameCrc node.key) {changed : Node}
    (same : changed.len = node.len) (nodes' : sector.nodes = before ++ changed :: after) :
    LiveAt (Function.update area i sector) crc addr := by
  obtain ⟨found, at_, written, rfl⟩ := live
  refine ⟨found, at_.replace below nodes same nodes' ?_, written, rfl⟩
  rintro rfl
  have here : At area (base i + 16 + size before) node := ⟨i, below, mem_placed.mpr ⟨before, after, nodes, rfl⟩⟩
  exact other (congrArg (fun node : Node => calcNameCrc node.key) (at_.unique represents.held here))

/-- What is in order in other sectors is so still. -/
theorem LiveAt.elsewhere (live_ : LiveAt area crc addr) (below : i < 4) (none : live (area i).nodes = 0) :
    LiveAt (Function.update area i sector) crc addr := by
  obtain ⟨node, ⟨m, index, member⟩, written, same⟩ := live_
  refine ⟨node, (at_update below).mpr (.inr ⟨m, index, ?_, member⟩), written, same⟩
  rintro rfl
  obtain ⟨before, after, nodes, -⟩ := mem_placed.mp member
  have found : (node.key, node.value) ∈ live (area m).nodes := mem_live.mpr ⟨node, by simp [nodes], written, rfl, rfl⟩
  rw [none] at found
  cases found

end Order

/-! ## Sector by sector -/

section Sectors

variable {store : Store} {area : Area} {n : Nat} {before after : List Node} {node : Node} {sector : SectorMeta}

/-- Somewhere else what is still in order finds room. -/
def Room (area : Area) (n needed : Nat) : Prop :=
  ∃ j < 4, j ≠ n ∧ ((area j).storeStatus = .storeEmpty ∨
    (area j).storeStatus = .storeUsing ∧ (area j).dirtyStatus = .dirtyFalse ∧ (area j).used + needed ≤ 4024)

/-- A sector is being collected: what is in order in it has been moved up to an
entry. -/
structure Collecting (start : Area) (n : Nat) (area : Area) (store : Store) (passed left : List Node) : Prop where
  indexed : EnvCached store.envCache (LiveAt area)
  request : store.gcRequest = true
  recovered : store.inRecoveryCheck = false
  complete : store.lastIsCompleteDel = false
  collected : (area n).dirtyStatus = .dirtyGc
  others : ∀ i < 4, i ≠ n → (area i).Tidy ∧ (area i).dirty = (start i).dirty
  gone : live passed = 0
  statuses : ∀ node ∈ left, node.status = .write ∨ node.status = .deleted
  same : contents area = contents start
  room : Room area n (footprint (live left))

/-- A move takes no more of the room than it needs. -/
theorem Room.move {area' : Area} {j needed : Nat} {key value : List UInt8} (room : Room area n (envLen key value + needed))
    (represents : Represents store area) (capacity : envLen key value + needed ≤ 4024)
    (tidy : ∀ i < 4, i ≠ n → (area i).Tidy)
    (takes : (area j).storeStatus = .storeUsing ∨ (area j).storeStatus = .storeEmpty)
    (there : area' j = (area j).put key value) (elsewhere : ∀ i, i ≠ n → i ≠ j → area' i = area i) :
    Room area' n needed := by
  obtain ⟨m, below, apart, room⟩ := room
  by_cases here : m = j
  · subst here
    refine ⟨m, below, apart, .inr ?_⟩
    rw [there, put_dirtyStatus, put_used, put_storeStatus takes.symm]
    rcases room with empty | ⟨using_, clean, fits⟩
    · have none : (area m).nodes = [] := (represents.filled m below).mp empty
      have used : (area m).used = 0 := by rw [Sector.used, none, size_nil]
      rw [if_neg (by simp [Sector.Fills, empty]), used]
      exact ⟨rfl, (tidy m below apart).fresh none, by omega⟩
    · rw [if_neg]
      · exact ⟨rfl, clean, by omega⟩
      · rintro ⟨-, more⟩
        omega
  · refine ⟨m, below, apart, ?_⟩
    rw [elsewhere m apart here]
    rcases room with empty | ⟨using_, clean, fits⟩
    · exact .inl empty
    · exact .inr ⟨using_, clean, by omega⟩

/-- Room for the next entry is room that `alloc_env` may take. -/
theorem Collecting.takes {start : Area} (collecting : Collecting start n area store before (node :: after))
    (represents : Represents store area) (written_ : node.status = .write) (small : node.len ≤ 4024) :
    ∃ j < 4, ((area j).storeStatus = .storeUsing ∨ (area j).storeStatus = .storeEmpty) ∧ (area j).Suits true node.len := by
  obtain ⟨j, below, apart, room⟩ := collecting.room
  obtain ⟨tidy, -⟩ := collecting.others j below apart
  rw [live_cons, if_pos written_, footprint_cons] at room
  have length : envLen node.key node.value = node.len := rfl
  rcases room with empty | ⟨using_, clean, fits⟩
  · have none : (area j).nodes = [] := (represents.filled j below).mp empty
    have used : (area j).used = 0 := by rw [Sector.used, none, size_nil]
    exact ⟨j, below, .inr empty, by omega, .inl (tidy.fresh none)⟩
  · exact ⟨j, below, .inl using_, by omega, .inl clean⟩

/-- One entry more is out of the sector. -/
theorem collect_entry {start : Area} (index : n < 4) (represents : Represents store area)
    (nodes : (area n).nodes = before ++ node :: after) (collecting : Collecting start n area store before (node :: after))
    (capacity : footprint (contents start) ≤ 4024) :
    ∃ store' area' before', doGcEnv (node.object (base n + 16 + size before)) store () = some (false, store', ()) ∧
      Represents store' area' ∧ (area' n).nodes = before' ++ after ∧ size before' = size before + node.len ∧
      Collecting start n area' store' before' after := by
  have statuses : ∀ other ∈ after, other.status = .write ∨ other.status = .deleted :=
    fun other member => collecting.statuses other (List.mem_cons_of_mem _ member)
  have status : (node.object (base n + 16 + size before)).status = node.status := rfl
  have ok : (node.object (base n + 16 + size before)).crcIsOk = true := rfl
  rcases collecting.statuses node List.mem_cons_self with written_ | deleted
  · have total : footprint (live (node :: after)) ≤ 4024 := by
      have among := @footprint_live_le area n index
      rw [nodes, live_append, footprint_add, collecting.same] at among
      omega
    rw [live_cons, if_pos written_, footprint_cons] at total
    have length : envLen node.key node.value = node.len := rfl
    have room := collecting.room
    rw [live_cons, if_pos written_, footprint_cons] at room
    obtain ⟨j, below, apart, takes, suits, store', moved_, represents', request', recovered', complete', cache'⟩ :=
      moveEnv_eq represents index nodes written_ collecting.collected collecting.request collecting.recovered
        (collecting.takes represents written_ (by omega))
    obtain ⟨area1, area1_⟩ :
        ∃ area1, area1 = Function.update area n { area n with nodes := before ++ node.gone :: after } := ⟨_, rfl⟩
    rw [← area1_] at represents'
    have other (m : Nat) (different : m ≠ n) : area1 m = area m := by rw [area1_, Function.update_of_ne different]
    have this : area1 n = { area n with nodes := before ++ node.gone :: after } := by rw [area1_, Function.update_self]
    have same : area1 j = area j := other j apart
    have notWritten : node.gone.status ≠ .write := by simp [Node.gone_status written_]
    have contents1 : contents area = (node.key, node.value) ::ₘ contents area1 := by
      rw [area1_]
      exact contents_marked index nodes written_ notWritten rfl
    rw [← same] at represents' takes
    refine ⟨store', _, before ++ [node.gone], ?_, represents', ?_, by simp [Node.gone], ?_⟩
    · rw [doGcEnv, if_pos ⟨ok, .inl written_⟩, moved_]
      rfl
    · rw [Function.update_of_ne apart.symm, this]
      simp
    · have freeSame : free area j = free area1 j := by rw [free, free, same]
      refine ⟨?_, request', recovered', complete', ?_, ?_, ?_, statuses, ?_, ?_⟩
      · rw [cache', freeSame]
        apply collecting.indexed.update
        · intro place there
          rw [← Option.some.inj there]
          exact LiveAt.new below node.key node.value
        · intro crc addr different live_
          have still : LiveAt area1 crc addr := by
            rw [area1_]
            exact @LiveAt.replace _ _ _ _ _ _ _ _ _ live_ represents index nodes different node.gone rfl rfl
          exact still.put below node.key node.value
      · rw [Function.update_of_ne apart.symm, this]
        exact collecting.collected
      · intro i inside different
        by_cases here : i = j
        · rw [here, Function.update_self, same]
          rw [same] at takes
          obtain ⟨tidy, dirty⟩ := collecting.others j below apart
          exact ⟨tidy.put takes node.key node.value, dirty⟩
        · rw [Function.update_of_ne here, other i different]
          exact collecting.others i inside different
      · rw [live_append, collecting.gone, live_cons, if_neg notWritten, live_nil, add_zero]
      · rw [contents_put below, ← contents1, collecting.same]
      · rw [same] at takes
        refine room.move represents total (fun i inside different => (collecting.others i inside different).1) takes ?_ ?_
        · rw [Function.update_self, same]
        · intro i different elsewhere
          rw [Function.update_of_ne elsewhere, other i different]
  · refine ⟨store, area, before ++ [node], ?_, represents, by simp [nodes], by simp, ?_⟩
    · rw [doGcEnv, status, deleted, if_neg (by simp)]
    · have room := collecting.room
      have gone := collecting.gone
      rw [live_cons, if_neg (by simp [deleted])] at room
      refine { collecting with gone := ?_, statuses, room }
      rw [live_append, gone, live_cons, if_neg (by simp [deleted]), live_nil, add_zero]

/-- What holds of a store between operations. -/
structure Tidy (store : Store) (area : Area) : Prop where
  represents : Represents store area
  indexed : EnvCached store.envCache (LiveAt area)
  sectors : ∀ i < 4, (area i).Tidy
  spare : ∃ i < 4, (area i).storeStatus = .storeEmpty
  recovered : store.inRecoveryCheck = false
  complete : store.lastIsCompleteDel = false

theorem LiveAt.sameNodes {crc : UInt16} {addr : Nat} {held : Sector} (live_ : LiveAt area crc addr) (below : n < 4)
    (nodes : held.nodes = (area n).nodes) : LiveAt (Function.update area n held) crc addr := by
  obtain ⟨node, at_, there⟩ := live_
  exact ⟨node, at_.append below (nodes.trans (List.append_nil _).symm), there⟩

/-- The mark that a sector is being collected. -/
theorem Tidy.collecting (tidy : Tidy store area) (request : store.gcRequest = true) (index : n < 4)
    (dirty : (area n).dirtyStatus = .dirtyTrue) {marked : Store}
    (marked_ : marked = { store with
      flash := writeStatus store.flash (base n + sectorDirtyOffset) sectorStatusNum SectorDirtyStatus.dirtyGc.index }) :
    ∃ area', Represents marked area' ∧ (area' n).nodes = (area n).nodes ∧
      Collecting area n area' marked [] (area n).nodes := by
  subst marked_
  obtain ⟨represents, indexed, sectors, ⟨spare, below, empty⟩, recovered, complete⟩ := tidy
  have gc : ({ area n with dirty := moved SectorDirtyStatus.dirtyGc.index (area n).dirty } : Sector).dirtyStatus = .dirtyGc := by
    rw [dirtyStatus_moved (by decide) (by decide), dirty]
    rfl
  have apart : spare ≠ n := by
    rintro rfl
    rw [(sectors spare below).fresh ((represents.filled spare below).mp empty)] at dirty
    cases dirty
  refine ⟨Function.update area n { area n with dirty := moved SectorDirtyStatus.dirtyGc.index (area n).dirty }, ?_, ?_, ?_⟩
  · refine represents.change ?_ ?_ rfl rfl (represents.known n index) (represents.filled n index)
    · exact (represents.held n index).dirtyWritten (show 0 < SectorDirtyStatus.dirtyGc.index by decide) (by decide)
    · intro cell outside
      have away : cell ≠ base n + sectorDirtyOffset := by
        rw [sectorDirtyOffset]
        omega
      exact writeStatus_outside (show 0 < SectorDirtyStatus.dirtyGc.index by decide) (by decide) (by decide) away
  · rw [Function.update_self]
  · refine ⟨indexed.mono ?_, request, recovered, complete, ?_, ?_, rfl, (sectors n index).statuses, ?_, ?_⟩
    · exact fun crc addr live_ => live_.sameNodes index rfl
    · rw [Function.update_self]
      exact gc
    · intro i inside different
      rw [Function.update_of_ne different]
      exact ⟨sectors i inside, rfl⟩
    · exact contents_same index rfl
    · exact ⟨spare, below, apart, .inl (by rwa [Function.update_of_ne apart])⟩

/-- A sector with deleted entries is emptied, and nothing is lost. -/
theorem doGc_eq (tidy : Tidy store area) (request : store.gcRequest = true) (index : n < 4)
    (capacity : footprint (contents area) ≤ 4024) :
    ∃ store' area', doGc (sector.header n (area n)) store () = some (false, store', ()) ∧ Tidy store' area' ∧
      store'.gcRequest = true ∧ contents area' = contents area ∧ (area' n).dirtyStatus = .dirtyFalse ∧
      ∀ i < 4, i ≠ n → (area' i).dirty = (area i).dirty := by
  have ok : (sector.header n (area n)).checkOk = true := rfl
  have status : (sector.header n (area n)).dirty = (area n).dirtyStatus := rfl
  rcases (tidy.sectors n index).dirty with clean | dirty
  · refine ⟨store, area, ?_, tidy, request, rfl, clean, fun _ _ _ => rfl⟩
    rw [doGc, status, clean, if_neg (by simp)]
  · obtain ⟨marked, marked_⟩ : ∃ marked, marked = { store with
        flash := writeStatus store.flash (base n + sectorDirtyOffset) sectorStatusNum SectorDirtyStatus.dirtyGc.index } :=
      ⟨_, rfl⟩
    obtain ⟨area1, represents1, nodes1, collecting1⟩ := tidy.collecting request index dirty marked_
    have nonempty : (area n).nodes ≠ [] := by
      intro none
      rw [(tidy.sectors n index).fresh none] at dirty
      cases dirty
    have filled : (sector.header n (area n)).store ≠ .storeEmpty := by
      show (area n).storeStatus ≠ .storeEmpty
      rw [Ne, tidy.represents.filled n index]
      exact nonempty
    have rule := @envLoop_whole marked area1 n (sector.header n (area n)) Unit doGcEnv
      (fun area' store' _ passed left => Collecting area n area' store' passed left) (fun _ _ => False) index rfl filled
      (by
        intro area' store' _ before node after represents nodes collecting
        obtain ⟨store'', area'', before', done, rest⟩ := collect_entry index represents nodes collecting capacity
        exact ⟨false, store'', (), done, area'', before', rest⟩)
      () represents1 (nodes1 ▸ nonempty) (nodes1 ▸ collecting1)
    obtain ⟨stop, store2, ⟨⟩, looped, after⟩ := rule
    cases stop with
    | true => exact after.elim
    | false =>
        obtain ⟨area2, represents2, collecting2⟩ := after
        obtain ⟨store3, formatted, represents3, request3, complete3, recovered3, envCache3⟩ :=
          formatSector_eq represents2 n
        have fresh : Function.update area2 n .fresh n = Sector.fresh := Function.update_self n _ area2
        refine ⟨store3, Function.update area2 n .fresh, ?_, ⟨represents3, ?_, ?_, ⟨n, index, ?_⟩, ?_, ?_⟩, ?_, ?_, ?_, ?_⟩
        · rw [doGc, if_pos ⟨ok, .inl (status.trans dirty)⟩]
          have addr : (sector.header n (area n)).addr = base n := rfl
          rw [addr]
          dsimp only [Option.bind_eq_bind]
          rw [← marked_, looped]
          dsimp only [Option.bind_some]
          rw [formatted]
          rfl
        · rw [envCache3]
          exact collecting2.indexed.mono fun crc addr live_ => live_.elsewhere index collecting2.gone
        · intro i inside
          by_cases here : i = n
          · rw [here, fresh]
            exact .formatted
          · rw [Function.update_of_ne here]
            exact (collecting2.others i inside here).1
        · rw [fresh]
          decide
        · rw [recovered3, collecting2.recovered]
        · rw [complete3, collecting2.complete]
        · rw [request3, collecting2.request]
        · rw [contents_same index (by rw [collecting2.gone]; rfl), collecting2.same]
        · rw [fresh]
          decide
        · intro i inside different
          rw [Function.update_of_ne different]
          exact (collecting2.others i inside different).2

theorem Tidy.withRequest (tidy : Tidy store area) (gcRequest : Bool) : Tidy { store with gcRequest } area := by
  obtain ⟨⟨held, cached, known, filled⟩, indexed, sectors, spare, recovered, complete⟩ := tidy
  exact ⟨⟨held, cached, known, filled⟩, indexed, sectors, spare, recovered, complete⟩

theorem gcCheck (represents : Represents store area) :
    ∃ sector', sectorIterator sector .storeEmpty gcCheckCb false store 0 =
      some (sector', store, countStatus area .storeEmpty 4) := by
  let counted (n : Nat) (area' : Area) (store' : Store) (acc : Nat) : Prop :=
    area' = area ∧ store' = store ∧ acc = countStatus area .storeEmpty n
  have rule := @sectorIterator_rule store area sector _ .storeEmpty gcCheckCb counted
    (by
      rintro n area' store' acc - ⟨rfl, rfl, rfl⟩ - other
      refine ⟨rfl, rfl, ?_⟩
      rw [countStatus_succ, if_neg (Ne.symm other), Nat.add_zero])
    (by
      rintro n area' store' acc sector - represents ⟨rfl, rfl, rfl⟩ here
      have empty : (area' n).storeStatus = .storeEmpty := (here.resolve_left (by decide)).symm
      refine ⟨store', _, area', rfl, represents, rfl, rfl, ?_⟩
      rw [countStatus_succ, if_pos empty]
      rfl)
    0 represents ⟨rfl, rfl, rfl⟩
  obtain ⟨sector', store', acc', area', iterated, -, -, rfl, rfl⟩ := rule
  exact ⟨sector', iterated⟩

/-- Collecting garbage keeps what is in order; where it was due, no sector with
deleted entries is left. -/
theorem gcCollect_eq (tidy : Tidy store area) (request : store.gcRequest = true) (capacity : footprint (contents area) ≤ 4024) :
    ∃ store' area', gcCollect store = some store' ∧ Tidy store' area' ∧ store'.gcRequest = false ∧
      contents area' = contents area ∧
      (countStatus area .storeEmpty 4 ≤ gcEmptySecThreshold → ∀ i < 4, (area' i).dirtyStatus = .dirtyFalse) := by
  obtain ⟨sector', checked⟩ := @gcCheck store area .unread tidy.represents
  by_cases due : countStatus area .storeEmpty 4 ≤ gcEmptySecThreshold
  · let swept (n : Nat) (area' : Area) (store' : Store) (_ : Unit) : Prop :=
      Tidy store' area' ∧ store'.gcRequest = true ∧ contents area' = contents area ∧
        ∀ i < n, (area' i).dirtyStatus = .dirtyFalse
    have rule := @sectorIterator_rule store area sector' _ .storeUnused doGc swept
      (fun _ _ some _ => absurd rfl some)
      (by
        rintro n area' store' ⟨⟩ sector index - ⟨tidy, request, same, clean⟩ -
        obtain ⟨store'', area'', done, tidy', request', same', here, elsewhere⟩ :=
          @doGc_eq _ _ n sector tidy request index (same ▸ capacity)
        refine ⟨store'', (), area'', done, tidy'.represents, tidy', request', same'.trans same, fun i below => ?_⟩
        by_cases this : i = n
        · rw [this, here]
        · rw [Sector.dirtyStatus, elsewhere i (by omega) this]
          exact clean i (by omega))
      () tidy.represents ⟨tidy, request, rfl, fun i below => absurd below (Nat.not_lt_zero i)⟩
    obtain ⟨sector'', store', ⟨⟩, area', iterated, -, tidy', -, same, clean⟩ := rule
    refine ⟨{ store' with gcRequest := false }, area', ?_, tidy'.withRequest false, rfl, same, fun _ => clean⟩
    rw [gcCollect, checked]
    dsimp only [Option.bind_eq_bind, Option.bind_some]
    rw [if_pos due, iterated]
    rfl
  · refine ⟨{ store with gcRequest := false }, area, ?_, tidy.withRequest false, rfl, rfl, fun here => absurd here due⟩
    rw [gcCollect, checked]
    dsimp only [Option.bind_eq_bind, Option.bind_some]
    rw [if_neg due]

/-- Where it was due, it gives back every byte that nothing in order takes. -/
theorem gcCollect_reclaims (tidy : Tidy store area) (request : store.gcRequest = true)
    (capacity : footprint (contents area) ≤ 4024) :
    ∃ store' area', gcCollect store = some store' ∧ Tidy store' area' ∧ store'.gcRequest = false ∧
      contents area' = contents area ∧
      (countStatus area .storeEmpty 4 ≤ gcEmptySecThreshold →
        ∑ i ∈ Finset.range 4, (area' i).used = footprint (contents area)) := by
  obtain ⟨store', area', collected, tidy', request', same, clean⟩ := gcCollect_eq tidy request capacity
  refine ⟨store', area', collected, tidy', request', same, fun due => ?_⟩
  have used (i : Nat) (index : i < 4) : (area' i).used = footprint (live (area' i).nodes) := by
    rw [footprint_live ((tidy'.sectors i index).clean (clean due i index))]
    rfl
  rw [← same, contents]
  simp only [Finset.sum_range_succ, Finset.sum_range_zero, zero_add, footprint_add]
  rw [used 0 (by decide), used 1 (by decide), used 2 (by decide), used 3 (by decide)]

end Sectors

end SyrFilter.Ef
