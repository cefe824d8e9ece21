import SyrFilter.Ef.Setting

namespace SyrFilter.Ef

open SyrFilter.Lib

/-! # Starting

After a start nothing is left but the flash.  Sectors that have lost their
headers are formatted, the others keep their entries, and where every header is
lost the defaults are set.
-/

/-- A flash some of whose sectors have lost their headers. -/
structure Damaged (flash : Nor) (area : Area) (lost : Finset Nat) : Prop where
  within : lost ⊆ Finset.range 4
  magic : ∀ i ∈ lost, wordAt flash (base i + 4) ≠ sectorMagicWord
  held : ∀ i < 4, i ∉ lost → SectorAt flash (base i) (area i)

/-- What the start makes of it. -/
def mended (area : Area) (lost : Finset Nat) : Area := fun i => if i ∈ lost then .fresh else area i

section Headers

variable {store : Store} {flash : Nor} {area : Area} {lost : Finset Nat} {sector : SectorMeta} {cache : List SectorCacheNode}
  {n : Nat}

theorem readSectorMetaData_lost (lost : wordAt store.flash (base n + 4) ≠ sectorMagicWord) :
    ∃ sector', readSectorMetaData store (base n) sector false = some (sector', false, store) ∧ sector'.checkOk = false ∧
      sector'.addr = base n ∧ sector'.combined = sectorNotCombined := by
  have start : base n % sectorSize = 0 := by
    rw [base]
    exact Nat.mul_mod_left n sectorSize
  rw [readSectorMetaData, if_neg (by simp [start]), if_pos lost]
  exact ⟨_, rfl, rfl, rfl, rfl⟩

theorem checkSecHdrCb_lost (failed : sector.checkOk = false) (addr : sector.addr = base n) (failedCount : Nat) :
    checkSecHdrCb sector store failedCount =
      some (false,
        { store with
          flash := (store.flash.erase (base n) sectorSize).program (base n) (sectorHdrBytes sectorNotCombined)
          sectorCache := updateSectorCache store.sectorCache (base n) (base n + sectorSize) },
        failedCount + 1) := by
  rw [checkSecHdrCb, failed, if_neg Bool.false_ne_true, addr, formatSector_base]
  rfl

theorem card_below_succ :
    (lost.filter (· < n + 1)).card = (lost.filter (· < n)).card + if n ∈ lost then 1 else 0 := by
  by_cases member : n ∈ lost
  · have more : lost.filter (· < n + 1) = insert n (lost.filter (· < n)) := by
      ext i
      simp only [Finset.mem_filter, Finset.mem_insert]
      grind
    rw [more, Finset.card_insert_of_notMem (by simp), if_pos member]
  · have same : lost.filter (· < n + 1) = lost.filter (· < n) := by
      ext i
      simp only [Finset.mem_filter]
      grind
    rw [same, if_neg member, Nat.add_zero]

/-- The headers have been checked up to a sector. -/
structure Checked (store : Store) (area : Area) (lost : Finset Nat) (n : Nat) (flash : Nor)
    (cache : List SectorCacheNode) : Prop where
  done : ∀ i < n, SectorAt flash (base i) (mended area lost i)
  rest : ∀ cell, base n ≤ cell → flash cell = store.flash cell
  cached : SectorCached cache fun _ _ => False

/-- A lost sector is formatted. -/
theorem Checked.formatted (checked : Checked store area lost n flash cache) (member : n ∈ lost) :
    Checked store area lost (n + 1) ((flash.erase (base n) sectorSize).program (base n) (sectorHdrBytes sectorNotCombined))
      (updateSectorCache cache (base n) (base n + sectorSize)) where
  done i below := by
    by_cases here : i = n
    · rw [here, mended, if_pos member]
      exact formatted_holds
    · apply (checked.done i (by omega)).congr
      intro cell above under
      have early : base i + 4096 ≤ base n := by
        rw [base, base, sectorSize]
        omega
      exact formatted_outside (by omega)
  rest cell above := by
    have passed : base n + 4096 = base (n + 1) := (Nat.succ_mul n sectorSize).symm
    rw [formatted_outside (by omega), checked.rest cell (by omega)]
  cached := checked.cached.update (fun _ below => absurd below (Nat.lt_irrefl _)) fun _ _ _ never => never

/-- Any other is as it was. -/
theorem Checked.kept (checked : Checked store area lost n flash cache) (damaged : Damaged store.flash area lost)
    (index : n < 4) (kept : n ∉ lost) :
    SectorAt flash (base n) (area n) ∧ Checked store area lost (n + 1) flash cache := by
  have at_ : SectorAt flash (base n) (area n) :=
    (damaged.held n index kept).congr fun cell above _ => checked.rest cell above
  have passed : base n + 4096 = base (n + 1) := (Nat.succ_mul n sectorSize).symm
  refine ⟨at_, fun i below => ?_, fun cell above => checked.rest cell (by omega), checked.cached⟩
  by_cases here : i = n
  · rw [here, mended, if_neg kept]
    exact at_
  · exact checked.done i (by omega)

/-- One header is checked. -/
theorem checkSecHdr_step (damaged : Damaged store.flash area lost) (index : n < 4)
    (checked : Checked store area lost n flash cache) (count : Nat) (sector : SectorMeta) :
    ∃ sector' flash' cache',
      sectorLoop .storeUnused checkSecHdrCb false (count + 1) (some (base n)) sector
          { store with flash := flash, sectorCache := cache } (lost.filter (· < n)).card =
        sectorLoop .storeUnused checkSecHdrCb false count (if n + 1 < 4 then some (base (n + 1)) else none) sector'
          { store with flash := flash', sectorCache := cache' } (lost.filter (· < n + 1)).card ∧
      Checked store area lost (n + 1) flash' cache' := by
  have next : ∀ sector' : SectorMeta, sector'.addr = base n → sector'.combined = sectorNotCombined →
      getNextSectorAddr sector' = if n + 1 < 4 then some (base (n + 1)) else none :=
    fun sector' addr combined => getNextSectorAddr_eq addr combined
  have counted := @card_below_succ lost n
  rw [sectorLoop]
  by_cases member : n ∈ lost
  · have magic : wordAt flash (base n + 4) ≠ sectorMagicWord := by
      have rest := checked.rest
      have same : wordAt flash (base n + 4) = wordAt store.flash (base n + 4) := by
        rw [wordAt, wordAt, rest _ (by omega), rest _ (by omega), rest _ (by omega), rest _ (by omega)]
      rw [same]
      exact damaged.magic n member
    obtain ⟨sector', read, failed, addr, combined⟩ :=
      @readSectorMetaData_lost { store with flash := flash, sectorCache := cache } sector n magic
    refine ⟨sector', _, _, ?_, checked.formatted member⟩
    rw [read]
    dsimp only [Option.bind_eq_bind, Option.bind_some]
    rw [if_pos (.inl rfl), if_neg Bool.false_ne_true, checkSecHdrCb_lost failed addr]
    dsimp only [Option.bind_some]
    rw [if_pos member] at counted
    rw [if_neg Bool.false_ne_true, next sector' addr combined, counted]
  · obtain ⟨at_, checked'⟩ := checked.kept damaged index member
    refine ⟨sector.header n (area n), flash, cache, ?_, checked'⟩
    have ok : (sector.header n (area n)).checkOk = true := rfl
    rw [at_.readHeader]
    dsimp only [Option.bind_eq_bind, Option.bind_some]
    rw [if_pos (.inl rfl), if_neg Bool.false_ne_true, checkSecHdrCb, if_pos ok]
    dsimp only [Option.bind_some]
    simp only [if_neg member, add_zero] at counted
    rw [if_neg Bool.false_ne_true, next _ rfl rfl, counted]

/-- The check of the sector headers. -/
theorem checkSecHdr (damaged : Damaged store.flash area lost) (cached : SectorCached store.sectorCache fun _ _ => False) :
    ∃ sector' flash cache,
      sectorIterator sector .storeUnused checkSecHdrCb false store 0 =
          some (sector', { store with flash := flash, sectorCache := cache }, lost.card) ∧
        Held flash (mended area lost) ∧ SectorCached cache fun _ _ => False := by
  have loop (count : Nat) : ∀ (n : Nat) (sector : SectorMeta) (flash : Nor) (cache : List SectorCacheNode),
      n + count = 4 → Checked store area lost n flash cache →
      ∃ sector' flash' cache',
        sectorLoop .storeUnused checkSecHdrCb false count (if n < 4 then some (base n) else none) sector
            { store with flash := flash, sectorCache := cache } (lost.filter (· < n)).card =
          some (sector', { store with flash := flash', sectorCache := cache' }, lost.card) ∧
        Held flash' (mended area lost) ∧ SectorCached cache' fun _ _ => False := by
    induction count with
    | zero =>
        rintro n sector flash cache rfl checked
        have all : lost.filter (· < 4) = lost :=
          Finset.filter_true_of_mem fun i member => Finset.mem_range.mp (damaged.within member)
        refine ⟨sector, flash, cache, ?_, checked.done, checked.cached⟩
        rw [if_neg (by omega), sectorLoop]
        exact congrArg (fun lost : Finset Nat => some (sector, _, lost.card)) all
    | succ count ih =>
        intro n sector flash cache total checked
        have index : n < 4 := by omega
        obtain ⟨sector', flash', cache', step, checked'⟩ := checkSecHdr_step damaged index checked count sector
        rw [if_pos index, step]
        exact ih (n + 1) sector' flash' cache' (by omega) checked'
  have initial : Checked store area lost 0 store.flash store.sectorCache :=
    ⟨fun i below => absurd below (Nat.not_lt_zero i), fun _ _ => rfl, cached⟩
  have start := loop 4 0 sector store.flash store.sectorCache rfl initial
  rw [Finset.filter_false_of_mem fun i _ => Nat.not_lt_zero i] at start
  exact start

end Headers

section Recovery

variable {store : Store} {area : Area} {sector : SectorMeta}

/-- No sector is being collected. -/
theorem recoveryGc_eq (represents : Represents store area) (sectors : ∀ i < 4, (area i).Tidy) :
    ∃ sector', sectorIterator sector .storeUnused checkAndRecoveryGcCb false store () = some (sector', store, ()) := by
  obtain ⟨sector', store', ⟨⟩, area', iterated, -, -, rfl⟩ :=
    @sectorIterator_rule store area sector _ .storeUnused checkAndRecoveryGcCb
      (fun _ area' store' _ => area' = area ∧ store' = store) (fun _ _ some _ => absurd rfl some)
      (by
        rintro n area' store' ⟨⟩ sector index represents ⟨rfl, rfl⟩ -
        refine ⟨store', (), area', ?_, represents, rfl, rfl⟩
        have status : (sector.header n (area' n)).dirty = (area' n).dirtyStatus := rfl
        rw [checkAndRecoveryGcCb, status]
        rcases (sectors n index).dirty with clean | dirty
        · rw [clean, if_neg (by simp)]
        · rw [dirty, if_neg (by simp)])
      () represents ⟨rfl, rfl⟩
  exact ⟨sector', iterated⟩

/-- No entry is half written or half deleted. -/
theorem recoveryEnv_eq (represents : Represents store area) (sectors : ∀ i < 4, (area i).Tidy) :
    envIterator checkAndRecoveryEnvCb store () = some (store, ()) := by
  let same (area' : Area) (store' : Store) : Prop := area' = area ∧ store' = store
  have rule := @envIterator_rule store area _ checkAndRecoveryEnvCb (fun _ area' store' _ => same area' store')
    (fun _ _ => False) (fun _ same _ => same)
    (by
      rintro n area' store' ⟨⟩ sector index represents ⟨rfl, rfl⟩ nodes addr filled
      have loop := @envLoop_whole store' area' n sector Unit checkAndRecoveryEnvCb
        (fun area' store' _ _ _ => same area' store') (fun _ _ => False) index addr filled
        (by
          rintro area'' store'' ⟨⟩ before node after represents split ⟨rfl, rfl⟩
          refine ⟨false, store'', (), ?_, area'', before ++ [node], represents, by simp [split], by simp, rfl, rfl⟩
          have status : (node.object (base n + 16 + size before)).status = node.status := rfl
          rw [checkAndRecoveryEnvCb, status]
          rcases (sectors n index).statuses node (by simp [split]) with written | deleted
          · rw [written, if_neg (by simp), if_neg (by simp)]
          · rw [deleted, if_neg (by simp), if_neg (by simp)])
        () represents nodes ⟨rfl, rfl⟩
      obtain ⟨stop, store'', ⟨⟩, looped, after⟩ := loop
      exact ⟨stop, store'', (), looped, after⟩)
    () represents ⟨rfl, rfl⟩
  obtain ⟨store', ⟨⟩, iterated, never | ⟨area', -, -, rfl⟩⟩ := rule
  · exact never.elim
  · exact iterated

theorem recover_eq (represents : Represents store area) (sectors : ∀ i < 4, (area i).Tidy)
    (request : store.gcRequest = false) (fuel : Nat) : recover (fuel + 1) store = some store := by
  rw [recover, recoveryEnv_eq represents sectors]
  dsimp only [Option.bind_eq_bind, Option.bind_some]
  rw [if_neg (by simp [request])]

/-- The rest of `ef_load_env` changes nothing. -/
theorem recovered_eq (represents : Represents store area) (sectors : ∀ i < 4, (area i).Tidy)
    (request : store.gcRequest = false) (fuel : Nat) :
    ∃ sector', sectorIterator sector .storeUnused checkAndRecoveryGcCb false store () = some (sector', store, ()) ∧
      recover (fuel + 1) store = some store := by
  obtain ⟨sector', iterated⟩ := @recoveryGc_eq store area sector represents sectors
  exact ⟨sector', iterated, recover_eq represents sectors request fuel⟩

end Recovery

section Start

variable {store : Store} {area : Area} {flash : Nor} {lost : Finset Nat}

/-- The store of a start, before the flash is looked at. -/
def started (flash : Nor) : Store where
  flash := flash
  gcRequest := false
  lastIsCompleteDel := false
  inRecoveryCheck := true
  sectorCache := List.replicate 4 ⟨none, 0⟩
  envCache := List.replicate envCacheTableSize ⟨0, 0, none⟩

theorem sectorCached_started : SectorCached (started flash).sectorCache fun _ _ => False := by
  constructor
  · exact List.pairwise_replicate.mpr (.inr fun addr same => by cases same)
  · intro node member addr same
    rw [List.eq_of_mem_replicate member] at same
    cases same

theorem envCached_started : EnvCached (started flash).envCache fun _ _ => False := by
  constructor
  · exact List.pairwise_replicate.mpr (.inr fun _ => rfl)
  · intro node member addr same
    rw [List.eq_of_mem_replicate member] at same
    cases same

theorem efLoadEnv_of {defaults : List (List UInt8 × List UInt8)} {fuel failedCount : Nat} {sector sector' : SectorMeta}
    {store1 store2 : Store}
    (checked : sectorIterator .unread .storeUnused checkSecHdrCb false { store with inRecoveryCheck := true } 0 =
      some (sector, store1, failedCount))
    (set : (if failedCount = sectorNum then efEnvSetDefault defaults store1 else some store1) = some store2)
    (collected : sectorIterator sector .storeUnused checkAndRecoveryGcCb false store2 () = some (sector', store2, ()))
    (recovered : recover fuel store2 = some store2) :
    efLoadEnv fuel defaults store = some { store2 with inRecoveryCheck := false } := by
  rw [efLoadEnv, checked]
  dsimp only [Option.bind_eq_bind, Option.bind_some]
  by_cases all : failedCount = sectorNum
  · rw [if_pos all] at set ⊢
    rw [set]
    dsimp only [Option.bind_some]
    rw [collected]
    dsimp only [Option.bind_some]
    rw [recovered]
    rfl
  · rw [if_neg all] at set ⊢
    rw [Option.some.inj set, collected]
    dsimp only [Option.bind_some]
    rw [recovered]
    rfl

theorem fresh_storeStatus : Sector.fresh.storeStatus = .storeEmpty := by decide

theorem mended_tidy (sectors : ∀ i < 4, i ∉ lost → (area i).Tidy) : ∀ i < 4, (mended area lost i).Tidy := by
  intro i index
  rw [mended]
  split
  · exact .formatted
  · exact sectors i index ‹_›

theorem mended_empty : mended area ∅ = area := by
  funext i
  rw [mended, if_neg (Finset.notMem_empty i)]

/-- Starting again keeps every entry but those in sectors that have lost their
headers since. -/
theorem efEnvInit_mended (tidy : Tidy store area) (within : lost ⊆ Finset.range 4) (some_ : lost.card < 4)
    (magic : ∀ i ∈ lost, wordAt flash (base i + 4) ≠ sectorMagicWord)
    (same : ∀ i < 4, i ∉ lost → ∀ cell, base i ≤ cell → cell < base i + 4096 → flash cell = store.flash cell)
    (fuel : Nat) :
    ∃ store', efEnvInit (fuel + 1) flash = some store' ∧ Tidy store' (mended area lost) ∧ store'.gcRequest = false := by
  obtain ⟨represents, -, sectors, spare, -, -⟩ := tidy
  have damaged : Damaged (started flash).flash area lost :=
    ⟨within, magic, fun i index kept => (represents.held i index).congr (same i index kept)⟩
  obtain ⟨sector', flash', cache, checked, held, cached⟩ := @checkSecHdr (started flash) area lost .unread damaged
    sectorCached_started
  obtain ⟨store1, store1_⟩ : ∃ store1, store1 = { started flash with flash := flash', sectorCache := cache } := ⟨_, rfl⟩
  have sectors' := @mended_tidy area lost fun i index _ => sectors i index
  have represents1 : Represents store1 (mended area lost) := by
    rw [store1_]
    refine ⟨held, cached.mono fun _ _ never => never.elim, ?_, ?_⟩
    · intro i index
      rw [mended]
      split
      · rw [fresh_storeStatus]
        decide
      · exact represents.known i index
    · intro i index
      rw [mended]
      split
      · exact ⟨fun _ => rfl, fun _ => fresh_storeStatus⟩
      · exact represents.filled i index
  have request1 : store1.gcRequest = false := by rw [store1_, started]
  obtain ⟨sector'', collected, recovered⟩ := @recovered_eq store1 _ sector' represents1 sectors' request1 fuel
  rw [← store1_] at checked
  have few : ¬lost.card = sectorNum := by
    rw [sectorNum]
    omega
  refine ⟨{ store1 with inRecoveryCheck := false }, efLoadEnv_of checked (if_neg few) collected recovered,
    ⟨?_, ?_, sectors', ?_, rfl, ?_⟩, request1⟩
  · exact ⟨represents1.held, represents1.cached, represents1.known, represents1.filled⟩
  · rw [store1_]
    exact (@envCached_started flash).mono fun _ _ never => never.elim
  · obtain ⟨i, index, empty⟩ := spare
    refine ⟨i, index, ?_⟩
    rw [mended]
    split
    · exact fresh_storeStatus
    · exact empty
  · rw [store1_, started]

/-! ## The first start -/

theorem formatAll_eq (represents : Represents store fun _ => .fresh) :
    ∃ store', formatAll store = some store' ∧ Represents store' (fun _ => .fresh) ∧ store'.gcRequest = store.gcRequest ∧
      store'.lastIsCompleteDel = store.lastIsCompleteDel ∧ store'.envCache = store.envCache := by
  have loop (indices : List Nat) : ∀ store : Store, Represents store (fun _ => .fresh) →
      ∃ store', indices.foldlM
            (fun store index => formatSector store (envStartAddr + index * sectorSize) sectorNotCombined) store = some store' ∧
        Represents store' (fun _ => .fresh) ∧ store'.gcRequest = store.gcRequest ∧
        store'.lastIsCompleteDel = store.lastIsCompleteDel ∧ store'.envCache = store.envCache := by
    induction indices with
    | nil => exact fun store represents => ⟨store, rfl, represents, rfl, rfl, rfl⟩
    | cons index rest ih =>
        intro store represents
        obtain ⟨store1, formatted, represents1, request1, complete1, -, envCache1⟩ := formatSector_eq represents index
        rw [Function.update_eq_self_iff.mpr rfl] at represents1
        obtain ⟨store2, looped, represents2, request2, complete2, envCache2⟩ := ih store1 represents1
        have addr : envStartAddr + index * sectorSize = base index := by rw [envStartAddr, Nat.zero_add, base]
        refine ⟨store2, ?_, represents2, request2.trans request1, complete2.trans complete1, envCache2.trans envCache1⟩
        rw [List.foldlM_cons, addr, formatted]
        exact looped
  exact loop _ store represents

/-- The value of `boot_times` is set. -/
theorem efEnvSetDefault_eq (represents : Represents store fun _ => .fresh) (request : store.gcRequest = false)
    (envCache : EnvCached store.envCache fun _ _ => False) :
    ∃ store' area', efEnvSetDefault defaultEnvSet store = some store' ∧ Represents store' area' ∧
      (∀ i < 4, (area' i).Tidy) ∧ (∃ i < 4, (area' i).storeStatus = .storeEmpty) ∧
      EnvCached store'.envCache (LiveAt area') ∧ store'.gcRequest = false ∧
      store'.lastIsCompleteDel = store.lastIsCompleteDel ∧ contents area' = defaultEnvSet := by
  obtain ⟨key, value, defaults, short, size⟩ : ∃ key value, defaultEnvSet = [(key, value)] ∧ key.length ≤ envNameMax ∧
      envLen key value < 4080 := ⟨_, _, rfl, by decide, by decide⟩
  obtain ⟨store1, formatted, represents1, request1, complete1, envCache1⟩ := formatAll_eq represents
  obtain ⟨area, area_⟩ : ∃ area : Area, area = fun _ => Sector.fresh := ⟨_, rfl⟩
  have fresh (i : Nat) : area i = .fresh := by rw [area_]
  rw [← area_] at represents1
  have used (i : Nat) : (area i).used = 0 := by
    rw [fresh]
    rfl
  have several : gcEmptySecThreshold < countStatus area .storeEmpty 4 := by
    rw [area_]
    decide
  have empty (i : Nat) : (area i).storeStatus = .storeEmpty := by rw [fresh, fresh_storeStatus]
  obtain ⟨j, index, store2, suits, -, allocated, searched⟩ :=
    @allocEnv_some store1 area .unread (envLen key value) represents1
      (.inr ⟨⟨0, by decide, empty 0, by rw [used]; exact size, .inl (by rw [fresh]; decide)⟩, .inl several⟩)
  have made : newEnv store1 .unread (envLen key value) = some (some (free area j), (area j).object j, store2) := by
    rw [newEnv, allocated]
    dsimp only [Option.bind_eq_bind, Option.bind_some]
    rw [if_neg (by simp)]
  obtain ⟨store3, created_, represents3, request3, -, complete3, envCache3⟩ :=
    @createEnvBlob_eq store2 area ((area j).object j) key value j searched.represents index (.inr (empty j)) suits.1 short rfl
  have notFull : ¬(area j).Fills (envLen key value) := by simp [Sector.Fills, empty]
  refine ⟨store3, Function.update area j ((area j).put key value), ?_, represents3, ?_, ?_, ?_, ?_, ?_, ?_⟩
  · rw [efEnvSetDefault, formatted, defaults]
    dsimp only [Option.bind_eq_bind, Option.bind_some]
    show ((createEnvBlob store1 .unread key value).bind fun created => some created.2).bind some = some store3
    rw [createEnvBlob_of_newEnv rfl made rfl short (by omega), created_]
    rfl
  · intro i below
    by_cases here : i = j
    · rw [here, Function.update_self, fresh]
      exact Sector.Tidy.formatted.put (.inr fresh_storeStatus) key value
    · rw [Function.update_of_ne here, fresh]
      exact .formatted
  · obtain ⟨i, below, apart, empty⟩ := other_of_countStatus several j
    exact ⟨i, below, by rwa [Function.update_of_ne apart]⟩
  · rw [envCache3, searched.envCache, envCache1]
    apply envCache.update
    · intro place there
      rw [← Option.some.inj there]
      exact LiveAt.new index key value
    · exact fun _ _ _ never => never.elim
  · rw [request3 notFull, searched.gcRequest, request1, request]
  · rw [complete3, searched.lastIsCompleteDel, complete1]
  · have none : contents area = 0 := by
      rw [area_, contents]
      exact Finset.sum_eq_zero fun i _ => rfl
    rw [contents_put index, none, defaults]
    rfl

/-- The start of a flash without any sector header sets the defaults. -/
theorem efEnvInit_blank (magic : ∀ i < 4, wordAt flash (base i + 4) ≠ sectorMagicWord) (fuel : Nat) :
    ∃ store' area', efEnvInit (fuel + 1) flash = some store' ∧ Tidy store' area' ∧ store'.gcRequest = false ∧
      contents area' = defaultEnvSet := by
  have damaged : Damaged (started flash).flash (fun _ => .fresh) (Finset.range 4) :=
    ⟨Finset.Subset.refl _, fun i member => magic i (Finset.mem_range.mp member),
      fun i index kept => absurd (Finset.mem_range.mpr index) kept⟩
  obtain ⟨sector', flash', cache, checked, held, cached⟩ :=
    @checkSecHdr (started flash) (fun _ => .fresh) (Finset.range 4) .unread damaged sectorCached_started
  obtain ⟨store1, store1_⟩ : ∃ store1, store1 = { started flash with flash := flash', sectorCache := cache } := ⟨_, rfl⟩
  have mended_ : mended (fun _ => .fresh) (Finset.range 4) = fun _ => .fresh := by
    funext i
    rw [mended]
    split <;> rfl
  rw [mended_] at held
  have represents1 : Represents store1 fun _ => .fresh := by
    rw [store1_]
    exact ⟨held, cached.mono fun _ _ never => never.elim, fun _ _ => by rw [fresh_storeStatus]; decide,
      fun _ _ => ⟨fun _ => rfl, fun _ => fresh_storeStatus⟩⟩
  obtain ⟨store2, area', set, represents2, sectors, spare, indexed, request2, complete2, same⟩ :=
    efEnvSetDefault_eq represents1 (by rw [store1_, started]) (by
      rw [store1_]
      exact @envCached_started flash)
  obtain ⟨sector'', collected, recovered⟩ := @recovered_eq store2 _ sector' represents2 sectors request2 fuel
  rw [← store1_] at checked
  refine ⟨{ store2 with inRecoveryCheck := false }, area', efLoadEnv_of checked ?_ collected recovered,
    ⟨?_, indexed, sectors, spare, rfl, ?_⟩, request2, same⟩
  · rw [if_pos (by decide)]
    exact set
  · exact ⟨represents2.held, represents2.cached, represents2.known, represents2.filled⟩
  · rw [complete2, store1_, started]

theorem magic_erased : ∀ i < 4, wordAt (fun _ => 0xFF) (base i + 4) ≠ sectorMagicWord := by
  intro i _
  have blank : Nor.Blank (fun _ => 0xFF) (base i + 4) (base i + 4 + 4) := fun _ _ _ => rfl
  rw [blank.wordAt]
  decide

/-! ## A flash for every area in order -/

/-- A sector as it lies in flash, up to the blank behind its entries. -/
def Sector.image (sector : Sector) : List UInt8 :=
  [sector.store, sector.dirty, 0xFF, 0xFF] ++ (leBytes sectorMagicWord ++ (leBytes sectorNotCombined ++
    (List.replicate 4 0xFF ++ sector.nodes.flatMap Node.bytes)))

/-- The flash that holds an area. -/
def imaged (area : Area) : Nor := fun cell => (area (cell / sectorSize)).image.getD (cell % sectorSize) 0xFF

theorem length_image (sector : Sector) : sector.image.length = 16 + sector.used := by
  have words (word : UInt32) : (leBytes word).length = 4 := rfl
  rw [Sector.image]
  simp only [List.length_append, List.length_cons, List.length_nil, List.length_replicate, length_flatMap_bytes, words]
  rw [Sector.used]
  omega

theorem imaged_cell {area : Area} {i offset : Nat} (inside : offset < 4096) :
    imaged area (base i + offset) = (area i).image.getD offset 0xFF := by
  have whole : (base i + offset) / sectorSize = i := by
    rw [base, sectorSize]
    omega
  have part : (base i + offset) % sectorSize = offset := by
    rw [base, sectorSize]
    omega
  rw [imaged, whole, part]

theorem held_imaged {area : Area} (room : ∀ i < 4, (area i).used ≤ 4080)
    (fits : ∀ i < 4, ∀ node ∈ (area i).nodes, node.Fits) : Held (imaged area) area := by
  intro i index
  have length := length_image (area i)
  have small := room i index
  have image : (imaged area).Holds (base i) (area i).image := by
    refine Nor.holds_iff.mpr fun offset inside => ?_
    rw [imaged_cell (by omega), List.getD_eq_getElem _ _ inside]
  rw [Sector.image] at image
  simp only [Nor.holds_append, Nat.add_assoc] at image
  obtain ⟨statuses, magic, combined, -, nodes⟩ := image
  obtain ⟨store, dirty, -⟩ := (Nor.holds_cons.mp statuses).imp id Nor.holds_cons.mp
  refine ⟨store, dirty, magic, combined, nodes, fun cell above below => ?_, small, fits i index⟩
  obtain ⟨offset, rfl⟩ : ∃ offset, cell = base i + offset := ⟨cell - base i, by omega⟩
  rw [imaged_cell (by omega)]
  exact List.getD_eq_default _ _ (by omega)

/-- Every area in order is that of some store. -/
theorem tidy_imaged {area : Area} (room : ∀ i < 4, (area i).used ≤ 4080)
    (fits : ∀ i < 4, ∀ node ∈ (area i).nodes, node.Fits) (known : ∀ i < 4, (area i).storeStatus ≠ .storeUnused)
    (filled : ∀ i < 4, (area i).storeStatus = .storeEmpty ↔ (area i).nodes = []) (sectors : ∀ i < 4, (area i).Tidy)
    (spare : ∃ i < 4, (area i).storeStatus = .storeEmpty) :
    Tidy { started (imaged area) with inRecoveryCheck := false } area where
  represents := ⟨held_imaged room fits, (@sectorCached_started (imaged area)).mono fun _ _ never => never.elim, known, filled⟩
  indexed := (@envCached_started (imaged area)).mono fun _ _ never => never.elim
  sectors := sectors
  spare := spare
  recovered := rfl
  complete := rfl

/-! ## Collecting from full sectors -/

def fullTable : UInt8 :=
  moved SectorStoreStatus.storeFull.index (moved SectorStoreStatus.storeUsing.index Sector.fresh.store)

def dirtyTable : UInt8 := moved SectorDirtyStatus.dirtyTrue.index Sector.fresh.dirty

/-- An entry of one name and some equal bytes. -/
def entry (name : UInt8) (count : Nat) (byte : UInt8) : Node := ⟨writtenTable, [name], List.replicate count byte⟩

theorem entry_len (name : UInt8) (count : Nat) (byte : UInt8) : (entry name count byte).len = 25 + count := by
  rw [Node.len, envLen, entry, List.length_replicate]
  rfl

theorem entry_fits {count : Nat} (small : count ≤ 4055) (name byte : UInt8) : (entry name count byte).Fits where
  key := show 1 ≤ envNameMax by decide
  len := by
    rw [entry_len, sectorSize, sectorHdrDataSize]
    omega

theorem entry_status (name : UInt8) (count : Nat) (byte : UInt8) : (entry name count byte).status = .write :=
  show EnvStatus.ofIndex (getStatus [writtenTable] envStatusNum) = .write by decide

theorem entry_gone (name : UInt8) (count : Nat) (byte : UInt8) : (entry name count byte).gone.status = .deleted :=
  Node.gone_status (entry_status ..)

theorem Node.gone_len (node : Node) : node.gone.len = node.len := rfl

theorem Node.Fits.gone {node : Node} (fits : node.Fits) : node.gone.Fits := (fits.moved _).moved _

/-- Two sectors full of deleted entries, with one that lives among them, one in use and the empty one. -/
def spoiled : Area
  | 0 => ⟨fullTable, dirtyTable, [(entry 97 3900 0).gone, entry 98 100 1]⟩
  | 1 => ⟨fullTable, dirtyTable, [(entry 97 4000 0).gone]⟩
  | 2 => ⟨moved SectorStoreStatus.storeUsing.index Sector.fresh.store, Sector.fresh.dirty, [entry 97 4 2]⟩
  | _ => .fresh

theorem spoiled_used : (spoiled 0).used = 4050 ∧ (spoiled 1).used = 4025 ∧ (spoiled 2).used = 29 := by
  refine ⟨?_, ?_, ?_⟩
  · show size [(entry 97 3900 0).gone, entry 98 100 1] = 4050
    rw [size_cons, size_cons, size_nil, Node.gone_len, entry_len, entry_len]
  · show size [(entry 97 4000 0).gone] = 4025
    rw [size_cons, size_nil, Node.gone_len, entry_len]
  · show size [entry 97 4 2] = 29
    rw [size_cons, size_nil, entry_len]

theorem spoiled_sectors : ∀ i < 4, (spoiled i).Tidy := by
  obtain ⟨first, second, third⟩ := spoiled_used
  intro i index
  interval_cases i
  · refine ⟨?_, .inr (by decide), fun clean => absurd clean (by decide), fun _ => by omega, nofun⟩
    exact List.forall_mem_cons.mpr ⟨.inr (entry_gone ..), List.forall_mem_singleton.mpr (.inl (entry_status ..))⟩
  · refine ⟨?_, .inr (by decide), fun clean => absurd clean (by decide), fun _ => by omega, nofun⟩
    exact List.forall_mem_singleton.mpr (.inr (entry_gone ..))
  · refine ⟨?_, .inl (by decide), fun _ => ?_, fun full => absurd full (by decide), nofun⟩
    · exact List.forall_mem_singleton.mpr (.inl (entry_status ..))
    · exact List.forall_mem_singleton.mpr (entry_status ..)
  · exact .formatted

theorem spoiled_tidy : Tidy { started (imaged spoiled) with inRecoveryCheck := false } spoiled := by
  obtain ⟨first, second, third⟩ := spoiled_used
  refine tidy_imaged ?_ ?_ (by decide) (fun i index => ?_) spoiled_sectors ⟨3, by decide, by decide⟩
  · intro i index
    interval_cases i
    · omega
    · omega
    · omega
    · decide
  · intro i index
    interval_cases i
    · refine List.forall_mem_cons.mpr ⟨(entry_fits ?_ ..).gone, List.forall_mem_singleton.mpr (entry_fits ?_ ..)⟩ <;> decide
    · exact List.forall_mem_singleton.mpr (entry_fits (by decide) ..).gone
    · exact List.forall_mem_singleton.mpr (entry_fits (by decide) ..)
    · exact List.forall_mem_nil _
  · interval_cases i
    · exact iff_of_false (by decide) nofun
    · exact iff_of_false (by decide) nofun
    · exact iff_of_false (by decide) nofun
    · exact iff_of_true (by decide) rfl

theorem spoiled_footprint : footprint (contents spoiled) = 154 := by
  have first : live (spoiled 0).nodes = ([98], List.replicate 100 1) ::ₘ 0 := by
    show live [(entry 97 3900 0).gone, entry 98 100 1] = _
    rw [live_cons, live_cons, live_nil, if_neg (by rw [entry_gone]; decide), if_pos (entry_status ..)]
    rfl
  have second : live (spoiled 1).nodes = 0 := by
    show live [(entry 97 4000 0).gone] = _
    rw [live_cons, live_nil, if_neg (by rw [entry_gone]; decide)]
  have third : live (spoiled 2).nodes = ([97], List.replicate 4 2) ::ₘ 0 := by
    show live [entry 97 4 2] = _
    rw [live_cons, live_nil, if_pos (entry_status ..)]
    rfl
  have none : live (spoiled 3).nodes = 0 := live_nil
  rw [contents]
  simp only [Finset.sum_range_succ, Finset.sum_range_zero, first, second, third, none, footprint_add, footprint_cons]
  simp [footprint, envLen, envHdrDataSize]

/-- With one empty sector left, the two full ones are collected: 154 bytes of 8104 stay taken. -/
theorem gcCollect_reclaims_spoiled :
    (spoiled 0).dirtyStatus = .dirtyTrue ∧ countStatus spoiled .storeEmpty 4 = 1 ∧
      ∃ store' area',
        gcCollect { started (imaged spoiled) with inRecoveryCheck := false, gcRequest := true } = some store' ∧
          Tidy store' area' ∧ contents area' = contents spoiled ∧ ∑ i ∈ Finset.range 4, (area' i).used = 154 := by
  have taken := spoiled_footprint
  refine ⟨by decide, by decide, ?_⟩
  obtain ⟨store', area', collected, tidy, -, same, reclaimed⟩ :=
    gcCollect_reclaims (spoiled_tidy.withRequest true) rfl (by omega)
  exact ⟨store', area', collected, tidy, same, (reclaimed (by decide)).trans taken⟩

end Start

end SyrFilter.Ef
