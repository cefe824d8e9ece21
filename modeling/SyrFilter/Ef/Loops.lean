import SyrFilter.Ef.Area

namespace SyrFilter.Ef

open SyrFilter.Lib

/-! # The loops over the area

The loops of the engine go over bytes; on a flash that holds an area they are
walks along its sectors and entries.  Each loop has one rule here.
-/

/-- The flash holds the area, what the sector cache knows of it is right, and
exactly the sectors without an entry are marked empty. -/
structure Represents (store : Store) (area : Area) : Prop where
  held : Held store.flash area
  cached : SectorCached store.sectorCache (EmptyAt area)
  known : ∀ i < 4, (area i).storeStatus ≠ .storeUnused
  filled : ∀ i < 4, (area i).storeStatus = .storeEmpty ↔ (area i).nodes = []

/-- The object of a sector, but for what a traversal finds. -/
def SectorMeta.header (sector : SectorMeta) (index : Nat) (held : Sector) : SectorMeta :=
  { sector with
    checkOk := true
    store := held.storeStatus
    dirty := held.dirtyStatus
    addr := base index
    magic := sectorMagicWord
    combined := sectorNotCombined }

/-- The object of a sector that takes entries, once it has been traversed. -/
def Sector.object (index : Nat) (held : Sector) : SectorMeta where
  checkOk := true
  store := held.storeStatus
  dirty := held.dirtyStatus
  addr := base index
  magic := sectorMagicWord
  combined := sectorNotCombined
  remain := 4080 - held.used
  emptyEnv := some (base index + 16 + held.used)

/-- A loop over the entries of a sector has come to a position. -/
def Behind (base : Nat) (preEnv : Option EnvNode) (position : Nat) : Prop :=
  match preEnv with
  | none => position = base + 16
  | some env => env.crcIsOk = true ∧ env.start + env.len = position ∧ env.start ≤ base + 4096 ∧ env.len ≠ 0

section Entries

variable {store : Store} {area : Area} {i : Nat} {before after : List Node} {node : Node} {sector : SectorMeta}
  {preEnv : Option EnvNode}

theorem behind_none : Behind (base i) none (base i + 16 + size []) := by
  simp only [Behind, size_nil, Nat.add_zero]

theorem behind_object (position : Nat) (upTo : position ≤ base i + 4096) :
    Behind (base i) (some (node.object position)) (position + node.len) := by
  have some := node.len_pos
  refine ⟨rfl, rfl, upTo, ?_⟩
  show node.len ≠ 0
  omega

/-- The position of the next entry, if there is one. -/
theorem getNextEnvAddr_eq (represents : Represents store area) (index : i < 4) (nodes : (area i).nodes = before ++ after)
    (behind : Behind (base i) preEnv (base i + 16 + size before)) (first : preEnv = none → after ≠ [])
    (addr : sector.addr = base i) (filled : sector.store ≠ .storeEmpty) :
    getNextEnvAddr store sector preEnv = if after = [] then none else some (base i + 16 + size before) := by
  have at_ := represents.held i index
  have room := at_.room
  rw [getNextEnvAddr.eq_def, if_neg filled]
  cases preEnv with
  | none =>
      rw [if_neg (first rfl)]
      exact congrArg some ((congrArg (· + 16) addr).trans behind.symm)
  | some env =>
      obtain ⟨ok, position, below, nonzero⟩ := behind
      have sectorEnd : sector.addr + sectorSize = base i + 4096 := congrArg (· + 4096) addr
      have scanEnd : base i + 4096 - sectorHdrDataSize = base i + 4080 := by
        rw [sectorHdrDataSize]
        omega
      have used : (area i).used = size before + size after := by rw [Sector.used, nodes, size_append]
      dsimp only
      rw [sectorEnd, if_pos below, if_pos ok, position, scanEnd]
      cases after with
      | nil =>
          have none : findNextEnvAddr store (base i + 16 + size before) (base i + 4080) = none := by
            have scan : findMagic store.flash (base i + 16 + size before) (base i + 4080) = none := by
              apply findMagic_eq_none (by omega)
              intro other above under
              have blank : store.flash.Blank (other + 4) (other + 4 + 4) :=
                at_.blank.mono (by rw [used, size_nil]; omega) (by omega)
              rw [blank.wordAt]
              decide
            rw [findNextEnvAddr]
            split
            · split
              · rfl
              · exact scan
            · exact scan
          rw [none, if_pos rfl]
      | cons next rest =>
          have entry := (at_.entry nodes).1
          have inside := next.len_pos
          rw [size_cons] at used
          have start : (base i + 16 + size before) / sectorSize * sectorSize = base i := by
            rw [base, sectorSize]
            omega
          have found : findNextEnvAddr store (base i + 16 + size before) (base i + 4080) =
              some (base i + 16 + size before) := by
            have scan : findMagic store.flash (base i + 16 + size before) (base i + 4080) =
                some (base i + 16 + size before) := by
              refine findMagic_eq_some ?_ (Nat.le_refl _) (by omega) (by omega) fun other above under => absurd under (by omega)
              exact entry.magic.wordAt
            rw [findNextEnvAddr, start]
            cases cached : getSectorFromCache store.sectorCache (base i) with
            | none => exact scan
            | some emptyAddr =>
                obtain ⟨j, _, same, empty⟩ := represents.cached.found cached
                have here : i = j := base_injective same
                subst here
                dsimp only
                rw [if_neg (by omega)]
                exact scan
          rw [found, if_neg (List.cons_ne_nil next rest)]
          dsimp only
          rw [if_neg]
          rintro (past | none)
          · omega
          · exact nonzero none

/-- A loop over the entries of a sector keeps what each of its steps keeps,
whatever they change behind and elsewhere. -/
theorem envLoop_rule {α : Type} {callback : EnvNode → Store → α → Option (Bool × Store × α)}
    {kept : Area → Store → α → List Node → List Node → Prop} {stopped : Store → α → Prop} (index : i < 4)
    (addr : sector.addr = base i) (filled : sector.store ≠ .storeEmpty)
    (step : ∀ {area store acc before node after}, Represents store area → (area i).nodes = before ++ node :: after →
      kept area store acc before (node :: after) →
      ∃ stop store' acc', callback (node.object (base i + 16 + size before)) store acc = some (stop, store', acc') ∧
        if stop then stopped store' acc'
        else ∃ area' before', Represents store' area' ∧ (area' i).nodes = before' ++ after ∧
          size before' = size before + node.len ∧ kept area' store' acc' before' after)
    {fuel : Nat} {acc : α} (represents : Represents store area) (nodes : (area i).nodes = before ++ after)
    (behind : Behind (base i) preEnv (base i + 16 + size before)) (first : preEnv = none → after ≠ [])
    (enough : after.length < fuel) (holds : kept area store acc before after) :
    ∃ stop store' acc', envLoop callback sector fuel preEnv store acc = some (stop, store', acc') ∧
      if stop then stopped store' acc'
      else ∃ area', Represents store' area' ∧ kept area' store' acc' (area' i).nodes [] := by
  induction after generalizing fuel preEnv store area acc before with
  | nil =>
      obtain ⟨fuel, rfl⟩ := Nat.exists_eq_add_of_lt enough
      refine ⟨false, store, acc, ?_, area, represents, ?_⟩
      · rw [envLoop, getNextEnvAddr_eq represents index nodes behind first addr filled, if_pos rfl]
      · rw [nodes, List.append_nil]
        exact holds
  | cons node rest ih =>
      obtain ⟨fuel, rfl⟩ := Nat.exists_eq_add_of_lt (Nat.zero_lt_of_lt enough)
      obtain ⟨parts, fits, used⟩ := (represents.held i index).entry nodes
      have room := (represents.held i index).room
      have upTo : base i + 16 + size before ≤ base i + 4096 := by omega
      obtain ⟨stop, store', acc', called, after⟩ := step represents nodes holds
      have unfolded : envLoop callback sector (0 + fuel + 1) preEnv store acc =
          if stop then some (true, store', acc')
          else envLoop callback sector (0 + fuel) (some (node.object (base i + 16 + size before))) store' acc' := by
        rw [envLoop, getNextEnvAddr_eq represents index nodes behind first addr filled, if_neg (List.cons_ne_nil _ _)]
        dsimp only
        rw [Node.readEnv_eq parts fits]
        dsimp only [Option.bind_eq_bind, Option.bind_some]
        rw [called]
        rfl
      rw [unfolded]
      cases stop with
      | true => exact ⟨true, store', acc', rfl, after⟩
      | false =>
          obtain ⟨area', before', represents', nodes', passed, holds'⟩ := after
          have moved : Behind (base i) (some (node.object (base i + 16 + size before))) (base i + 16 + size before') := by
            rw [passed, ← Nat.add_assoc]
            exact behind_object _ upTo
          exact ih represents' nodes' moved (by simp) (by rw [List.length_cons] at enough; omega) holds'

theorem length_lt (represents : Represents store area) (index : i < 4) : (area i).nodes.length < sectorSize := by
  have upTo := length_le_size (area i).nodes
  have room := (represents.held i index).room
  rw [Sector.used] at room
  rw [sectorSize]
  omega

/-- The same of a whole sector. -/
theorem envLoop_whole {α : Type} {callback : EnvNode → Store → α → Option (Bool × Store × α)}
    (kept : Area → Store → α → List Node → List Node → Prop) (stopped : Store → α → Prop) (index : i < 4)
    (addr : sector.addr = base i) (filled : sector.store ≠ .storeEmpty)
    (step : ∀ {area store acc before node after}, Represents store area → (area i).nodes = before ++ node :: after →
      kept area store acc before (node :: after) →
      ∃ stop store' acc', callback (node.object (base i + 16 + size before)) store acc = some (stop, store', acc') ∧
        if stop then stopped store' acc'
        else ∃ area' before', Represents store' area' ∧ (area' i).nodes = before' ++ after ∧
          size before' = size before + node.len ∧ kept area' store' acc' before' after)
    {acc : α} (represents : Represents store area) (nodes : (area i).nodes ≠ [])
    (holds : kept area store acc [] (area i).nodes) :
    ∃ stop store' acc', envLoop callback sector sectorSize none store acc = some (stop, store', acc') ∧
      if stop then stopped store' acc'
      else ∃ area', Represents store' area' ∧ kept area' store' acc' (area' i).nodes [] :=
  have split : (area i).nodes = [] ++ (area i).nodes := rfl
  envLoop_rule index addr filled step represents split behind_none (fun _ => nodes) (length_lt represents index) holds

/-- The traversal of a sector with entries finds where they end. -/
theorem traverse_eq (represents : Represents store area) (index : i < 4) (nodes : (area i).nodes = before ++ after)
    (behind : Behind (base i) preEnv (base i + 16 + size before)) (first : preEnv = none → after ≠ [])
    (addr : sector.addr = base i) (filled : sector.store ≠ .storeEmpty) {fuel : Nat} (enough : after.length < fuel) :
    traverse sector fuel store preEnv (base i + 16 + size before) (4080 - size before) =
      some (base i + 16 + (area i).used, 4080 - (area i).used, true, store) := by
  induction after generalizing fuel preEnv before with
  | nil =>
      obtain ⟨fuel, rfl⟩ := Nat.exists_eq_add_of_lt enough
      rw [traverse, getNextEnvAddr_eq represents index nodes behind first addr filled, if_pos rfl, Sector.used, nodes,
        List.append_nil]
  | cons node rest ih =>
      obtain ⟨fuel, rfl⟩ := Nat.exists_eq_add_of_lt (Nat.zero_lt_of_lt enough)
      obtain ⟨parts, fits, used⟩ := (represents.held i index).entry nodes
      have room := (represents.held i index).room
      have upTo : base i + 16 + size before ≤ base i + 4096 := by omega
      rw [traverse, getNextEnvAddr_eq represents index nodes behind first addr filled, if_neg (List.cons_ne_nil _ _)]
      dsimp only
      rw [Node.readEnv_eq parts fits]
      have ok : (node.object (base i + 16 + size before)).crcIsOk = true := rfl
      dsimp only
      rw [if_neg (by simp [ok])]
      have nodes' : (area i).nodes = (before ++ [node]) ++ rest := by simp [nodes]
      have total : size (before ++ [node]) = size before + node.len := by simp
      have moved : Behind (base i) (some (node.object (base i + 16 + size before))) (base i + 16 + size (before ++ [node])) := by
        rw [total, ← Nat.add_assoc]
        exact behind_object _ upTo
      have length : (node.object (base i + 16 + size before)).len = node.len := rfl
      have remain : sub32 (4080 - size before) node.len = 4080 - size (before ++ [node]) := by
        rw [sub32, total]
        omega
      have emptyEnv : base i + 16 + size before + node.len = base i + 16 + size (before ++ [node]) := by
        rw [total, ← Nat.add_assoc]
      rw [length, remain, emptyEnv]
      exact ih nodes' moved (by simp) (by rw [List.length_cons] at enough; omega)

end Entries

/-! ## Sectors -/

section Sectors

variable {store : Store} {area : Area} {i : Nat} {sector : SectorMeta}

theorem SectorAt.readStore {flash : Nor} {addr : Nat} {held : Sector} (at_ : SectorAt flash addr held) :
    SectorStoreStatus.ofIndex (readStatus flash addr sectorStatusNum) = held.storeStatus := by
  rw [Sector.storeStatus, ← at_.store]
  rfl

theorem SectorAt.readDirty {flash : Nor} {addr : Nat} {held : Sector} (at_ : SectorAt flash addr held) :
    readStatus flash (addr + sectorDirtyOffset) sectorStatusNum = getStatus [held.dirty] sectorStatusNum := by
  rw [← at_.dirty]
  rfl

theorem SectorAt.readHeader {held : Sector} (at_ : SectorAt store.flash (base i) held) :
    readSectorMetaData store (base i) sector false = some (sector.header i held, true, store) := by
  have start : base i % sectorSize = 0 := by
    rw [base]
    exact Nat.mul_mod_left i sectorSize
  rw [readSectorMetaData, at_.magic.wordAt]
  rw [if_neg (by simp [start]), if_neg (by simp), if_pos rfl, at_.combined.wordAt, at_.readStore, at_.readDirty]
  rfl

theorem readSectorMetaData_header (represents : Represents store area) (index : i < 4) :
    readSectorMetaData store (base i) sector false = some (sector.header i (area i), true, store) :=
  (represents.held i index).readHeader

/-- The traversal of a sector that takes entries; it may go to the cache. -/
theorem readSectorMetaData_object (represents : Represents store area) (index : i < 4)
    (takes : (area i).storeStatus = .storeEmpty ∨ (area i).storeStatus = .storeUsing) :
    ∃ cache, SectorCached cache (EmptyAt area) ∧
      readSectorMetaData store (base i) sector true =
        some ((area i).object i, true, { store with sectorCache := cache }) := by
  have at_ := represents.held i index
  have start : base i % sectorSize = 0 := by
    rw [base]
    exact Nat.mul_mod_left i sectorSize
  rw [readSectorMetaData, at_.magic.wordAt]
  rw [if_neg (by simp [start]), if_neg (by simp), if_neg (by simp), at_.combined.wordAt, at_.readStore, at_.readDirty]
  rcases takes with empty | using_
  · have none := (represents.filled i index).mp empty
    have used : (area i).used = 0 := by rw [Sector.used, none, size_nil]
    refine ⟨store.sectorCache, represents.cached, ?_⟩
    have remain : sectorSize - sectorHdrDataSize = 4080 := by decide
    simp only [empty, Sector.object, used, remain, Nat.sub_zero, Nat.add_zero]
    rfl
  · have room := at_.room
    have nodes : (area i).nodes ≠ [] := by
      rw [Ne, ← represents.filled i index, using_]
      decide
    simp only [using_]
    cases cached : getSectorFromCache store.sectorCache (base i) with
    | some emptyEnv =>
        obtain ⟨j, _, same, rfl⟩ := represents.cached.found cached
        have here : i = j := base_injective same
        subst here
        have remain : sub32 sectorSize (sub32 (base i + 16 + (area i).used) (base i)) = 4080 - (area i).used := by
          rw [sub32, sub32, base, sectorSize]
          omega
        refine ⟨store.sectorCache, represents.cached, ?_⟩
        simp only [remain, Sector.object, using_]
        rfl
    | none =>
        refine ⟨updateSectorCache store.sectorCache (base i) (base i + 16 + (area i).used), ?_, ?_⟩
        · apply represents.cached.update
          · exact fun _ _ => ⟨i, index, rfl, rfl⟩
          · exact fun addr empty _ right => right
        · have split : (area i).nodes = [] ++ (area i).nodes := rfl
          have traversed (sector : SectorMeta) (addr : sector.addr = base i) (filled : sector.store ≠ .storeEmpty) :=
            traverse_eq represents index split behind_none (fun _ => nodes) addr filled (length_lt represents index)
          have clean : continueFfAddr store.flash (base i + 16 + (area i).used) (base i + sectorSize) =
              base i + 16 + (area i).used :=
            continueFfAddr_blank (by rw [sectorSize]; omega) at_.blank
          have remain : sectorSize - 16 = 4080 := by decide
          simp only [size_nil, Nat.add_zero, Nat.sub_zero] at traversed
          simp only [sectorHdrDataSize, remain]
          rw [traversed _ rfl (by simp)]
          simp only [clean, Sector.object, using_, ne_eq, not_true_eq_false, if_false]
          rfl

theorem getNextSectorAddr_eq (addr : sector.addr = base i) (combined : sector.combined = sectorNotCombined) :
    getNextSectorAddr sector = if i + 1 < 4 then some (base (i + 1)) else none := by
  have next : base i + sectorSize = base (i + 1) := (Nat.succ_mul i sectorSize).symm
  have inside : base (i + 1) < envStartAddr + envAreaSize ↔ i + 1 < 4 := by
    rw [base, envStartAddr, envAreaSize, sectorSize, sectorNum]
    omega
  simp only [getNextSectorAddr, combined, addr, next, if_true, inside]

/-- An iterator over the sectors that does not traverse them keeps what its
callback keeps. -/
theorem sectorIterator_rule {α : Type} {status : SectorStoreStatus}
    {callback : SectorMeta → Store → α → Option (Bool × Store × α)} (kept : Nat → Area → Store → α → Prop)
    (passed : ∀ {n area store acc}, n < 4 → kept n area store acc → status ≠ .storeUnused →
      status ≠ (area n).storeStatus → kept (n + 1) area store acc)
    (taken : ∀ {n area store acc} (sector : SectorMeta), n < 4 → Represents store area → kept n area store acc →
      status = .storeUnused ∨ status = (area n).storeStatus →
      ∃ store' acc' area', callback (sector.header n (area n)) store acc = some (false, store', acc') ∧
        Represents store' area' ∧ kept (n + 1) area' store' acc')
    {acc : α} (represents : Represents store area) (start : kept 0 area store acc) :
    ∃ sector' store' acc' area', sectorIterator sector status callback false store acc = some (sector', store', acc') ∧
      Represents store' area' ∧ kept 4 area' store' acc' := by
  have loop (count : Nat) : ∀ (n : Nat) (sector : SectorMeta) (store : Store) (acc : α) (area : Area), n + count = 4 →
      Represents store area → kept n area store acc →
      ∃ sector' store' acc' area',
        sectorLoop status callback false count (if n < 4 then some (base n) else none) sector store acc =
            some (sector', store', acc') ∧
          Represents store' area' ∧ kept 4 area' store' acc' := by
    induction count with
    | zero =>
        rintro n sector store acc area rfl represents held
        exact ⟨sector, store, acc, area, by rw [if_neg (by omega), sectorLoop], represents, held⟩
    | succ count ih =>
        intro n sector store acc area total represents held
        have index : n < 4 := by omega
        have next : getNextSectorAddr (sector.header n (area n)) = if n + 1 < 4 then some (base (n + 1)) else none :=
          getNextSectorAddr_eq rfl rfl
        rw [if_pos index, sectorLoop, readSectorMetaData_header represents index]
        dsimp only [Option.bind_eq_bind, Option.bind_some]
        by_cases here : status = .storeUnused ∨ status = (sector.header n (area n)).store
        · obtain ⟨store', acc', area', called, represents', held'⟩ := taken sector index represents held here
          rw [if_pos here, if_neg Bool.false_ne_true, called]
          dsimp only [Option.bind_some]
          rw [if_neg Bool.false_ne_true, next]
          exact ih (n + 1) _ store' acc' area' (by omega) represents' held'
        · obtain ⟨some, other⟩ := not_or.mp here
          rw [if_neg here, next]
          exact ih (n + 1) _ store acc area (by omega) represents (passed index held some other)
  exact loop 4 0 sector store acc area rfl represents start

/-- The same of the iterator over the entries, sector by sector. -/
theorem envIterator_rule {α : Type} {callback : EnvNode → Store → α → Option (Bool × Store × α)}
    (kept : Nat → Area → Store → α → Prop) (stopped : Store → α → Prop)
    (passed : ∀ {n area store acc}, n < 4 → kept n area store acc → (area n).nodes = [] → kept (n + 1) area store acc)
    (taken : ∀ {n area store acc} (sector : SectorMeta), n < 4 → Represents store area → kept n area store acc →
      (area n).nodes ≠ [] → sector.addr = base n → sector.store ≠ .storeEmpty →
      ∃ stop store' acc', envLoop callback sector sectorSize none store acc = some (stop, store', acc') ∧
        if stop then stopped store' acc' else ∃ area', Represents store' area' ∧ kept (n + 1) area' store' acc')
    {acc : α} (represents : Represents store area) (start : kept 0 area store acc) :
    ∃ store' acc', envIterator callback store acc = some (store', acc') ∧
      (stopped store' acc' ∨ ∃ area', Represents store' area' ∧ kept 4 area' store' acc') := by
  have loop (count : Nat) : ∀ (n : Nat) (sector : SectorMeta) (store : Store) (acc : α) (area : Area), n + count = 4 →
      Represents store area → kept n area store acc →
      ∃ store' acc',
        envSectorLoop callback count (if n < 4 then some (base n) else none) sector store acc = some (store', acc') ∧
          (stopped store' acc' ∨ ∃ area', Represents store' area' ∧ kept 4 area' store' acc') := by
    induction count with
    | zero =>
        rintro n sector store acc area rfl represents held
        exact ⟨store, acc, by rw [if_neg (by omega), envSectorLoop], .inr ⟨area, represents, held⟩⟩
    | succ count ih =>
        intro n sector store acc area total represents held
        have index : n < 4 := by omega
        have next : getNextSectorAddr (sector.header n (area n)) = if n + 1 < 4 then some (base (n + 1)) else none :=
          getNextSectorAddr_eq rfl rfl
        rw [if_pos index, envSectorLoop, readSectorMetaData_header represents index]
        dsimp only [Option.bind_eq_bind, Option.bind_some]
        by_cases nodes : (area n).nodes = []
        · have empty : (area n).storeStatus = .storeEmpty := (represents.filled n index).mpr nodes
          rw [if_neg (by simp [SectorMeta.header, empty]), next]
          exact ih (n + 1) _ store acc area (by omega) represents (passed index held nodes)
        · have filled : (area n).storeStatus ≠ .storeEmpty := fun empty => nodes ((represents.filled n index).mp empty)
          have known := represents.known n index
          have takes : (sector.header n (area n)).store = .storeUsing ∨ (sector.header n (area n)).store = .storeFull := by
            show (area n).storeStatus = .storeUsing ∨ (area n).storeStatus = .storeFull
            cases held : (area n).storeStatus <;> simp_all
          obtain ⟨stop, store', acc', called, after⟩ :=
            taken (sector.header n (area n)) index represents held nodes rfl filled
          rw [if_pos ⟨rfl, takes⟩, called]
          dsimp only [Option.bind_some]
          cases stop with
          | true => exact ⟨store', acc', by rw [if_pos rfl], .inl after⟩
          | false =>
              obtain ⟨area', represents', held'⟩ := after
              rw [if_neg Bool.false_ne_true, next]
              exact ih (n + 1) _ store' acc' area' (by omega) represents' held'
  exact loop 4 0 .unread store acc area rfl represents start

end Sectors

end SyrFilter.Ef
