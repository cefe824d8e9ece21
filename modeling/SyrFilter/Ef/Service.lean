import SyrFilter.Ef.Boot
import SyrFilter.Lib.Services

namespace SyrFilter.Ef

open SyrFilter.Lib

/-! # The store as a map

From its first start on the store answers as a map of texts does, however often
it collects garbage or is started again, as long as what it holds and one entry
more go into one sector.
-/

/-- `ef_set_env_blob`, `ef_del_env`, `ef_get_env_blob` with the length of the
buffer, and a start after the power was off. -/
inductive Request where
  | set (key value : List UInt8)
  | delete (key : List UInt8)
  | get (key : List UInt8) (bufLen : Nat)
  | restart
deriving DecidableEq

inductive Answer where
  | code (result : EfErrCode)
  | blob (bytes : List UInt8)
  | ready
deriving DecidableEq

def serve (fuel : Nat) (store : Store) : Request → Option (Answer × Store)
  | .set key value => (setEnv store key (some value)).map fun done => (.code done.1, done.2)
  | .delete key => (delEnvByKey store key true).map fun done => (.code done.1, done.2)
  | .get key bufLen => (getEnv store key bufLen).map fun done => (.blob done.1, done.2)
  | .restart => (efEnvInit fuel store.flash).map fun store => (.ready, store)

abbrev Map := List UInt8 → Option (List UInt8)

/-- What a map does. -/
def mapped (map : Map) : Request → Answer × Map
  | .set key value => (.code .noErr, Function.update map key (some value))
  | .delete key => (.code (if (map key).isSome then .noErr else .envNameErr), Function.update map key none)
  | .get key bufLen => (.blob (((map key).getD []).take bufLen), map)
  | .restart => (.ready, map)

/-- The bytes that the entries of the keys take. -/
def load (keys : Finset (List UInt8)) (map : Map) : Nat := ∑ key ∈ keys, ((map key).map (envLen key)).getD 0

/-- The store has been set up for the key, and there is room for its value. -/
def Allowed (keys : Finset (List UInt8)) (map : Map) : Request → Prop
  | .set key value => key ∈ keys ∧ load keys map + envLen key value ≤ capacity
  | .delete key => key ∈ keys
  | .get key _ => key ∈ keys
  | .restart => True

/-- The store holds the map. -/
structure Holding (keys : Finset (List UInt8)) (store : Store) (map : Map) : Prop where
  tidy : ∃ area, Tidy store area ∧ Means (contents area) map
  request : store.gcRequest = false
  within : ∀ key value, map key = some value → key ∈ keys

section

variable {keys : Finset (List UInt8)} {store : Store} {map : Map} {flash : Nor} {fuel : Nat}

theorem footprint_le_load {area : Area} (means : Means (contents area) map)
    (within : ∀ key value, map key = some value → key ∈ keys) : footprint (contents area) ≤ load keys map :=
  means.sum_le envLen within

theorem within_update (within : ∀ key value, map key = some value → key ∈ keys) {key : List UInt8} (member : key ∈ keys)
    (value : Option (List UInt8)) : ∀ other found, Function.update map key value other = some found → other ∈ keys := by
  intro other found held
  by_cases same : other = key
  · rwa [same]
  · rw [Function.update_of_ne same] at held
    exact within other found held

theorem Tidy.cachedAgain {area : Area} (tidy : Tidy store area) {cache : List EnvCacheNode}
    (indexed : EnvCached cache (LiveAt area)) : Tidy { store with envCache := cache } area := by
  obtain ⟨⟨held, cached, known, filled⟩, -, sectors, spare, recovered, complete⟩ := tidy
  exact ⟨⟨held, cached, known, filled⟩, indexed, sectors, spare, recovered, complete⟩

section Requests

variable {key value : List UInt8}

theorem Holding.set (holding : Holding keys store map) (known : Keys keys) (member : key ∈ keys)
    (room : load keys map + envLen key value ≤ capacity) :
    ∃ store', setEnv store key (some value) = some (.noErr, store') ∧
      Holding keys store' (Function.update map key (some value)) := by
  obtain ⟨⟨area, tidy, means⟩, unrequested, within⟩ := holding
  have fits := footprint_le_load means within
  obtain ⟨store', area', set, tidy', request', means'⟩ :=
    setEnv_eq known tidy unrequested means within member (Nat.le_trans (Nat.add_le_add_right fits _) room)
  exact ⟨store', set, ⟨area', tidy', means'⟩, request', within_update within member _⟩

theorem Holding.delete (holding : Holding keys store map) (known : Keys keys) (member : key ∈ keys) :
    ∃ store', delEnvByKey store key true = some (if (map key).isSome then .noErr else .envNameErr, store') ∧
      Holding keys store' (Function.update map key none) := by
  obtain ⟨⟨area, tidy, means⟩, unrequested, within⟩ := holding
  obtain ⟨store', area', deleted, tidy', request', means'⟩ := delete_eq known tidy means within member
  exact ⟨store', deleted, ⟨area', tidy', means'⟩, request'.trans unrequested, within_update within member _⟩

theorem Holding.get (holding : Holding keys store map) (known : Keys keys) (member : key ∈ keys) (bufLen : Nat) :
    ∃ store', getEnv store key bufLen = some (((map key).getD []).take bufLen, store') ∧ Holding keys store' map := by
  obtain ⟨⟨area, tidy, means⟩, unrequested, within⟩ := holding
  obtain ⟨cache, indexed, got⟩ :=
    getEnv_eq tidy.represents tidy.indexed known (within_of_means means within) member means bufLen
  exact ⟨{ store with envCache := cache }, got, ⟨area, tidy.cachedAgain indexed, means⟩, unrequested, within⟩

theorem Holding.restart (holding : Holding keys store map) (fuel : Nat) :
    ∃ store', efEnvInit (fuel + 1) store.flash = some store' ∧ Holding keys store' map := by
  obtain ⟨⟨area, tidy, means⟩, unrequested, within⟩ := holding
  obtain ⟨store', started, tidy', request'⟩ :=
    @efEnvInit_mended store area store.flash ∅ tidy (Finset.empty_subset _) (by decide)
      (fun i member => absurd member (Finset.notMem_empty i)) (fun _ _ _ _ _ _ => rfl) fuel
  rw [mended_empty] at tidy'
  exact ⟨store', started, ⟨area, tidy', means⟩, request', within⟩

end Requests

/-- One request is answered as by the map. -/
theorem serve_step (known : Keys keys) : Simulates (serve (fuel + 1)) mapped (Holding keys) (Allowed keys) := by
  intro store map request holding allowed
  cases request with
  | set key value =>
      obtain ⟨member, room⟩ := allowed
      obtain ⟨store', set, holding'⟩ := holding.set known member room
      exact ⟨store', by rw [serve, set]; rfl, holding'⟩
  | delete key =>
      obtain ⟨store', deleted, holding'⟩ := holding.delete known allowed
      exact ⟨store', by rw [serve, deleted]; rfl, holding'⟩
  | get key bufLen =>
      obtain ⟨store', got, holding'⟩ := holding.get known allowed bufLen
      exact ⟨store', by rw [serve, got]; rfl, holding'⟩
  | restart =>
      obtain ⟨store', started, holding'⟩ := holding.restart fuel
      exact ⟨store', by rw [serve, started]; rfl, holding'⟩

/-- The map of the first start. -/
def defaultMap : Map := fun key => defaultEnvSet.lookup key

theorem means_default : Means (defaultEnvSet : Multiset (List UInt8 × List UInt8)) defaultMap := by
  obtain ⟨key, value, defaults⟩ : ∃ key value, defaultEnvSet = [(key, value)] := ⟨_, _, rfl⟩
  have lookup (other : List UInt8) : defaultMap other = if other = key then some value else none := by
    rw [defaultMap, defaults, List.lookup_cons, List.lookup_nil]
    by_cases same : other = key
    · simp [same]
    · simp [same, beq_false_of_ne same]
  constructor
  · rw [defaults]
    simp
  · intro other found
    rw [lookup, defaults]
    by_cases same : other = key
    · subst same
      simp [eq_comm]
    · simp [same]

theorem holding_started (magic : ∀ i < 4, wordAt flash (base i + 4) ≠ sectorMagicWord)
    (defaults : ∀ entry ∈ defaultEnvSet, entry.1 ∈ keys) :
    ∃ store, efEnvInit (fuel + 1) flash = some store ∧ Holding keys store defaultMap := by
  obtain ⟨store, area, started, tidy, request, same⟩ := efEnvInit_blank magic fuel
  refine ⟨store, started, ⟨area, tidy, same ▸ means_default⟩, request, ?_⟩
  intro key value held
  exact defaults (key, value) (Multiset.mem_coe.mp ((means_default.mem key value).mpr held))

/-- From the first start of a flash on, the store answers any requests as a map
would, the defaults in it at first, if at each value that is set there is room
for it. -/
theorem answers_as_map (known : Keys keys) (defaults : ∀ entry ∈ defaultEnvSet, entry.1 ∈ keys)
    (magic : ∀ i < 4, wordAt flash (base i + 4) ≠ sectorMagicWord) {requests : List Request}
    (allowed : EachStep (advance mapped) (Allowed keys) defaultMap requests) :
    ∃ store store', efEnvInit (fuel + 1) flash = some store ∧
      serveAll (serve (fuel + 1)) store requests = some ((specifyAll mapped defaultMap requests).1, store') := by
  obtain ⟨store, started, holding⟩ := @holding_started keys flash fuel magic defaults
  obtain ⟨store', served, -⟩ := (serve_step known).serveAll holding allowed
  exact ⟨store, store', started, served⟩

/-- The key of the defaults, and three requests around a start. -/
theorem answers_as_map_boot_times :
    ∃ store store', efEnvInit 1 (fun _ => 0xFF) = some store ∧
      serveAll (serve 1) store [.get [0x62] 64, .set [0x62] [0x31], .restart, .get [0x62] 64] =
        some ([.blob [], .code .noErr, .ready, .blob [0x31]], store') := by
  have known : Keys (insert [0x62] (defaultEnvSet.map Prod.fst).toFinset) :=
    ⟨by decide +kernel, by decide +kernel, by decide +kernel⟩
  have member : [0x62] ∈ insert [0x62] (defaultEnvSet.map Prod.fst).toFinset := Finset.mem_insert_self _ _
  have room : load (insert [0x62] (defaultEnvSet.map Prod.fst).toFinset) defaultMap + envLen [0x62] [0x31] ≤ capacity := by
    decide +kernel
  have allowed : EachStep (advance mapped) (Allowed (insert [0x62] (defaultEnvSet.map Prod.fst).toFinset)) defaultMap
      [.get [0x62] 64, .set [0x62] [0x31], .restart, .get [0x62] 64] := by
    simp only [eachStep_cons]
    exact ⟨member, ⟨member, room⟩, trivial, member, eachStep_nil⟩
  exact answers_as_map known (by decide) magic_erased allowed

/-! ## Lost sectors -/

/-- The bytes of a sector hold an entry in order. -/
def LiesIn (flash : Nor) (i : Nat) (key value : List UInt8) : Prop :=
  ∃ (addr : Nat) (node : Node), base i + 16 ≤ addr ∧ addr + node.len ≤ base i + 4096 ∧ node.Parts flash addr ∧
    node.status = .write ∧ node.key = key ∧ node.value = value

theorem contents_mended_le {area : Area} {lost : Finset Nat} : contents (mended area lost) ≤ contents area := by
  apply Finset.sum_le_sum
  intro i _
  rw [mended]
  split
  · exact Multiset.zero_le _
  · exact le_rfl

/-- An entry is kept, or lies in a sector that is lost. -/
theorem mem_contents_mended {area : Area} {lost : Finset Nat} (held : Held flash area) {key value : List UInt8}
    (member : (key, value) ∈ contents area) :
    (key, value) ∈ contents (mended area lost) ∨ ∃ i ∈ lost, LiesIn flash i key value := by
  obtain ⟨addr, node, at_, written, sameKey, sameValue⟩ := mem_contents.mp member
  obtain ⟨i, index, before, after, nodes, rfl⟩ := at_.split
  by_cases gone : i ∈ lost
  · obtain ⟨parts, -, used⟩ := (held i index).entry nodes
    have room := (held i index).room
    exact .inr ⟨i, gone, _, node, Nat.le_add_right _ _, by omega, parts, written, sameKey, sameValue⟩
  · have kept : mended area lost i = area i := if_neg gone
    left
    rw [contents, Multiset.mem_sum]
    refine ⟨i, Finset.mem_range.mpr index, ?_⟩
    rw [kept]
    exact mem_live.mpr ⟨node, by simp [nodes], written, sameKey, sameValue⟩

/-- Whatever happens to some of the sectors, as long as their headers show it,
the next start keeps each value, but for those whose entries lay there. -/
theorem started_after_loss {lost : Finset Nat} (holding : Holding keys store map) (within : lost ⊆ Finset.range 4)
    (some_ : lost.card < 4) (magic : ∀ i ∈ lost, wordAt flash (base i + 4) ≠ sectorMagicWord)
    (same : ∀ i < 4, i ∉ lost → ∀ cell, base i ≤ cell → cell < base i + 4096 → flash cell = store.flash cell)
    (fuel : Nat) :
    ∃ store' kept, efEnvInit (fuel + 1) flash = some store' ∧ Holding keys store' kept ∧
      ∀ key, kept key = map key ∨
        kept key = none ∧ ∃ value, map key = some value ∧ ∃ i ∈ lost, LiesIn store.flash i key value := by
  obtain ⟨⟨area, tidy, means⟩, -, known⟩ := holding
  obtain ⟨store', started, tidy', request'⟩ := efEnvInit_mended tidy within some_ magic same fuel
  have means' := means.restrict (@contents_mended_le area lost)
  refine ⟨store', _, started, ⟨⟨mended area lost, tidy', means'⟩, request', ?_⟩, ?_⟩
  · intro key value held
    have member := (means'.mem key value).mpr held
    exact known key value ((means.mem key value).mp (Multiset.mem_of_le contents_mended_le member))
  · intro key
    by_cases listed : key ∈ (contents (mended area lost)).map Prod.fst
    · exact .inl (if_pos listed)
    · rw [if_neg listed]
      cases found : map key with
      | none => exact .inl rfl
      | some value =>
          rcases mem_contents_mended tidy.represents.held ((means.mem key value).mpr found) with kept | lies
          · exact absurd (Multiset.mem_map_of_mem Prod.fst kept) listed
          · exact .inr ⟨rfl, value, rfl, lies⟩

/-- The first sector is filled with zeros after the first start. -/
theorem started_after_loss_first :
    ∃ store store' kept, efEnvInit 1 (fun _ => 0xFF) = some store ∧
      efEnvInit 1 (fun cell => if cell < 4096 then 0 else store.flash cell) = some store' ∧
      Holding (defaultEnvSet.map Prod.fst).toFinset store' kept ∧
      ∀ key, kept key = defaultMap key ∨
        kept key = none ∧ ∃ value, defaultMap key = some value ∧
          ∃ i ∈ ({0} : Finset Nat), LiesIn store.flash i key value := by
  obtain ⟨store, started, holding⟩ :=
    @holding_started (defaultEnvSet.map Prod.fst).toFinset (fun _ => 0xFF) 0 magic_erased (by decide)
  obtain ⟨zeroed, zeroed_⟩ : ∃ zeroed : Nor, zeroed = fun cell => if cell < 4096 then 0 else store.flash cell :=
    ⟨_, rfl⟩
  have magic : ∀ i ∈ ({0} : Finset Nat), wordAt zeroed (base i + 4) ≠ sectorMagicWord := by
    intro i member
    rw [Finset.mem_singleton.mp member, zeroed_, wordAt, if_pos (by decide), if_pos (by decide), if_pos (by decide),
      if_pos (by decide)]
    decide
  have same : ∀ i < 4, i ∉ ({0} : Finset Nat) → ∀ cell, base i ≤ cell → cell < base i + 4096 →
      zeroed cell = store.flash cell := by
    intro i index kept cell above _
    have later : 0 < i := Nat.pos_of_ne_zero fun first => kept (Finset.mem_singleton.mpr first)
    rw [base, sectorSize] at above
    rw [zeroed_]
    exact if_neg (by omega)
  obtain ⟨store', kept, after⟩ := started_after_loss holding (by decide) (by decide) magic same 0
  rw [zeroed_] at after
  exact ⟨store, store', kept, started, after⟩

end

end SyrFilter.Ef
