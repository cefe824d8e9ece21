import SyrFilter.Ef.Engine
import SyrFilter.Ef.Loops

namespace SyrFilter.Ef

open SyrFilter.Lib

/-! # Finding an entry

What `find_env` finds, in the cache or in flash, is the entry that has been
written for the key and not deleted.
-/

/-- Keys that the cache can tell apart. -/
structure Keys (keys : Finset (List UInt8)) : Prop where
  unterminated : ∀ key ∈ keys, ∀ byte ∈ key, byte ≠ 0
  short : ∀ key ∈ keys, key.length ≤ envNameMax
  apart : ∀ key ∈ keys, ∀ other ∈ keys, calcNameCrc key = calcNameCrc other → key = other

/-- What the cache of the entries may tell of the area. -/
def LiveAt (area : Area) (crc : UInt16) (addr : Nat) : Prop :=
  ∃ node, At area addr node ∧ node.status = .write ∧ calcNameCrc node.key = crc

/-- The entries in order are for known keys. -/
def Within (keys : Finset (List UInt8)) (area : Area) : Prop := ∀ entry ∈ contents area, entry.1 ∈ keys

section

variable {store : Store} {area : Area} {keys : Finset (List UInt8)} {key : List UInt8} {addr : Nat} {node : Node}

theorem Within.of_at (within : Within keys area) (at_ : At area addr node) (written : node.status = .write) :
    node.key ∈ keys :=
  within (node.key, node.value) (mem_contents.mpr ⟨addr, node, at_, written, rfl, rfl⟩)

theorem Represents.parts (represents : Represents store area) (at_ : At area addr node) :
    node.Parts store.flash addr ∧ node.Fits := by
  obtain ⟨i, index, before, after, nodes, rfl⟩ := at_.split
  obtain ⟨parts, fits, -⟩ := (represents.held i index).entry nodes
  exact ⟨parts, fits⟩

theorem findEnvCb_eq (unterminated : node.status = .write → ∀ byte ∈ node.key, byte ≠ 0) (found : Option EnvNode) :
    findEnvCb key (node.object addr) store found =
      if node.status = .write ∧ node.key = key then some (true, store, some (node.object addr))
      else some (false, store, none) := by
  have length : (node.object addr).nameLen = node.key.length := rfl
  have status : (node.object addr).status = node.status := rfl
  have name : (node.object addr).name = node.key := rfl
  rw [findEnvCb]
  by_cases same : key.length = node.key.length
  · by_cases written : node.status = .write
    · have compared := @strncmpEq_iff node.key key (unterminated written)
      rw [← same] at compared
      rw [if_neg (by rw [length]; exact not_not.mpr same)]
      by_cases equal : node.key = key
      · have ok : (node.object addr).crcIsOk = true := rfl
        rw [if_pos ⟨ok, written, compared.mpr (equal ▸ List.prefix_rfl)⟩, if_pos ⟨written, equal⟩]
      · rw [if_neg, if_neg fun both => equal both.2]
        rintro ⟨-, -, begins⟩
        exact equal ((compared.mp begins).eq_of_length same.symm)
    · rw [if_neg (by rw [length]; exact not_not.mpr same), if_neg (by simp [status, written]), if_neg (by simp [written])]
  · rw [if_pos (by rw [length]; exact same), if_neg]
    rintro ⟨-, rfl⟩
    exact same rfl

/-- The search through the flash. -/
theorem findEnvNoCache_eq (represents : Represents store area) (known : Keys keys) (within : Within keys area) :
    (∃ addr node, At area addr node ∧ node.status = .write ∧ node.key = key ∧
        findEnvNoCache store key = some (some (node.object addr), store)) ∨
      (∀ value, (key, value) ∉ contents area) ∧ findEnvNoCache store key = some (none, store) := by
  let passed (n : Nat) : Prop := ∀ m < n, ∀ node ∈ (area m).nodes, ¬(node.status = .write ∧ node.key = key)
  let stopped (store' : Store) (found : Option EnvNode) : Prop :=
    store' = store ∧
      ∃ addr node, At area addr node ∧ node.status = .write ∧ node.key = key ∧ found = some (node.object addr)
  have rule := @envIterator_rule store area _ (findEnvCb key)
    (fun n area' store' found => area' = area ∧ store' = store ∧ found = none ∧ passed n) stopped
    (by
      rintro n area' store' found index ⟨rfl, rfl, rfl, before⟩ nodes
      refine ⟨rfl, rfl, rfl, fun m below => ?_⟩
      by_cases last : m = n
      · rw [last, nodes]
        simp
      · exact before m (by omega))
    (by
      rintro n area' store' found sector index represents ⟨rfl, rfl, rfl, before⟩ nodes sectorAddr filled
      have rule := @envLoop_whole store' area' n sector _ (findEnvCb key)
        (fun area'' store'' found (passed' : List Node) _ => area'' = area' ∧ store'' = store' ∧ found = none ∧
          ∀ node ∈ passed', ¬(node.status = .write ∧ node.key = key))
        stopped index sectorAddr filled
        (by
          rintro area'' store'' found before' node after represents split ⟨rfl, rfl, rfl, others⟩
          have here : At area'' (base n + 16 + size before') node :=
            ⟨n, index, mem_placed.mpr ⟨before', after, split, rfl⟩⟩
          have unterminated (written : node.status = .write) := known.unterminated _ (within.of_at here written)
          rw [findEnvCb_eq unterminated]
          by_cases this : node.status = .write ∧ node.key = key
          · exact ⟨true, store'', _, if_pos this, rfl, _, node, here, this.1, this.2, rfl⟩
          · refine ⟨false, store'', none, if_neg this, area'', before' ++ [node], represents, by simp [split], by simp,
              rfl, rfl, rfl, ?_⟩
            intro other member
            rcases List.mem_append.mp member with early | last
            · exact others other early
            · rwa [List.mem_singleton.mp last])
        none represents nodes ⟨rfl, rfl, rfl, by simp⟩
      obtain ⟨stop, store'', found, looped, after⟩ := rule
      refine ⟨stop, store'', found, looped, ?_⟩
      cases stop with
      | true => exact after
      | false =>
          obtain ⟨area'', represents', rfl, rfl, rfl, others⟩ := after
          refine ⟨area'', represents', rfl, rfl, rfl, fun m below => ?_⟩
          by_cases last : m = n
          · rw [last]
            exact others
          · exact before m (by omega))
    none represents ⟨rfl, rfl, rfl, fun m below => absurd below (Nat.not_lt_zero m)⟩
  obtain ⟨store', found, iterated, ⟨rfl, addr, node, at_, written, same, rfl⟩ | ⟨area', -, rfl, rfl, rfl, none⟩⟩ :=
    rule
  · refine .inl ⟨addr, node, at_, written, same, ?_⟩
    rw [findEnvNoCache, iterated]
    rfl
  · refine .inr ⟨fun value member => ?_, ?_⟩
    · obtain ⟨addr, node, at_, written, same, -⟩ := mem_contents.mp member
      obtain ⟨i, index, before, after, nodes, -⟩ := at_.split
      exact none i index node (by simp [nodes]) ⟨written, same⟩
    · rw [findEnvNoCache, iterated]
      rfl

/-- What is found for a key. -/
inductive Found (area : Area) (key : List UInt8) : Option EnvNode → Prop
  | here {addr : Nat} {node : Node} : At area addr node → node.status = .write → node.key = key →
      Found area key (some (node.object addr))
  | nowhere : (∀ value, (key, value) ∉ contents area) → Found area key none

theorem findEnv_eq (represents : Represents store area) (indexed : EnvCached store.envCache (LiveAt area))
    (known : Keys keys) (within : Within keys area) (member : key ∈ keys) :
    ∃ found cache, EnvCached cache (LiveAt area) ∧ Found area key found ∧
      findEnv store key = some (found, { store with envCache := cache }) := by
  obtain ⟨hits, indexed'⟩ := @EnvCached.get _ (LiveAt area) key store.flash indexed
  rw [findEnv]
  generalize getEnvFromCache store.flash store.envCache key = looked at hits indexed' ⊢
  obtain ⟨_ | addr, envCache⟩ := looked
  · dsimp only at indexed' ⊢
    have represents' : Represents { store with envCache } area :=
      ⟨represents.held, represents.cached, represents.known, represents.filled⟩
    rcases @findEnvNoCache_eq { store with envCache } area keys key represents' known within with
      ⟨addr, node, at_, written, same, searched⟩ | ⟨none, searched⟩
    · refine ⟨_, updateEnvCache envCache key (some addr), ?_, .here at_ written same, ?_⟩
      · apply indexed'.update
        · intro place here
          rw [← Option.some.inj here]
          exact ⟨node, at_, written, congrArg calcNameCrc same⟩
        · exact fun crc addr _ live => live
      · rw [searched]
        rfl
    · refine ⟨_, envCache, indexed', .nowhere none, ?_⟩
      rw [searched]
      rfl
  · dsimp only at indexed' hits ⊢
    obtain ⟨⟨node, at_, written, crc⟩, -⟩ := hits addr rfl
    have same : node.key = key := known.apart _ (within.of_at at_ written) _ member crc
    obtain ⟨parts, fits⟩ := represents.parts at_
    refine ⟨_, envCache, indexed', .here at_ written same, ?_⟩
    rw [Node.readEnv_eq parts fits]
    rfl

/-- What `get_env` copies. -/
theorem getEnv_eq (represents : Represents store area) (indexed : EnvCached store.envCache (LiveAt area))
    (known : Keys keys) (within : Within keys area) (member : key ∈ keys) {map : List UInt8 → Option (List UInt8)}
    (means : Means (contents area) map) (bufLen : Nat) :
    ∃ cache, EnvCached cache (LiveAt area) ∧
      getEnv store key bufLen = some (((map key).getD []).take bufLen, { store with envCache := cache }) := by
  obtain ⟨found, cache, indexed', found_, searched⟩ := findEnv_eq represents indexed known within member
  refine ⟨cache, indexed', ?_⟩
  rw [getEnv, searched]
  dsimp only [Option.bind_eq_bind, Option.bind_some]
  cases found_ with
  | @here addr node at_ written same =>
      obtain ⟨parts, fits⟩ := represents.parts at_
      have value : map key = some node.value := by
        rw [← means.mem key node.value, ← same]
        exact mem_contents.mpr ⟨addr, node, at_, written, rfl, rfl⟩
      have data := parts.data
      rw [Nor.holds_append] at data
      have read : window store.flash (addr + envHdrDataSize + node.key.length) node.value.length = node.value := by
        have place : addr + 16 + (node.hdr.lengths ++ node.key).length = addr + envHdrDataSize + node.key.length := by
          rw [List.length_append, ← Nat.add_assoc]
          rfl
        rw [← place]
        exact data.2
      have length : (node.object addr).valueLen = node.value.length := rfl
      have start : (node.object addr).value = addr + envHdrDataSize + node.key.length := rfl
      dsimp only
      rw [value, Option.getD_some, length, start]
      split
      · rename_i whole
        rw [read, List.take_of_length_le (Nat.le_of_lt whole)]
      · rename_i part
        rw [← read, take_window (by omega)]
  | nowhere unset =>
      have absent : map key = none := by
        cases held : map key with
        | none => rfl
        | some value => exact absurd ((means.mem key value).mpr held) (unset value)
      rw [absent, Option.getD_none, List.take_nil]

end

end SyrFilter.Ef
