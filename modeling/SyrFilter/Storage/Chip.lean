import SyrFilter.Ef.Service
import SyrFilter.Storage.Env

namespace SyrFilter.Storage.Chip

open SyrFilter.Lib SyrFilter.Lib.Decimal SyrFilter.Sprintf SyrFilter.Storage.Env

/-! # Settings on the flash chip

`Flash_Get` and `Flash_Set` down to the bytes of the chip.  The texts of the 25
keys have different checksums, and all their values together leave most of a
sector free, so that the store never comes to its limits.
-/

def keys : Finset (List UInt8) := keyTexts.toFinset

/-- `Flash_Get`; `behind` is the RAM after `read_value_temp`. -/
def flashGet (behind : List UInt8) (store : Ef.Store) (id : Fin 25) : Option (UInt32 × Ef.Store) :=
  (Ef.getEnv store (keyText id) 64).map fun read =>
    let readLen : UInt8 := read.1.length.toUInt8
    (if 0 < readLen then atol (read.1 ++ List.replicate (64 - read.1.length) 0 ++ behind) else 0, read.2)

/-- `Flash_Set` -/
def flashSet (store : Ef.Store) (id : Fin 25) (value : UInt32) : Option Ef.Store :=
  (Ef.setEnv store (cString (sprintf [.s (keyText id)])) (some (cString (sprintf [.d value])))).map Prod.snd

inductive Request where
  | get (id : Fin 25)
  | set (id : Fin 25) (value : UInt32)
  | restart
deriving DecidableEq

/-- The value for `Flash_Get`; nothing for the others. -/
def serve (behind : List UInt8) (fuel : Nat) (store : Ef.Store) : Request → Option (Option UInt32 × Ef.Store)
  | .get id => (flashGet behind store id).map fun read => (some read.1, read.2)
  | .set id value => (flashSet store id value).map fun store => (none, store)
  | .restart => (Ef.efEnvInit fuel store.flash).map fun store => (none, store)

def settled (flash : Flash) : Request → Option UInt32 × Flash
  | .get id => (some (Storage.flashGet flash id), flash)
  | .set id value => (none, Storage.flashSet flash id value)
  | .restart => (none, flash)

/-! ## Keys and texts -/

def printed (value : UInt32) : List UInt8 := sign value ++ decimal (signed value).natAbs

section

variable {id other : Fin 25} {value : UInt32} {behind : List UInt8} {map : Ef.Map} {flash : Flash} {store : Ef.Store}

theorem keyText_mem (id : Fin 25) : keyText id ∈ keys := List.mem_toFinset.mpr (List.get_mem _ _)

theorem exists_keyText {key : List UInt8} (member : key ∈ keys) : ∃ id, keyText id = key := by
  obtain ⟨index, same⟩ := List.get_of_mem (List.mem_toFinset.mp member)
  exact ⟨index, same⟩

theorem checksums_nodup : (keyTexts.map Ef.calcNameCrc).Nodup := by decide +kernel

theorem keys_known : Ef.Keys keys := by
  constructor
  · intro key member
    exact keyTexts_unterminated key (List.mem_toFinset.mp member)
  · intro key member
    exact Nat.le_trans (keyTexts_short key (List.mem_toFinset.mp member)) (by decide)
  · intro key member other member' same
    exact List.inj_on_of_nodup_map checksums_nodup (List.mem_toFinset.mp member) (List.mem_toFinset.mp member') same

/-- `atol` stops at the zeros behind the text. -/
theorem atol_buffer (value : UInt32) (behind : List UInt8) :
    atol (printed value ++ List.replicate (64 - (printed value).length) 0 ++ behind) = value := by
  obtain ⟨-, short⟩ := length_printed value
  rw [printed, List.append_assoc _ (List.replicate _ _)]
  apply atol_printed
  obtain ⟨zeros, room⟩ := Nat.exists_eq_add_of_lt (Nat.lt_of_le_of_lt short (by omega : 11 < 64))
  rw [room, Nat.add_assoc, Nat.add_sub_cancel_left, List.replicate_succ]
  intro code first
  cases first
  exact not_isDigit_zero

/-! ## The settings in the store -/

/-- What the store holds for a key is the value of the setting as a text, or
nothing for 0. -/
structure Saved (store : Ef.Store) (flash : Flash) (map : Ef.Map) : Prop where
  holding : Ef.Holding keys store map
  texts : ∀ id : Fin 25, map (keyText id) = some (printed (Storage.flashGet flash id)) ∨
    map (keyText id) = none ∧ Storage.flashGet flash id = 0

theorem Saved.load_le (saved : Saved store flash map) : Ef.load keys map ≤ 25 * 55 := by
  have each : ∀ key ∈ keys, ((map key).map (Ef.envLen key)).getD 0 ≤ 55 := by
    intro key member
    obtain ⟨id, rfl⟩ := exists_keyText member
    have key : (keyText id).length ≤ 20 := keyTexts_short _ (List.get_mem _ _)
    rcases saved.texts id with text | ⟨absent, -⟩
    · obtain ⟨-, short⟩ := length_printed (Storage.flashGet flash id)
      rw [text, Option.map_some, Option.getD_some, Ef.envLen, Ef.envHdrDataSize, printed]
      omega
    · rw [absent]
      exact Nat.zero_le _
  have count : keys.card ≤ 25 := List.toFinset_card_le keyTexts
  calc Ef.load keys map ≤ keys.card • 55 := Finset.sum_le_card_nsmul _ _ _ each
    _ ≤ 25 * 55 := Nat.mul_le_mul_right 55 count

theorem flashGet_eq (saved : Saved store flash map) (behind : List UInt8) (id : Fin 25) :
    ∃ store', flashGet behind store id = some (Storage.flashGet flash id, store') ∧ Saved store' flash map := by
  obtain ⟨store', got, holding⟩ := saved.holding.get keys_known (keyText_mem id) 64
  refine ⟨store', ?_, holding, saved.texts⟩
  rw [flashGet, got, Option.map_some]
  rcases saved.texts id with text | ⟨absent, zero⟩
  · obtain ⟨nonempty, short⟩ := length_printed (Storage.flashGet flash id)
    have whole : (printed (Storage.flashGet flash id)).take 64 = printed (Storage.flashGet flash id) :=
      List.take_of_length_le (by rw [printed]; omega)
    have readLen : 0 < (printed (Storage.flashGet flash id)).length.toUInt8 := by
      rw [UInt8.lt_iff_toNat_lt, Nat.toUInt8, UInt8.toNat_ofNat', Nat.mod_eq_of_lt (by rw [printed]; omega)]
      exact nonempty
    rw [text, Option.getD_some, whole]
    dsimp only
    rw [if_pos readLen, atol_buffer]
  · rw [absent, zero]
    rfl

theorem flashSet_eq (saved : Saved store flash map) (id : Fin 25) (value : UInt32) :
    ∃ store', flashSet store id value = some store' ∧
      Saved store' (Storage.flashSet flash id value) (Function.update map (keyText id) (some (printed value))) := by
  have key : (keyText id).length ≤ 20 := keyTexts_short _ (List.get_mem _ _)
  obtain ⟨-, short⟩ := length_printed value
  have taken := saved.load_le
  have room : Ef.load keys map + Ef.envLen (keyText id) (printed value) ≤ Ef.capacity := by
    rw [Ef.envLen, Ef.envHdrDataSize, Ef.capacity, printed]
    omega
  obtain ⟨store', set, holding⟩ := saved.holding.set keys_known (keyText_mem id) room
  refine ⟨store', ?_, holding, fun other => ?_⟩
  · rw [flashSet, keyWritten, valueWritten]
    exact congrArg (Option.map Prod.snd) set
  · by_cases here : other = id
    · subst here
      rw [Function.update_self, flashGet_flashSet_self flash value other.isLt]
      exact .inl rfl
    · have apart : keyText other ≠ keyText id := fun same => here (keyText_injective same)
      rw [Function.update_of_ne apart, flashGet_flashSet_of_ne flash value fun same => here (Fin.ext same)]
      exact saved.texts other

theorem serve_step (behind : List UInt8) (fuel : Nat) :
    Simulates (serve behind (fuel + 1)) settled (fun store flash => ∃ map, Saved store flash map) fun _ _ => True := by
  rintro store flash request ⟨map, saved⟩ -
  cases request with
  | get id =>
      obtain ⟨store', got, saved'⟩ := flashGet_eq saved behind id
      exact ⟨store', by rw [serve, got]; rfl, map, saved'⟩
  | set id value =>
      obtain ⟨store', set, saved'⟩ := flashSet_eq saved id value
      exact ⟨store', by rw [serve, set]; rfl, _, saved'⟩
  | restart =>
      obtain ⟨store', started, holding⟩ := saved.holding.restart fuel
      exact ⟨store', by rw [serve, started]; rfl, map, holding, saved.texts⟩

theorem saved_default (holding : Ef.Holding keys store Ef.defaultMap) : Saved store (fun _ => 0) Ef.defaultMap := by
  refine ⟨holding, fun id => ?_⟩
  have zero : Storage.flashGet (fun _ => 0) id = 0 := by
    rw [Storage.flashGet]
    split <;> rfl
  have texts : ∀ id : Fin 25, Ef.defaultMap (keyText id) = some (printed 0) ∨ Ef.defaultMap (keyText id) = none := by
    decide +kernel
  rw [zero]
  exact (texts id).imp_right fun absent => ⟨absent, rfl⟩

/-- On a new chip every access, in any order and with any starts in between,
returns and answers as if the settings were in a table that is all 0 at first. -/
theorem settings_last (behind : List UInt8) (fuel : Nat) {chip : Nor}
    (blank : ∀ i < 4, wordAt chip (Ef.base i + 4) ≠ Ef.sectorMagicWord) (requests : List Request) :
    ∃ store store', Ef.efEnvInit (fuel + 1) chip = some store ∧
      serveAll (serve behind (fuel + 1)) store requests = some ((specifyAll settled (fun _ => 0) requests).1, store') := by
  have defaults : ∀ entry ∈ Ef.defaultEnvSet, entry.1 ∈ keys := by decide +kernel
  obtain ⟨store, started, holding⟩ := @Ef.holding_started keys chip fuel blank defaults
  obtain ⟨store', served, -⟩ :=
    (serve_step behind fuel).serveAll ⟨_, saved_default holding⟩ fun _ _ _ => trivial
  exact ⟨store, store', started, served⟩

/-- The greatest word is there after a start. -/
theorem settings_last_greatest :
    ∃ store store', Ef.efEnvInit 1 (fun _ => 0xFF) = some store ∧
      serveAll (serve [] 1) store [.get 8, .set 8 0xFFFFFFFF, .restart, .get 8] =
        some ([some 0, none, none, some 0xFFFFFFFF], store') :=
  settings_last [] 0 Ef.magic_erased [.get 8, .set 8 0xFFFFFFFF, .restart, .get 8]

end

end SyrFilter.Storage.Chip
