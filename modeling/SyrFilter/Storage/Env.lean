import Mathlib.Data.List.TakeWhile
import Mathlib.Logic.Function.Basic
import SyrFilter.Sprintf
import SyrFilter.Storage.Flash

namespace SyrFilter.Storage.Env

open SyrFilter.Lib.Decimal SyrFilter.Sprintf

/-! # Settings as texts

`Flash_Get` and `Flash_Set` of `storage/flashwork.c` down to EasyFlash, which
holds a text for the text of a key.  EasyFlash itself is a parameter.
-/

variable {σ : Type*} {num : UInt32} {rest : List UInt8}

/-- The two operations of `easyflash.h` that the settings use: the value saved
under a key, which `get_env` reads from, and `ef_set_env`. -/
structure EasyFlash (σ : Type*) where
  findEnv : σ → List UInt8 → Option (List UInt8)
  efSetEnv : σ → List UInt8 → List UInt8 → σ

/-- EasyFlash as a map from key text to value text. -/
structure EasyFlash.Faithful (easyFlash : EasyFlash σ) : Prop where
  found : ∀ store key value, easyFlash.findEnv (easyFlash.efSetEnv store key value) key = some value
  kept : ∀ store key value other, other ≠ key →
    easyFlash.findEnv (easyFlash.efSetEnv store key value) other = easyFlash.findEnv store other

/-- What `ef_get_env_blob` copies to a buffer; it returns how many bytes that is. -/
def EasyFlash.efGetEnvBlob (easyFlash : EasyFlash σ) (store : σ) (key : List UInt8) (bufLen : Nat) : List UInt8 :=
  ((easyFlash.findEnv store key).getD []).take bufLen

/-- `Key_list` -/
def keyTexts : List (List UInt8) :=
  ["boot_times", "Reminder_Week", "Reminder_Day", "Reminder_Enable", "Automatic_Week", "Automatic_Day",
    "Automatic_Enable", "Deltapress_Enable", "Counter_Manual", "Counter_Automatic", "Counter_Deltapress",
    "Counter_Error", "Setting_Deltapress", "Setting_Hardness", "Setting_Backwashtime", "Setting_Language",
    "RTC_Reminder_Time", "RTC_Automatic_Time", "BAT_State", "TDS_CND", "Time_Range", "Telemetry_Timeout",
    "Telemetry_Interval", "Report_Interval", "AP_Timeout"].map chars

def keyText (id : Fin 25) : List UInt8 := keyTexts.get id

/-! ## `atol` -/

def isSpace (code : UInt8) : Bool := code = 0x20 || (0x09 ≤ code && code ≤ 0x0D)

/-- A number as `long`, at the nearer end of its range where it is outside. -/
def long (number : Int) : UInt32 := UInt32.ofInt (max (-2 ^ 31) (min number (2 ^ 31 - 1)))

/-- `atol` of the standard library. -/
def atol (text : List UInt8) : UInt32 :=
  let start := text.dropWhile isSpace
  if start.head? = some 0x2D then long (-readNumber start.tail)
  else if start.head? = some 0x2B then long (readNumber start.tail)
  else long (readNumber start)

/-! ## The two accesses -/

/-- `Flash_Get`.  `read_value_temp` is filled with zeros first; `behind` is the
RAM after it. -/
def flashGet (easyFlash : EasyFlash σ) (behind : List UInt8) (store : σ) (id : Fin 25) : UInt32 :=
  let value := easyFlash.efGetEnvBlob store (keyText id) 64
  let readLen : UInt8 := value.length.toUInt8
  if 0 < readLen then atol (value ++ List.replicate (64 - value.length) 0 ++ behind) else 0

/-- `Flash_Set` -/
def flashSet (easyFlash : EasyFlash σ) (store : σ) (id : Fin 25) (value : UInt32) : σ :=
  easyFlash.efSetEnv store (cString (sprintf [.s (keyText id)])) (cString (sprintf [.d value]))

/-! ## Texts -/

theorem keyTexts_nodup : keyTexts.Nodup := by decide +kernel

theorem keyTexts_unterminated : ∀ key ∈ keyTexts, ∀ code ∈ key, code ≠ 0 := by decide +kernel

theorem keyTexts_short : ∀ key ∈ keyTexts, key.length ≤ 20 := by decide +kernel

theorem cString_of_unterminated {text : List UInt8} (unterminated : ∀ code ∈ text, code ≠ 0) :
    cString text = text := by
  apply List.takeWhile_eq_self_iff.mpr
  intro code member
  simp [unterminated code member]

theorem keyText_injective {id other : Fin 25} (same : keyText other = keyText id) : other = id :=
  List.Nodup.injective_get keyTexts_nodup same

theorem sprintf_s (text : List UInt8) : sprintf [.s text] = text := by
  simp [sprintf, Item.text]

theorem sprintf_d (num : UInt32) : sprintf [.d num] = sign num ++ decimal (signed num).natAbs := by
  simp [sprintf, Item.text, printNumber_unpadded]

theorem keyWritten (id : Fin 25) : cString (sprintf [.s (keyText id)]) = keyText id := by
  rw [sprintf_s]
  exact cString_of_unterminated (keyTexts_unterminated _ (List.get_mem _ _))

theorem not_isDigit_zero : ¬IsDigit 0 := by decide

theorem valueWritten (num : UInt32) :
    cString (sprintf [.d num]) = sign num ++ decimal (signed num).natAbs := by
  rw [sprintf_d]
  apply cString_of_unterminated
  intro code member zero
  rcases List.mem_append.mp member with inSign | inDigits
  · rw [sign] at inSign
    split at inSign <;> simp_all
  · exact not_isDigit_zero (zero ▸ isDigit_of_mem_decimal inDigits)

/-! ## Reading back -/

theorem long_signed : long (signed num) = num := by
  have range := signed_range num
  rw [long, min_eq_left (by omega), max_eq_right (by omega), ofInt_signed]

theorem atol_of_minus {text : List UInt8} : atol (0x2D :: text) = long (-readNumber text) := by
  simp [atol, isSpace]

/-- A text that starts with a digit has neither blanks nor a sign. -/
theorem atol_of_digit {code : UInt8} {text : List UInt8} (digit : IsDigit code) :
    atol (code :: text) = long (readNumber (code :: text)) := by
  have bounds := isDigit_iff.mp digit
  have noSpace : isSpace code = false := by
    simp only [isSpace, Bool.or_eq_false_iff, Bool.and_eq_false_iff, decide_eq_false_iff_not,
      UInt8.le_iff_toNat_le, ← UInt8.toNat_inj, UInt8.reduceToNat]
    omega
  have noMinus : code ≠ 0x2D := by
    rintro rfl
    exact absurd digit (by decide)
  have noPlus : code ≠ 0x2B := by
    rintro rfl
    exact absurd digit (by decide)
  simp [atol, noSpace, noMinus, noPlus]

/-- Printing and parsing cancel for every word, however it is signed. -/
theorem atol_printed (stops : ∀ code ∈ rest.head?, ¬IsDigit code) :
    atol (sign num ++ decimal (signed num).natAbs ++ rest) = num := by
  rw [sign]
  by_cases negative : signed num < 0
  · have same : -((signed num).natAbs : Int) = signed num := by omega
    rw [if_pos negative, List.singleton_append, List.cons_append, atol_of_minus, readNumber_decimal stops, same, long_signed]
  · have same : ((signed num).natAbs : Int) = signed num := by omega
    obtain ⟨code, others, starts, digit⟩ := decimal_eq_cons (signed num).natAbs
    have start : decimal (signed num).natAbs ++ rest = code :: (others ++ rest) := by rw [starts, List.cons_append]
    rw [if_neg negative, List.nil_append, start, atol_of_digit digit, ← start, readNumber_decimal stops, same, long_signed]

/-! ## The round trip -/

section RoundTrip

variable {easyFlash : EasyFlash σ} {store : σ} {behind : List UInt8} {id other : Fin 25}

/-- At most a sign and ten digits, of the 64 bytes there are. -/
theorem length_printed (num : UInt32) :
    0 < (sign num ++ decimal (signed num).natAbs).length ∧
      (sign num ++ decimal (signed num).natAbs).length ≤ 11 := by
  have range := signed_range num
  have digits : (decimal (signed num).natAbs).length ≤ 10 := (length_decimal_le_iff (by omega)).mpr (by omega)
  have some : 0 < (decimal (signed num).natAbs).length := List.length_pos_iff.mpr decimal_ne_nil
  have mark : (sign num).length ≤ 1 := by
    rw [sign]
    split <;> simp
  rw [List.length_append]
  omega

/-- `Set_KeyBuf` and `Set_ValueBuf` hold what is formatted into them, with its end. -/
theorem texts_fit_buffers (id : Fin 25) (value : UInt32) :
    (sprintf [.s (keyText id)]).length + 1 ≤ 64 ∧ (sprintf [.d value]).length + 1 ≤ 64 := by
  have key : (keyText id).length ≤ 20 := keyTexts_short _ (List.get_mem _ _)
  obtain ⟨-, short⟩ := length_printed value
  constructor
  · rw [sprintf_s]
    omega
  · rw [sprintf_d]
    omega

theorem efGetEnvBlob_flashSet (faithful : easyFlash.Faithful) (value : UInt32) :
    easyFlash.efGetEnvBlob (flashSet easyFlash store id value) (keyText id) 64 =
      sign value ++ decimal (signed value).natAbs := by
  obtain ⟨-, short⟩ := length_printed value
  rw [EasyFlash.efGetEnvBlob, flashSet, keyWritten, valueWritten, faithful.found, Option.getD_some]
  exact List.take_of_length_le (by omega)

theorem efGetEnvBlob_flashSet_other (faithful : easyFlash.Faithful) (value : UInt32) (different : other ≠ id) :
    easyFlash.efGetEnvBlob (flashSet easyFlash store id value) (keyText other) 64 =
      easyFlash.efGetEnvBlob store (keyText other) 64 := by
  have apart : keyText other ≠ keyText id := fun same => different (keyText_injective same)
  rw [EasyFlash.efGetEnvBlob, flashSet, keyWritten, faithful.kept _ _ _ _ apart, EasyFlash.efGetEnvBlob]

theorem flashGet_flashSet_same (faithful : easyFlash.Faithful) (value : UInt32) :
    flashGet easyFlash behind (flashSet easyFlash store id value) id = value := by
  obtain ⟨some, short⟩ := length_printed value
  have readLen : 0 < (sign value ++ decimal (signed value).natAbs).length.toUInt8 := by
    rw [UInt8.lt_iff_toNat_lt, Nat.toUInt8, UInt8.toNat_ofNat', Nat.mod_eq_of_lt (by omega)]
    exact some
  simp only [flashGet, efGetEnvBlob_flashSet faithful, if_pos readLen]
  rw [List.append_assoc _ (List.replicate _ _)]
  apply atol_printed
  -- The buffer is longer than the text, so that a zero ends it.
  obtain ⟨zeros, room⟩ := Nat.exists_eq_add_of_lt (Nat.lt_of_le_of_lt short (by omega : 11 < 64))
  intro code first
  rw [show 64 - (sign value ++ decimal (signed value).natAbs).length = zeros + 1 by omega,
    List.replicate_succ, List.cons_append, List.head?_cons] at first
  obtain rfl := Option.mem_some.mp first
  exact not_isDigit_zero

theorem flashGet_flashSet_other (faithful : easyFlash.Faithful) (value : UInt32) (different : other ≠ id) :
    flashGet easyFlash behind (flashSet easyFlash store id value) other = flashGet easyFlash behind store other := by
  simp only [flashGet, efGetEnvBlob_flashSet_other faithful value different]

theorem flash_round_trip (faithful : easyFlash.Faithful) (value : UInt32) :
    flashGet easyFlash behind (flashSet easyFlash store id value) id = value ∧
      ∀ other, other ≠ id →
        flashGet easyFlash behind (flashSet easyFlash store id value) other = flashGet easyFlash behind store other := by
  constructor
  · exact flashGet_flashSet_same faithful value
  · exact fun other different => flashGet_flashSet_other faithful value different

end RoundTrip

/-- EasyFlash as the map itself. -/
def asMap : EasyFlash (List UInt8 → Option (List UInt8)) where
  findEnv store key := store key
  efSetEnv store key value := Function.update store key (some value)

theorem asMap_faithful : asMap.Faithful where
  found store key value := by simp [asMap]
  kept store key value other different := by simp [asMap, different]

/-- The greatest word, in a flash where everything else holds a text without an end. -/
theorem flash_round_trip_greatest :
    flashGet asMap [0x37] (flashSet asMap (fun _ => some (List.replicate 64 0x31)) 8 0xFFFFFFFF) 8 = 0xFFFFFFFF ∧
      ∀ other, other ≠ 8 →
        flashGet asMap [0x37] (flashSet asMap (fun _ => some (List.replicate 64 0x31)) 8 0xFFFFFFFF) other =
          flashGet asMap [0x37] (fun _ => some (List.replicate 64 0x31)) other :=
  flash_round_trip asMap_faithful 0xFFFFFFFF

/-! ## The settings as values

What the rest of the model takes the flash to be: a value for each key, which
the texts stand for.
-/

section Values

variable {easyFlash : EasyFlash σ} {store : σ} {behind : List UInt8} {id : Fin 25}

/-- The position of a key in `Key_list`. -/
def position (key : Key) : Fin 25 := ⟨keyList.idxOf key, by cases key <;> decide⟩

def values (easyFlash : EasyFlash σ) (behind : List UInt8) (store : σ) : Flash :=
  fun key => flashGet easyFlash behind store (position key)

theorem keyList_position (key : Key) : keyList[(position key).val]? = some key := by
  cases key <;> rfl

theorem position_eq_iff {key : Key} : position key = id ↔ keyList[id.val]? = some key := by
  constructor
  · rintro rfl
    exact keyList_position key
  · intro listed
    obtain ⟨inList, atId⟩ := List.getElem?_eq_some_iff.mp listed
    obtain ⟨_, atPosition⟩ := List.getElem?_eq_some_iff.mp (keyList_position key)
    exact Fin.ext (keyList_nodup.getElem_inj_iff.mp (atPosition.trans atId.symm))

theorem exists_key (id : Fin 25) : ∃ key, keyList[id.val]? = some key :=
  ⟨keyList.get id, List.getElem?_eq_getElem id.isLt⟩

theorem flashGet_values : Storage.flashGet (values easyFlash behind store) id = flashGet easyFlash behind store id := by
  obtain ⟨key, listed⟩ := exists_key id
  rw [Storage.flashGet, listed, ← position_eq_iff.mpr listed]
  rfl

theorem values_flashSet (faithful : easyFlash.Faithful) (value : UInt32) :
    values easyFlash behind (flashSet easyFlash store id value) =
      Storage.flashSet (values easyFlash behind store) id value := by
  obtain ⟨key, listed⟩ := exists_key id
  have written : Storage.flashSet (values easyFlash behind store) id value =
      Function.update (values easyFlash behind store) key value := by
    simp only [Storage.flashSet, listed]
  rw [written]
  funext other
  by_cases same : other = key
  · rw [same, Function.update_self, values, position_eq_iff.mpr listed, flashGet_flashSet_same faithful value]
  · have apart : position other ≠ id := by
      intro here
      have held := position_eq_iff.mp here
      rw [listed] at held
      exact same (Option.some.inj held).symm
    rw [Function.update_of_ne same, values, flashGet_flashSet_other faithful value apart, values]

end Values

end SyrFilter.Storage.Env
