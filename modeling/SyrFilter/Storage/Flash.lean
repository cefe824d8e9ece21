import Mathlib.Logic.Function.Basic
import Mathlib.Data.List.Nodup

namespace SyrFilter.Storage

/-! # Settings in RAM and in flash

`storage/flashwork.c`: the flash is a map from the entries of `Key_list` to
32-bit values, addressed by position in that list.  Write sites pass the
position as a bare number, so the numbers are kept as numbers here and are
looked up in `keyList` exactly where the source indexes it.
-/

/-- The entries of `Key_list`. -/
inductive Key where
  | bootTimes
  | reminderWeek
  | reminderDay
  | reminderEnable
  | automaticWeek
  | automaticDay
  | automaticEnable
  | deltapressEnable
  | counterManual
  | counterAutomatic
  | counterDeltapress
  | counterError
  | settingDeltapress
  | settingHardness
  | settingBackwashtime
  | settingLanguage
  | rtcReminderTime
  | rtcAutomaticTime
  | batState
  | tdsCnd
  | timeRange
  | telemetryTimeout
  | telemetryInterval
  | reportInterval
  | apTimeout
deriving DecidableEq, Repr

/-- `Key_list`. -/
def keyList : List Key :=
  [.bootTimes, .reminderWeek, .reminderDay, .reminderEnable, .automaticWeek, .automaticDay,
    .automaticEnable, .deltapressEnable, .counterManual, .counterAutomatic, .counterDeltapress,
    .counterError, .settingDeltapress, .settingHardness, .settingBackwashtime, .settingLanguage,
    .rtcReminderTime, .rtcAutomaticTime, .batState, .tdsCnd, .timeRange, .telemetryTimeout,
    .telemetryInterval, .reportInterval, .apTimeout]

/-- The stored values; a key that was never written reads 0. -/
abbrev Flash := Key → UInt32

/-- `Flash_Get`. -/
def flashGet (flash : Flash) (id : Nat) : UInt32 :=
  match keyList[id]? with
  | some key => flash key
  | none => 0

/-- `Flash_Set`.  An id past the end of `Key_list` names no key; what the source
then writes is undefined and no key of the list is taken to change. -/
def flashSet (flash : Flash) (id : Nat) (value : UInt32) : Flash :=
  match keyList[id]? with
  | some key => Function.update flash key value
  | none => flash

theorem keyList_nodup : keyList.Nodup := by decide

@[simp] theorem flashGet_flashSet_self {id : Nat} (flash : Flash) (value : UInt32)
    (known : id < 25) : flashGet (flashSet flash id value) id = value := by
  have listed : id < keyList.length := known
  simp only [flashGet, flashSet, List.getElem?_eq_getElem listed, Function.update_self]

@[simp] theorem flashGet_flashSet_of_ne {id other : Nat} (flash : Flash) (value : UInt32)
    (different : other ≠ id) : flashGet (flashSet flash id value) other = flashGet flash other := by
  simp only [flashGet, flashSet]
  cases found : keyList[id]? with
  | none => rfl
  | some key =>
      cases read : keyList[other]? with
      | none => rfl
      | some otherKey =>
          -- `Key_list` has no duplicates, so the two positions hold two keys.
          have apart : otherKey ≠ key := by
            intro same
            obtain ⟨known, atId⟩ := List.getElem?_eq_some_iff.mp found
            obtain ⟨otherKnown, atOther⟩ := List.getElem?_eq_some_iff.mp read
            exact different (keyList_nodup.getElem_inj_iff.mp (atOther.trans (same.trans atId.symm)))
          exact Function.update_of_ne apart value flash

theorem flashSet_of_flashGet {flash : Flash} {id : Nat} {value : UInt32}
    (held : flashGet flash id = value) : flashSet flash id value = flash := by
  rw [flashSet]
  cases found : keyList[id]? with
  | none => rfl
  | some key =>
      simp only [flashGet, found] at held
      rw [← held]
      exact Function.update_eq_self key flash

/-- The persisted settings, each at the width of its C variable. -/
structure Settings where
  reminderWeek : UInt8
  reminderDay : UInt8
  reminderEnable : UInt8
  automaticWeek : UInt8
  automaticDay : UInt8
  automaticEnable : UInt8
  deltapressEnable : UInt8
  counterManual : UInt32
  counterAutomatic : UInt32
  counterDeltapress : UInt32
  counterError : UInt32
  settingHardness : UInt32
  settingBackwashtime : UInt16
  settingLanguage : UInt8
  lowVoltageFlag : UInt8
  tdsCndValue : UInt8
  timeRange : UInt8
  telemetryTimeout : UInt32
  telemetryInterval : UInt32
  reportInterval : UInt32
  apTimeout : UInt32
deriving DecidableEq, Repr

/-- The variables that the setting operations read and write. -/
structure Ram where
  settings : Settings
  rtcReminderTime : UInt32
  rtcAutomaticTime : UInt32
  wifiApEnable : UInt8
deriving DecidableEq, Repr

/-- What `Flash2Mem` loads into the settings. -/
def loadSettings (flash : Flash) : Settings where
  reminderWeek := (flashGet flash 1).toUInt8
  reminderDay := (flashGet flash 2).toUInt8
  reminderEnable := (flashGet flash 3).toUInt8
  automaticWeek := (flashGet flash 4).toUInt8
  automaticDay := (flashGet flash 5).toUInt8
  automaticEnable := (flashGet flash 6).toUInt8
  deltapressEnable := (flashGet flash 7).toUInt8
  counterManual := flashGet flash 8
  counterAutomatic := flashGet flash 9
  counterDeltapress := flashGet flash 10
  counterError := flashGet flash 11
  settingHardness := flashGet flash 13
  settingBackwashtime := (flashGet flash 14).toUInt16
  settingLanguage := (flashGet flash 15).toUInt8
  lowVoltageFlag := (flashGet flash 18).toUInt8
  tdsCndValue := (flashGet flash 19).toUInt8
  timeRange := (flashGet flash 20).toUInt8
  telemetryTimeout := flashGet flash 21
  telemetryInterval := flashGet flash 22
  reportInterval := flashGet flash 23
  apTimeout := flashGet flash 24

/-- `Flash2Mem`. -/
def flash2Mem (flash : Flash) (ram : Ram) : Ram :=
  { ram with
    settings := loadSettings flash
    rtcReminderTime := flashGet flash 16
    rtcAutomaticTime := flashGet flash 17 }

/-- The writes of `Set_Default`. -/
def defaultWrites : List (Nat × UInt32) :=
  [(2, 1), (4, 8), (5, 5), (6, 1), (13, 30), (14, 21), (15, 1), (19, 19), (20, 0), (21, 30),
    (22, 1800), (23, 24), (24, 0)]

def setDefault (flash : Flash) : Flash :=
  defaultWrites.foldl (fun flash write => flashSet flash write.1 write.2) flash

/-- RAM together with the flash. -/
structure Device where
  ram : Ram
  flash : Flash

/-- `Flash_Clear`, up to the reset that ends it. -/
def Device.flashClear (device : Device) : Device := { device with flash := setDefault device.flash }

/-- `Flash_Init` on the flash the device wakes up with. -/
def flashInit (flash : Flash) (ram : Ram) : Device :=
  let flash := if flashGet flash 0 = 0 then setDefault (flashSet flash 0 1) else flash
  { ram := flash2Mem flash ram, flash }

end SyrFilter.Storage
