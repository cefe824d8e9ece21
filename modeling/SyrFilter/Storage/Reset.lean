import SyrFilter.Lib.Runs
import SyrFilter.Storage.Settings

namespace SyrFilter.Storage

open SyrFilter.Lib

/-! # Factory reset

`device_factory_set` ends in `Flash_Clear`, which writes the defaults over the
store as it is.  First boot gets its other values from keys that were never
written; after a reset these keys still hold what they held.
-/

/-- A store in which no key was ever written. -/
def emptyStore : Flash := fun _ => 0

/-- `device_factory_set`, the reset that ends it, and `Flash_Init` of the next boot. -/
def Device.deviceFactorySet (device : Device) (ram : Ram) : Device :=
  flashInit device.flashClear.flash ram

/-- Everything `Flash2Mem` loads. -/
def Ram.loaded (ram : Ram) : Settings × UInt32 × UInt32 :=
  (ram.settings, ram.rtcReminderTime, ram.rtcAutomaticTime)

/-- The keys that `Flash2Mem` loads and `Set_Default` leaves alone load as 0,
each at the width of its variable. -/
structure Device.Untouched (device : Device) : Prop where
  reminderWeek : (flashGet device.flash 1).toUInt8 = 0
  reminderEnable : (flashGet device.flash 3).toUInt8 = 0
  deltapressEnable : (flashGet device.flash 7).toUInt8 = 0
  counterManual : flashGet device.flash 8 = 0
  counterAutomatic : flashGet device.flash 9 = 0
  counterDeltapress : flashGet device.flash 10 = 0
  counterError : flashGet device.flash 11 = 0
  rtcReminderTime : flashGet device.flash 16 = 0
  rtcAutomaticTime : flashGet device.flash 17 = 0
  batState : (flashGet device.flash 18).toUInt8 = 0

/-! ## What a boot loads -/

def loadedFrom (flash : Flash) : Settings × UInt32 × UInt32 :=
  (loadSettings flash, flashGet flash 16, flashGet flash 17)

/-- The defaults, over whatever else was loaded. -/
def overDefaults (loaded : Settings × UInt32 × UInt32) : Settings × UInt32 × UInt32 :=
  ({ loaded.1 with
      reminderDay := 1
      automaticWeek := 8
      automaticDay := 5
      automaticEnable := 1
      settingHardness := 30
      settingBackwashtime := 21
      settingLanguage := 1
      tdsCndValue := 19
      timeRange := 0
      telemetryTimeout := 30
      telemetryInterval := 1800
      reportInterval := 24
      apTimeout := 0 }, loaded.2)

theorem loadedFrom_setDefault (flash : Flash) :
    loadedFrom (setDefault flash) = overDefaults (loadedFrom flash) := by
  simp [loadedFrom, loadSettings, setDefault, defaultWrites, overDefaults]

theorem loadedFrom_bootTimes (flash : Flash) (value : UInt32) :
    loadedFrom (flashSet flash 0 value) = loadedFrom flash := by
  simp [loadedFrom, loadSettings]

theorem overDefaults_overDefaults (loaded : Settings × UInt32 × UInt32) :
    overDefaults (overDefaults loaded) = overDefaults loaded := rfl

/-- Whether or not the store says that it has booted before, the defaults are
in place after a reset, and there is nothing else to change. -/
theorem loaded_deviceFactorySet (device : Device) (ram : Ram) :
    (device.deviceFactorySet ram).ram.loaded = overDefaults (loadedFrom device.flash) := by
  change loadedFrom (if flashGet (setDefault device.flash) 0 = 0 then
    setDefault (flashSet (setDefault device.flash) 0 1) else setDefault device.flash) = _
  split
  · rw [loadedFrom_setDefault, loadedFrom_bootTimes, loadedFrom_setDefault, overDefaults_overDefaults]
  · exact loadedFrom_setDefault device.flash

theorem loaded_firstBoot (ram : Ram) :
    (flashInit emptyStore ram).ram.loaded = overDefaults (loadedFrom emptyStore) := by
  change loadedFrom (setDefault (flashSet emptyStore 0 1)) = _
  rw [loadedFrom_setDefault, loadedFrom_bootTimes]

theorem overDefaults_eq_iff (device : Device) :
    overDefaults (loadedFrom device.flash) = overDefaults (loadedFrom emptyStore) ↔
      device.Untouched := by
  constructor
  · intro same
    simp only [overDefaults, loadedFrom, loadSettings, Prod.mk.injEq, Settings.mk.injEq] at same
    obtain ⟨⟨week, -, enable, -, -, -, delta, manual, automatic, deltapress, error, -, -, -, battery, -⟩,
      reminderTime, automaticTime⟩ := same
    exact ⟨week, enable, delta, manual, automatic, deltapress, error, reminderTime, automaticTime, battery⟩
  · intro untouched
    simp only [overDefaults, loadedFrom, loadSettings, untouched.reminderWeek, untouched.reminderEnable,
      untouched.deltapressEnable, untouched.counterManual, untouched.counterAutomatic,
      untouched.counterDeltapress, untouched.counterError, untouched.rtcReminderTime,
      untouched.rtcAutomaticTime, untouched.batState]
    rfl

/-- Two devices come out of a factory reset alike, and like new, exactly when
neither held anything under the keys that the reset does not write. -/
theorem deviceFactorySet_forgets_iff (device device' : Device) (ram ram' fresh : Ram) :
    ((device.deviceFactorySet ram).ram.loaded = (device'.deviceFactorySet ram').ram.loaded ∧
        (device.deviceFactorySet ram).ram.loaded = (flashInit emptyStore fresh).ram.loaded) ↔
      device.Untouched ∧ device'.Untouched := by
  rw [loaded_deviceFactorySet, loaded_deviceFactorySet, loaded_firstBoot, ← overDefaults_eq_iff,
    ← overDefaults_eq_iff]
  constructor
  · rintro ⟨alike, likeNew⟩
    exact ⟨likeNew, alike.symm.trans likeNew⟩
  · rintro ⟨likeNew, likeNew'⟩
    exact ⟨likeNew.trans likeNew'.symm, likeNew⟩

/-- RAM before the first `Flash2Mem`: the variables without initialiser. -/
def blankRam : Ram where
  settings := loadSettings emptyStore
  rtcReminderTime := 0
  rtcAutomaticTime := 0
  wifiApEnable := 0

/-- A backwash started by hand is still counted after the reset. -/
theorem deviceFactorySet_remembers :
    ¬(((run Device.step (flashInit emptyStore blankRam) [.manualBackwash]).deviceFactorySet
            blankRam).ram.loaded =
          ((run Device.step (flashInit emptyStore blankRam) []).deviceFactorySet blankRam).ram.loaded ∧
        ((run Device.step (flashInit emptyStore blankRam) [.manualBackwash]).deviceFactorySet
            blankRam).ram.loaded =
          (flashInit emptyStore blankRam).ram.loaded) := by
  rintro ⟨-, likeNew⟩
  have counted := congrArg (fun loaded => loaded.1.counterManual) likeNew
  revert counted
  decide +kernel

end SyrFilter.Storage
