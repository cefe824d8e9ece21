import SyrFilter.Storage.Flash

namespace SyrFilter.Storage

/-! # Setting operations

The `syr_*_set` functions of `applications/syr_api.c`, `PowerSet`, and the
windows of `display/lcd_display.c` that write settings themselves.  An
operation works on RAM and lists its calls in order; the flash writes are the
`flashSet` calls among them.  Windows that save through a `syr_*_set` function
need no operation of their own.
-/

/-- A call made by a setting operation. -/
inductive Action where
  | flashSet (id : Nat) (value : UInt32)
  | deviceConfigPut (key : String) (value : UInt32)
  | deviceInfoPut (key : String) (value : UInt32)
  | reminderPut (weeks days : UInt32) (control : UInt8)
  | automaticPut (weeks days : UInt32) (control : UInt8)
  | ssdPut (value : UInt32)
  | refreshDisplay
  | refreshLanguage (value : UInt8)
  | wtiTimerSet (time : UInt32)
  | rcpTimerSet (time : UInt32)
  | apTimeoutTimer (time : UInt32)
  | wifiApEnableFrame (value : UInt8)
deriving DecidableEq, Repr

/-- RAM after an operation and the calls it made. -/
abbrev Effect := Ram × List Action

namespace Ram

variable (ram : Ram)

/-- `syr_moto_set`: no setting is written; `Moto_Cycle`, when `LcdtoBackwash`
reaches it, clears the elapsed hours. -/
def syrMotoSet (reachesCycle : Bool) : Effect :=
  if reachesCycle then ({ ram with rtcReminderTime := 0, rtcAutomaticTime := 0 }, []) else (ram, [])

def syrBackwashtimeSet (value : UInt16) : Effect :=
  ({ ram with settings := { ram.settings with settingBackwashtime := value } },
    [.flashSet 14 value.toUInt32, .deviceConfigPut "rsd" value.toUInt32])

def syrTdslimitSet (value : UInt16) : Effect :=
  ({ ram with settings := { ram.settings with settingHardness := value.toUInt32 } },
    [.flashSet 13 value.toUInt32, .deviceConfigPut "cnl" value.toUInt32])

/-- The calibration factor `syr_tdscalib_set` works with: 0 is replaced by 1. -/
def tdscalibValue (value : UInt16) : UInt16 := if value = 0 then 1 else value

def syrTdscalibSet (value : UInt16) : Effect :=
  ({ ram with settings := { ram.settings with tdsCndValue := (tdscalibValue value).toUInt8 } },
    [.flashSet 21 (tdscalibValue value).toUInt8.toUInt32,
      .deviceConfigPut "cnf" (tdscalibValue value).toUInt32])

/-- The part of `syr_range_set` that brings a long automatic interval back. -/
def clampAutomatic : Effect :=
  if ram.settings.timeRange = 0 ∧ 9 < ram.settings.automaticWeek then
    ({ ram with
        settings := { ram.settings with automaticWeek := 8, automaticDay := 5 }
        rtcAutomaticTime := 0 },
      [.flashSet 4 8, .flashSet 5 5])
  else (ram, [])

/-- The part of `syr_range_set` that brings a long reminder interval back. -/
def clampReminder : Effect :=
  if ram.settings.timeRange = 0 ∧ 9 < ram.settings.reminderWeek then
    ({ ram with
        settings := { ram.settings with reminderWeek := 8, reminderDay := 5 }
        rtcReminderTime := 0 },
      [.flashSet 1 8, .flashSet 2 5])
  else (ram, [])

def syrRangeSet (value : UInt32) : Effect :=
  let ranged := { ram with settings := { ram.settings with timeRange := value.toUInt8 } }
  (ranged.clampAutomatic.1.clampReminder.1,
    [.flashSet 22 value.toUInt8.toUInt32, .deviceConfigPut "rsi" value.toUInt8.toUInt32] ++
      ranged.clampAutomatic.2 ++ ranged.clampAutomatic.1.clampReminder.2)

def syrRemindTimeSet (value : UInt32) : Effect :=
  ({ ram with
      settings :=
        { ram.settings with
          reminderWeek := (value / 7).toUInt8
          reminderDay := (value % 7).toUInt8 } },
    [.flashSet 1 (value / 7).toUInt8.toUInt32, .flashSet 2 (value % 7).toUInt8.toUInt32,
      .deviceConfigPut "rse" value])

def syrAutoTimeSet (value : UInt32) : Effect :=
  ({ ram with
      settings :=
        { ram.settings with
          automaticWeek := (value / 7).toUInt8
          automaticDay := (value % 7).toUInt8 } },
    [.flashSet 4 (value / 7).toUInt8.toUInt32, .flashSet 5 (value % 7).toUInt8.toUInt32,
      .deviceConfigPut "rsa" value])

def syrSwitchRemindSet (value : UInt8) : Effect :=
  ({ ram with settings := { ram.settings with reminderEnable := value } },
    [.flashSet 3 value.toUInt32, .deviceConfigPut "sse" value.toUInt32, .refreshDisplay])

def syrSwitchAutoSet (value : UInt8) : Effect :=
  ({ ram with settings := { ram.settings with automaticEnable := value } },
    [.flashSet 6 value.toUInt32, .deviceConfigPut "ssa" value.toUInt32, .refreshDisplay])

def syrSwitchDeltaSet (value : UInt8) : Effect :=
  ({ ram with settings := { ram.settings with deltapressEnable := value } },
    [.flashSet 7 value.toUInt32, .deviceConfigPut "ssd" value.toUInt32, .refreshDisplay])

def syrLanguageSet (value : UInt8) : Effect :=
  ({ ram with settings := { ram.settings with settingLanguage := value } },
    [.flashSet 15 value.toUInt32, .deviceConfigPut "lng" value.toUInt32, .refreshLanguage value])

/-- `syr_count_manual_set` clears the counter whatever it is given. -/
def syrCountManualSet (_value : UInt8) : Effect :=
  ({ ram with settings := { ram.settings with counterManual := 0 } }, [.flashSet 8 0])

def syrCountAutoSet (value : UInt8) : Effect :=
  ({ ram with settings := { ram.settings with counterAutomatic := value.toUInt32 } },
    [.flashSet 9 value.toUInt32])

def syrCountDeltaSet (value : UInt8) : Effect :=
  ({ ram with settings := { ram.settings with counterDeltapress := value.toUInt32 } },
    [.flashSet 10 value.toUInt32])

def syrCountErrorSet (value : UInt8) : Effect :=
  ({ ram with settings := { ram.settings with counterError := value.toUInt32 } },
    [.flashSet 11 value.toUInt32])

def syrTelemetryIntervalSet (value : UInt32) : Effect :=
  ({ ram with settings := { ram.settings with telemetryInterval := value } },
    [.wtiTimerSet value, .flashSet 24 value, .deviceConfigPut "wti" value])

def syrApTimeoutSet (value : UInt32) : Effect :=
  ({ ram with settings := { ram.settings with apTimeout := value } },
    [.apTimeoutTimer value, .flashSet 26 value, .deviceConfigPut "apt" value])

def syrReportIntervalSet (value : UInt32) : Effect :=
  ({ ram with settings := { ram.settings with reportInterval := value } },
    [.rcpTimerSet value, .flashSet 25 value, .deviceConfigPut "rcp" value])

def syrTelemetryTimeoutSet (value : UInt32) : Effect :=
  ({ ram with settings := { ram.settings with telemetryTimeout := value } },
    [.flashSet 23 value, .deviceConfigPut "emr" value])

def syrWifiApEnableSet (value : UInt8) : Effect :=
  ({ ram with wifiApEnable := value },
    [.wifiApEnableFrame value, .deviceConfigPut "wad" value.toUInt32])

def powerSet (value : UInt8) : Effect :=
  if value ≠ ram.settings.lowVoltageFlag then
    ({ ram with settings := { ram.settings with lowVoltageFlag := value } },
      [.flashSet 19 value.toUInt32, .deviceInfoPut "sup" value.toUInt32])
  else (ram, [])

/-- The interval half of the save in `UserMain4InputFun`. -/
def reminderInterval (week day : UInt8) : Effect :=
  if ram.settings.reminderWeek ≠ week ∨ ram.settings.reminderDay ≠ day then
    ({ ram with
        settings := { ram.settings with reminderWeek := week, reminderDay := day }
        rtcReminderTime := 0 },
      [.flashSet 1 week.toUInt32, .flashSet 2 day.toUInt32])
  else (ram, [])

/-- The switch half of the save in `UserMain4InputFun`. -/
def reminderSwitch (enable : UInt8) : Effect :=
  if ram.settings.reminderEnable ≠ enable then
    ({ ram with settings := { ram.settings with reminderEnable := enable } },
      [.flashSet 3 enable.toUInt32])
  else (ram, [])

/-- `Enter` on the last row of `UserMain4InputFun`, with the window's edited
values; the choice 2 of the switch leaves without saving. -/
def userMain4Save (week day enable : UInt8) : Effect :=
  if enable = 2 then (ram, [])
  else
    let switched := (ram.reminderInterval week day).1.reminderSwitch enable
    (switched.1,
      (ram.reminderInterval week day).2 ++ switched.2 ++
        [.reminderPut switched.1.settings.reminderWeek.toUInt32
          switched.1.settings.reminderDay.toUInt32 switched.1.settings.reminderEnable])

/-- The interval half of the save in `UserMain5InputFun`. -/
def automaticInterval (week day : UInt8) : Effect :=
  if ram.settings.automaticWeek ≠ week ∨ ram.settings.automaticDay ≠ day then
    ({ ram with
        settings := { ram.settings with automaticWeek := week, automaticDay := day }
        rtcAutomaticTime := 0 },
      [.flashSet 4 week.toUInt32, .flashSet 5 day.toUInt32])
  else (ram, [])

/-- The switch half of the save in `UserMain5InputFun`. -/
def automaticSwitch (enable : UInt8) : Effect :=
  if ram.settings.automaticEnable ≠ enable then
    ({ ram with settings := { ram.settings with automaticEnable := enable } },
      [.flashSet 6 enable.toUInt32])
  else (ram, [])

/-- `Enter` on the last row of `UserMain5InputFun`. -/
def userMain5Save (week day enable : UInt8) : Effect :=
  if enable = 2 then (ram, [])
  else
    let switched := (ram.automaticInterval week day).1.automaticSwitch enable
    (switched.1,
      (ram.automaticInterval week day).2 ++ switched.2 ++
        [.automaticPut switched.1.settings.automaticWeek.toUInt32
          switched.1.settings.automaticDay.toUInt32 switched.1.settings.automaticEnable])

/-- `Enter` in `UserMain6InputFun`. -/
def userMain6Save (enable : UInt8) : Effect :=
  if ram.settings.deltapressEnable ≠ enable then
    ({ ram with settings := { ram.settings with deltapressEnable := enable } },
      [.flashSet 7 enable.toUInt32, .ssdPut enable.toUInt32])
  else (ram, [])

/-- `Enter` on `Backwash_Now` in `UserMain2InputFun`, up to `LcdtoBackwash`. -/
def userMain2Backwash : Effect :=
  ({ ram with
      settings := { ram.settings with counterManual := ram.settings.counterManual + 1 }
      rtcReminderTime := 0
      rtcAutomaticTime := 0 },
    [.flashSet 8 (ram.settings.counterManual + 1), .flashSet 16 0, .flashSet 17 0])

/-- The second `Enter` in `UserMain9InputFun`. -/
def userMain9Reset : Effect :=
  ({ ram with settings := { ram.settings with counterManual := 0 } }, [.flashSet 8 0])

/-- The second `Enter` in `UserMain10InputFun`. -/
def userMain10Reset : Effect :=
  ({ ram with settings := { ram.settings with counterAutomatic := 0 } }, [.flashSet 9 0])

/-- The second `Enter` in `UserMain11InputFun`. -/
def userMain11Reset : Effect :=
  ({ ram with settings := { ram.settings with counterDeltapress := 0 } }, [.flashSet 10 0])

/-- The second `Enter` in `UserMain12InputFun`. -/
def userMain12Reset : Effect :=
  ({ ram with settings := { ram.settings with counterError := 0 } }, [.flashSet 11 0])

/-- `JumptoAutomatic`, up to `LcdtoBackwash`. -/
def jumptoAutomatic : Effect :=
  ({ ram with settings := { ram.settings with counterAutomatic := ram.settings.counterAutomatic + 1 } },
    [.flashSet 9 (ram.settings.counterAutomatic + 1)])

/-- `JumptoDelta`, up to `LcdtoBackwash`. -/
def jumptoDelta : Effect :=
  ({ ram with settings := { ram.settings with counterDeltapress := ram.settings.counterDeltapress + 1 } },
    [.flashSet 10 (ram.settings.counterDeltapress + 1)])

/-- The error count of `JumpToBatteryEmpty`, of `JumpToBatteryNew` and of the
failed endings in `UserMain3InputFun`. -/
def countError : Effect :=
  ({ ram with settings := { ram.settings with counterError := ram.settings.counterError + 1 } },
    [.flashSet 11 (ram.settings.counterError + 1)])

end Ram

/-- The setting operations. -/
inductive Op where
  | moto (reachesCycle : Bool)
  | backwashtime (value : UInt16)
  | tdslimit (value : UInt16)
  | tdscalib (value : UInt16)
  | range (value : UInt32)
  | remindTime (value : UInt32)
  | autoTime (value : UInt32)
  | switchRemind (value : UInt8)
  | switchAuto (value : UInt8)
  | switchDelta (value : UInt8)
  | language (value : UInt8)
  | countManual (value : UInt8)
  | countAuto (value : UInt8)
  | countDelta (value : UInt8)
  | countError (value : UInt8)
  | telemetryInterval (value : UInt32)
  | apTimeout (value : UInt32)
  | reportInterval (value : UInt32)
  | telemetryTimeout (value : UInt32)
  | wifiApEnable (value : UInt8)
  | power (value : UInt8)
  | reminderSave (week day enable : UInt8)
  | automaticSave (week day enable : UInt8)
  | deltaSave (enable : UInt8)
  | manualBackwash
  | manualReset
  | automaticReset
  | deltaReset
  | errorReset
  | automaticBackwash
  | deltaBackwash
  | errorCounted
deriving DecidableEq, Repr

/-- The timers that are set are taken to start; the setters that stop there are those of `Telemetry`. -/
def Op.effect (ram : Ram) : Op → Effect
  | .moto reachesCycle => ram.syrMotoSet reachesCycle
  | .backwashtime value => ram.syrBackwashtimeSet value
  | .tdslimit value => ram.syrTdslimitSet value
  | .tdscalib value => ram.syrTdscalibSet value
  | .range value => ram.syrRangeSet value
  | .remindTime value => ram.syrRemindTimeSet value
  | .autoTime value => ram.syrAutoTimeSet value
  | .switchRemind value => ram.syrSwitchRemindSet value
  | .switchAuto value => ram.syrSwitchAutoSet value
  | .switchDelta value => ram.syrSwitchDeltaSet value
  | .language value => ram.syrLanguageSet value
  | .countManual value => ram.syrCountManualSet value
  | .countAuto value => ram.syrCountAutoSet value
  | .countDelta value => ram.syrCountDeltaSet value
  | .countError value => ram.syrCountErrorSet value
  | .telemetryInterval value => ram.syrTelemetryIntervalSet value
  | .apTimeout value => ram.syrApTimeoutSet value
  | .reportInterval value => ram.syrReportIntervalSet value
  | .telemetryTimeout value => ram.syrTelemetryTimeoutSet value
  | .wifiApEnable value => ram.syrWifiApEnableSet value
  | .power value => ram.powerSet value
  | .reminderSave week day enable => ram.userMain4Save week day enable
  | .automaticSave week day enable => ram.userMain5Save week day enable
  | .deltaSave enable => ram.userMain6Save enable
  | .manualBackwash => ram.userMain2Backwash
  | .manualReset => ram.userMain9Reset
  | .automaticReset => ram.userMain10Reset
  | .deltaReset => ram.userMain11Reset
  | .errorReset => ram.userMain12Reset
  | .automaticBackwash => ram.jumptoAutomatic
  | .deltaBackwash => ram.jumptoDelta
  | .errorCounted => ram.countError

/-- The flash after a list of calls. -/
def applyWrites (flash : Flash) (actions : List Action) : Flash :=
  actions.foldl
    (fun flash action =>
      match action with
      | .flashSet id value => SyrFilter.Storage.flashSet flash id value
      | _ => flash)
    flash

/-- One operation on the device. -/
def Device.step (device : Device) (op : Op) : Device where
  ram := (op.effect device.ram).1
  flash := applyWrites device.flash (op.effect device.ram).2

end SyrFilter.Storage
