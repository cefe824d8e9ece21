import SyrFilter.Telemetry.Timers
import SyrFilter.Uart.Handler
import SyrFilter.Storage.Persistence

namespace SyrFilter.Uart

open SyrFilter.Storage

/-! # Acknowledged settings

The configuration data points that can be set and asked for.  A SET callback
repeats the 32-bit value it received before its `syr_*_set` function narrows
it, and `device_config_put` publishes here the argument, there the variable.
Three of the functions start a timer, two of them before they publish; where
`rt_timer_start` fails in its assertion the device answers nothing any more.
-/

/-- The data points of the configuration, by their key in `deviceConfig`. -/
inductive ConfigPoint where
  | rse | rsi | rsd | cnf | cnl | sse | ssa | ssd | lng | emr | rcp | wti | apt | wad
deriving DecidableEq, Repr

namespace ConfigPoint

def getCmd : ConfigPoint → UInt8
  | rse => 0x07
  | rsi => 0x0b
  | rsd => 0x0d
  | cnf => 0x0f
  | cnl => 0x11
  | sse => 0x13
  | ssa => 0x15
  | ssd => 0x17
  | lng => 0x19
  | emr => 0x27
  | rcp => 0x29
  | wti => 0x36
  | apt => 0x31
  | wad => 0x33

def key : ConfigPoint → String
  | rse => "rse"
  | rsi => "rsi"
  | rsd => "rsd"
  | cnf => "cnf"
  | cnl => "cnl"
  | sse => "sse"
  | ssa => "ssa"
  | ssd => "ssd"
  | lng => "lng"
  | emr => "emr"
  | rcp => "rcp"
  | wti => "wti"
  | apt => "apt"
  | wad => "wad"

end ConfigPoint

/-- `syr_remind_time_get`, whose total is a 16-bit variable. -/
def syrRemindTimeGet (ram : Ram) : UInt32 :=
  (ram.settings.reminderWeek.toUInt16 * 7 + ram.settings.reminderDay.toUInt16).toUInt32

/-- The `syr_*_get` function that a GET data point of the configuration calls. -/
def configGet (ram : Ram) (dpid : UInt8) : Option UInt32 :=
  match dpid with
  | 0x07 => some (syrRemindTimeGet ram)
  | 0x0b => some ram.settings.timeRange.toUInt32
  | 0x0d => some ram.settings.settingBackwashtime.toUInt32
  | 0x0f => some ram.settings.tdsCndValue.toUInt32
  | 0x11 => some ram.settings.settingHardness.toUInt16.toUInt32
  | 0x13 => some ram.settings.reminderEnable.toUInt32
  | 0x15 => some ram.settings.automaticEnable.toUInt32
  | 0x17 => some ram.settings.deltapressEnable.toUInt32
  | 0x19 => some ram.settings.settingLanguage.toUInt32
  | 0x27 => some ram.settings.telemetryTimeout
  | 0x29 => some ram.settings.reportInterval
  | 0x31 => some ram.settings.apTimeout
  | 0x33 => some ram.wifiApEnable.toUInt32
  | 0x36 => some ram.settings.telemetryInterval
  | _ => none

/-- What a call sends, with the GET callbacks of the configuration carried out. -/
def Call.sent (ram : Ram) : Call → Call
  | .get dpid => ((configGet ram dpid).map (mcuDpValueUpdate dpid)).getD (.get dpid)
  | call => call

/-- A data point with a value, as `DATA_ISSUED_CMD` carries it. -/
def record (dpid : UInt8) (value : UInt32) (i : Nat) : UInt8 :=
  ([dpid, 0x02, 0, 4] ++ intToByte value).getD i 0

/-! ## The data points with their timers -/

/-- The handler of the frames with the timers that the callbacks start. -/
structure Controller where
  ota : Ota.State
  otaStatus : UInt16
  telemetry : Telemetry.State

namespace Controller

variable (controller : Controller)

def handler : Handler where
  ota := controller.ota
  otaStatus := controller.otaStatus
  device := controller.telemetry.device

/-- The function that the callback of a SET data point calls, behind its answer. -/
def set (dpid : UInt8) (value : UInt32) (op : Op) : Telemetry.State :=
  match dpid with
  | 0x28 => controller.telemetry.syrReportIntervalSet value
  | 0x32 => controller.telemetry.syrApTimeoutSet value
  | 0x34 => controller.telemetry.apTimeoutControl value.toUInt8
  | 0x35 => controller.telemetry.syrTelemetryIntervalSet value
  | _ => controller.telemetry.operate op

/-- `dp_download_handle`.  Of the functions that can stop only the one for WAD has published by then. -/
def dpDownloadHandle (dpid : UInt8) (value : Nat → UInt8) : Controller × List Call :=
  match settingOf dpid (byteToInt value) with
  | some op =>
      let telemetry := controller.set dpid (byteToInt value) op
      ({ controller with telemetry },
        mcuDpValueUpdate dpid (byteToInt value) ::
          if dpid = 0x34 then [.apTimeoutControl (byteToInt value).toUInt8, .setting op]
          else if telemetry.halted then []
          else [.setting op])
  | none => (controller, (controller.handler.dpDownloadHandle dpid value).calls)

/-- `data_point_handle` on the record at a pointer. -/
def dataPointHandle (env : Env) (value : Nat → UInt8) : Controller × List Call :=
  let index := getDowmloadDpidIndex (value 0)
  let dpType := (downloadCmd[index]?.map Prod.snd).getD env.behindTable
  if controller.telemetry.halted then (controller, [])
  else if value 1 ≠ dpType then (controller, [.downloadCmd index])
  else
    let handled := controller.dpDownloadHandle (value 0) fun i => value (4 + i)
    (handled.1, .downloadCmd index :: handled.2)

variable {controller} {dpid : UInt8} {value : UInt32} {op : Op}

end Controller

variable (env : Env) (controller : Controller) (handler : Handler) (mqttValid : Bool) (point : ConfigPoint)
  (value query : UInt32)

namespace ConfigPoint

/-- The values that the variables behind a data point can hold. -/
def Holds : ConfigPoint → UInt32 → Prop
  | rse, value => value < 1792
  | rsd, value | cnl, value => value < 65536
  | cnf, value => value ≠ 0 ∧ value < 256
  | rsi, value | sse, value | ssa, value | ssd, value | lng, value => value < 256
  | wad, value => value = 0 ∨ value = 1
  | emr, _ | rcp, _ | wti, _ | apt, _ => True

/-- The values with which the setter comes back: a timer that it starts takes its count. -/
def Returns (telemetry : Telemetry.State) : ConfigPoint → UInt32 → Prop
  | rcp, value | wti, value => (value * 1000).toNat < 0xFFFFFFFF / 2
  | wad, value =>
      value.toUInt8 ≠ 0 → telemetry.settings.apTimeout ≠ 0 → (telemetry.timers .apTimeout).Startable
  | _, _ => True

/-- The operation behind the SET command. -/
def op (value : UInt32) : ConfigPoint → Op
  | rse => .remindTime value
  | rsi => .range value
  | rsd => .backwashtime value.toUInt16
  | cnf => .tdscalib value.toUInt16
  | cnl => .tdslimit value.toUInt16
  | sse => .switchRemind value.toUInt8
  | ssa => .switchAuto value.toUInt8
  | ssd => .switchDelta value.toUInt8
  | lng => .language value.toUInt8
  | emr => .telemetryTimeout value
  | rcp => .reportInterval value
  | wti => .telemetryInterval value
  | apt => .apTimeout value
  | wad => .wifiApEnable (if value.toUInt8 = 0 then 0 else 1)

/-- What the GET command answers after a SET. -/
def stored (value : UInt32) : ConfigPoint → UInt32
  | rse => ((value / 7).toUInt8.toUInt16 * 7 + (value % 7).toUInt8.toUInt16).toUInt32
  | rsd | cnl => value.toUInt16.toUInt32
  | cnf => (Ram.tdscalibValue value.toUInt16).toUInt8.toUInt32
  | rsi | sse | ssa | ssd | lng => value.toUInt8.toUInt32
  | wad => if value.toUInt8 = 0 then 0 else 1
  | emr | rcp | wti | apt => value

variable {point}

variable {controller} {env}

end ConfigPoint

/-! ## Results -/

/-- The value fits the variables behind its data point, and the setter comes back. -/
def ConfigPoint.Fits (telemetry : Telemetry.State) (point : ConfigPoint) (value : UInt32) : Prop :=
  point.Holds value ∧ point.Returns telemetry value

end SyrFilter.Uart
