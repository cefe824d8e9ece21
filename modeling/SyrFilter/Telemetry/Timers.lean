import SyrFilter.Rtos
import SyrFilter.Storage.Reset

namespace SyrFilter.Telemetry

open SyrFilter.Storage

/-! # The timers of telemetry, supply and access point

`applications/telemetry.c`, `applications/power.c` and the time-out of
`uart/ap_connect.c`: three timers whose periods come from the settings, the
supply that chooses between two of them, and the access point that the third
one ends.  `rt_timer_start` asserts its tick count; where the assertion fails
the firmware hangs in `rt_assert_handler` and nothing happens any more.
-/

inductive TimerId where
  | wti
  | rcp
  | apTimeout
deriving DecidableEq, Repr

inductive Call where
  /-- `rt_pm_sleep_request(PM_DC_ID)` -/
  | sleepRequest
  /-- `rt_pm_sleep_release(PM_DC_ID)` -/
  | sleepRelease
  | screenTimerRefresh
  | reloadMainWin
  | jumpToBatteryNew
  | jumpToBatteryEmpty
  | insertWarningArray (code : UInt8)
deriving DecidableEq, Repr

/-! ## Tick counts -/

/-- `set_time*1000` of `wti_timer_set`. -/
def wtiTimerSetTick (setTime : UInt32) : UInt32 := setTime * 1000

/-- `set_time*1000` of `rcp_timer_set`. -/
def rcpTimerSetTick (setTime : UInt32) : UInt32 := setTime * 1000

/-- `ap_timeout_set` hands `AP_Timeout` over as it is. -/
def apTimeoutSetTick (time : UInt32) : UInt32 := time

/-- The periods of `Telemetry_Init` and `wifi_connect_init`. -/
def initTick (settings : Settings) : TimerId → UInt32
  | .wti => settings.telemetryInterval * 1000
  | .rcp => settings.reportInterval * 60 * 1000
  | .apTimeout => settings.apTimeout * 1000

/-! ## The machine -/

structure State where
  device : Device
  nowDcLevel : UInt8
  nowBatVoltage : UInt32
  pastBatVoltage : UInt32
  timers : TimerId → Timer
  /-- An assertion of `rt_timer_start` has failed. -/
  halted : Bool
  /-- `PowerCallback` has run. -/
  polled : Bool
  calls : List Call

namespace State

variable (state : State)

def settings : Settings := state.device.ram.settings

def call (made : List Call) : State := { state with calls := state.calls ++ made }

/-- The rest of a function after a timer was started. -/
def andThen (rest : State → State) : State := if state.halted then state else rest state

def putTimer (id : TimerId) (timer : Timer) : State :=
  { state with timers := Function.update state.timers id timer }

def setTime (id : TimerId) (ticks : UInt32) : State :=
  state.putTimer id ((state.timers id).setTime ticks.toNat)

/-- `rt_timer_start` or `rt_lptimer_start`.  The timer is taken out of its list
before the assertion. -/
def start (id : TimerId) : State :=
  if (state.timers id).Startable then state.putTimer id (state.timers id).start
  else { state.putTimer id (state.timers id).stop with halted := true }

def stop (id : TimerId) : State := state.putTimer id (state.timers id).stop

def operate (op : Op) : State := { state with device := state.device.step op }

/-! ## Settings -/

/-- RAM as an operation leaves it, before its flash writes. -/
def setRam (op : Op) : State :=
  { state with device := { state.device with ram := (op.effect state.device.ram).1 } }

def wtiTimerSet (value : UInt32) : State := (state.setTime .wti (wtiTimerSetTick value)).start .wti

def rcpTimerSet (value : UInt32) : State := (state.setTime .rcp (rcpTimerSetTick value)).start .rcp

def syrTelemetryIntervalSet (value : UInt32) : State :=
  ((state.setRam (.telemetryInterval value)).wtiTimerSet value).andThen
    fun set => set.operate (.telemetryInterval value)

def syrReportIntervalSet (value : UInt32) : State :=
  ((state.setRam (.reportInterval value)).rcpTimerSet value).andThen
    fun set => set.operate (.reportInterval value)

def apTimeoutSet (value : UInt32) : State :=
  if value = 0 then state.stop .apTimeout else state.setTime .apTimeout (apTimeoutSetTick value)

def syrApTimeoutSet (value : UInt32) : State :=
  ((state.setRam (.apTimeout value)).apTimeoutSet value).operate (.apTimeout value)

/-! ## Supply -/

def telemetryIntervalModeSet (dcLevel : UInt8) : State :=
  if dcLevel ≠ 0 then (state.start .wti).andThen fun started => started.stop .rcp
  else (state.stop .wti).start .rcp

def powerStateChange (level : UInt8) : State :=
  if state.nowDcLevel ≠ level then
    ({ state with nowDcLevel := level }.call
      (if level ≠ 0 then [.sleepRequest] else [.screenTimerRefresh, .sleepRelease])).telemetryIntervalModeSet level
  else state

/-- The battery part of `PowerCallback`. -/
def batteryCheck (batValue : UInt32) : State :=
  let sampled := { state with pastBatVoltage := state.nowBatVoltage, nowBatVoltage := batValue }
  if sampled.settings.lowVoltageFlag ≠ 0 then
    if state.nowBatVoltage < batValue ∧ 100 + state.nowBatVoltage < batValue then
      if 3100 < batValue then
        (sampled.operate (.power 0)).call [.reloadMainWin, .insertWarningArray 0xff]
      else ((sampled.operate (.power 1)).operate .errorCounted).call [.jumpToBatteryNew]
    else sampled
  else if batValue ≤ 2860 then
    ((sampled.operate (.power 1)).operate .errorCounted).call [.jumpToBatteryEmpty, .insertWarningArray 0x08]
  else sampled

/-- The end of `PowerCallback` when the supply has come back. -/
def supplyBack : State :=
  (if state.settings.lowVoltageFlag ≠ 0 then (state.operate (.power 0)).call [.reloadMainWin]
  else state).call [.insertWarningArray 0xff]

/-- `Get_DC_Level` on a sample of the supply voltage. -/
def getDcLevel (dcVoltage : UInt32) : UInt8 := if 2500 < dcVoltage then 1 else 0

def powerCallback (dcVoltage batValue : UInt32) : State :=
  let polled := { state with polled := true }
  if getDcLevel dcVoltage = 0 then
    (polled.powerStateChange 0).andThen fun changed => changed.batteryCheck batValue
  else if state.nowDcLevel = 0 then (polled.powerStateChange 1).andThen supplyBack
  else polled

/-! ## Access point -/

def apTimeoutControl (level : UInt8) : State :=
  if level ≠ 0 then
    let enabled := state.operate (.wifiApEnable 1)
    if enabled.settings.apTimeout ≠ 0 then enabled.start .apTimeout else enabled
  else (state.operate (.wifiApEnable 0)).stop .apTimeout

def apTimeoutTimerCallback : State := state.operate (.wifiApEnable 0)

/-- One shot: the timer is off when its callback runs. -/
def apTimeoutExpires : State :=
  if (state.timers .apTimeout).active then (state.stop .apTimeout).apTimeoutTimerCallback else state

end State

inductive Event where
  | powerCallback (dcVoltage batValue : UInt32)
  | wtiSet (value : UInt32)
  | rcpSet (value : UInt32)
  | aptSet (value : UInt32)
  /-- `wad_set_callback`: the argument of `ap_timeout_control` is 8 bits wide. -/
  | wadSet (value : UInt32)
  /-- `Enter` of `UserMain32InputFun`. -/
  | userMain32Enter (nowButtonId : UInt8)
  | apTimeoutExpires
deriving DecidableEq, Repr

def State.react (state : State) : Event → State
  | .powerCallback dcVoltage batValue => state.powerCallback dcVoltage batValue
  | .wtiSet value => state.syrTelemetryIntervalSet value
  | .rcpSet value => state.syrReportIntervalSet value
  | .aptSet value => state.syrApTimeoutSet value
  | .wadSet value => state.apTimeoutControl value.toUInt8
  | .userMain32Enter nowButtonId => state.apTimeoutControl nowButtonId
  | .apTimeoutExpires => state.apTimeoutExpires

def step (state : State) (event : Event) : State := if state.halted then state else state.react event

/-- `Flash_Init`, `Telemetry_Init` and `wifi_connect_init` on the given flash.
The level, the voltages and `WIFI_AP_Enable` are the zeros of the start-up code. -/
def boot (flash : Flash) (ram : Ram) : State where
  device := flashInit flash { ram with wifiApEnable := 0 }
  nowDcLevel := 0
  nowBatVoltage := 0
  pastBatVoltage := 0
  timers := fun id =>
    .create (initTick (flashInit flash { ram with wifiApEnable := 0 }).ram.settings id).toNat
  halted := false
  polled := false
  calls := []

/-! ## What the calls on timers change -/

namespace State

variable {state : State} {id other : TimerId}

@[simp] theorem timers_putTimer (timer : Timer) : (state.putTimer id timer).timers id = timer := by
  simp only [putTimer, Function.update_self]

@[simp] theorem timers_putTimer_of_ne (timer : Timer) (different : other ≠ id) :
    (state.putTimer id timer).timers other = state.timers other := by
  simp only [putTimer, Function.update_of_ne different]

theorem timers_stop : (state.stop id).timers id = (state.timers id).stop := timers_putTimer _

theorem timers_setTime (ticks : UInt32) :
    (state.setTime id ticks).timers id = (state.timers id).setTime ticks.toNat := timers_putTimer _

theorem start_of_startable (startable : (state.timers id).Startable) :
    state.start id = state.putTimer id (state.timers id).start := if_pos startable

theorem start_of_not_startable (refused : ¬(state.timers id).Startable) :
    state.start id = { state.putTimer id (state.timers id).stop with halted := true } := if_neg refused

theorem timers_start_of_ne (different : other ≠ id) : (state.start id).timers other = state.timers other := by
  rw [start]
  split
  · exact timers_putTimer_of_ne _ different
  · exact timers_putTimer_of_ne _ different

theorem initTick_start : ((state.start id).timers id).initTick = (state.timers id).initTick := by
  rw [start]
  split
  · rw [timers_putTimer]
    rfl
  · change ((state.putTimer id (state.timers id).stop).timers id).initTick = _
    rw [timers_putTimer]
    rfl

theorem start_device : (state.start id).device = state.device := by
  rw [start]
  split
  · rfl
  · rfl

theorem andThen_timers {rest : State → State} (same : (rest state).timers = state.timers) :
    (state.andThen rest).timers = state.timers := by
  rw [andThen]
  split
  · rfl
  · exact same

end State

end SyrFilter.Telemetry
