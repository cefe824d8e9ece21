import SyrFilter.Moto.Machine
import SyrFilter.Telemetry.Timers

namespace SyrFilter.Telemetry

open SyrFilter.Storage

/-! # Tick counts

The settings come in seconds and minutes from the network and go to RT-Thread
in milliseconds.  Nothing bounds them on the way, so a product may wrap at 32
bits, a difference below zero, and a signed time-out turn negative.
-/

/-- A tick count as RT-Thread reads it, and the product or difference that the
source writes, over the integers. -/
structure Handed where
  ticks : Int
  meant : Int
deriving DecidableEq, Repr

def Handed.Exact (handed : Handed) : Prop :=
  handed.ticks = handed.meant ∧ 1 ≤ handed.ticks ∧ handed.ticks < 0x80000000

instance (handed : Handed) : Decidable handed.Exact := inferInstanceAs (Decidable (_ ∧ _ ∧ _))

/-- An `rt_tick_t`. -/
def Handed.tick (ticks : UInt32) (meant : Int) : Handed := { ticks := ticks.toNat, meant }

/-- An `rt_int32_t`. -/
def Handed.wait (ticks : UInt32) (meant : Int) : Handed where
  ticks := if ticks.toNat < 0x80000000 then ticks.toNat else ticks.toNat - 0x100000000
  meant

/-- `Moto_Cycle` sets the cycle timer and then the detect timer. -/
def cycleHanded (settingBackwashtime : UInt16) : List Handed :=
  let mileSecond := Moto.State.backwashtimeMileSecond settingBackwashtime.toNat
  [{ ticks := mileSecond, meant := ((settingBackwashtime.toNat : Int) - 20) * 1000 },
    { ticks := (mileSecond + 60 * 1000) % 0x100000000
      meant := ((settingBackwashtime.toNat : Int) - 20) * 1000 + 60 * 1000 }]

/-- `rt_sem_take(telemetry_recv_sem, Telemetry_Timeout*1000)` -/
def waitHanded (telemetryTimeout : UInt32) : Handed :=
  .wait (telemetryTimeout * 1000) (telemetryTimeout.toNat * 1000)

/-- The timer calls among the calls of a setting operation. -/
def actionHanded : Action → List Handed
  | .wtiTimerSet time => [.tick (wtiTimerSetTick time) (time.toNat * 1000)]
  | .rcpTimerSet time => [.tick (rcpTimerSetTick time) (time.toNat * 1000)]
  | .apTimeoutTimer time => if time = 0 then [] else [.tick (apTimeoutSetTick time) time.toNat]
  | _ => []

/-- `Telemetry_Init` and `wifi_connect_init`. -/
def initHanded (settings : Settings) : List Handed :=
  [.tick (initTick settings .rcp) (settings.reportInterval.toNat * 60 * 1000),
    .tick (initTick settings .wti) (settings.telemetryInterval.toNat * 1000),
    .tick (initTick settings .apTimeout) (settings.apTimeout.toNat * 1000)]

/-- The moments at which tick counts reach RT-Thread. -/
inductive Moment where
  /-- An accepted `Moto_Cycle`. -/
  | cycle
  /-- One turn of `telemetry_thread_callback`. -/
  | telemetryWait
  | operate (op : Op)
  | reboot (ram : Ram)

def handed (device : Device) : Moment → List Handed
  | .cycle => cycleHanded device.ram.settings.settingBackwashtime
  | .telemetryWait => [waitHanded device.ram.settings.telemetryTimeout]
  | .operate op => (op.effect device.ram).2.flatMap actionHanded
  | .reboot ram => initHanded (flashInit device.flash ram).ram.settings

/-- Seconds that stay below 2^31 milliseconds. -/
def FitsSeconds (value : UInt32) : Prop := 0 < value ∧ value ≤ 2147483

/-- Minutes that stay below 2^31 milliseconds. -/
def FitsMinutes (value : UInt32) : Prop := 0 < value ∧ value ≤ 35791

/-- The settings behind the tick counts of a moment are in range. -/
def InRange (device : Device) : Moment → Prop
  | .cycle => 20 < device.ram.settings.settingBackwashtime
  | .telemetryWait => FitsSeconds device.ram.settings.telemetryTimeout
  | .operate (.telemetryInterval value) => FitsSeconds value
  | .operate (.reportInterval value) => FitsSeconds value
  | .operate (.apTimeout value) => value < 2147483648
  | .operate _ => True
  | .reboot ram =>
      FitsMinutes (flashInit device.flash ram).ram.settings.reportInterval ∧
        FitsSeconds (flashInit device.flash ram).ram.settings.telemetryInterval ∧
        FitsSeconds (flashInit device.flash ram).ram.settings.apTimeout

/-! ## One product -/

theorem toNat_mul_thousand (value : UInt32) : (value * 1000).toNat = value.toNat * 1000 % 4294967296 := by
  rw [UInt32.toNat_mul]
  rfl

theorem toNat_minutes (value : UInt32) :
    (value * 60 * 1000).toNat = value.toNat * 60 % 4294967296 * 1000 % 4294967296 := by
  rw [toNat_mul_thousand, UInt32.toNat_mul]
  rfl

theorem fitsSeconds_iff {value : UInt32} : FitsSeconds value ↔ 0 < value.toNat ∧ value.toNat ≤ 2147483 := by
  rw [FitsSeconds, UInt32.lt_iff_toNat_lt, UInt32.le_iff_toNat_le]
  exact Iff.rfl

theorem fitsMinutes_iff {value : UInt32} : FitsMinutes value ↔ 0 < value.toNat ∧ value.toNat ≤ 35791 := by
  rw [FitsMinutes, UInt32.lt_iff_toNat_lt, UInt32.le_iff_toNat_le]
  exact Iff.rfl

theorem tick_seconds_exact_iff (value : UInt32) :
    (Handed.tick (value * 1000) (value.toNat * 1000)).Exact ↔ FitsSeconds value := by
  rw [Handed.Exact, Handed.tick, toNat_mul_thousand, fitsSeconds_iff]
  dsimp only
  constructor
  · rintro ⟨same, positive, below⟩
    omega
  · rintro ⟨positive, small⟩
    have whole : value.toNat * 1000 % 4294967296 = value.toNat * 1000 := Nat.mod_eq_of_lt (by omega)
    rw [whole]
    omega

theorem tick_minutes_exact_iff (value : UInt32) :
    (Handed.tick (value * 60 * 1000) (value.toNat * 60 * 1000)).Exact ↔ FitsMinutes value := by
  rw [Handed.Exact, Handed.tick, toNat_minutes, fitsMinutes_iff]
  dsimp only
  constructor
  · rintro ⟨same, positive, below⟩
    omega
  · rintro ⟨positive, small⟩
    have minutes : value.toNat * 60 % 4294967296 = value.toNat * 60 := Nat.mod_eq_of_lt (by omega)
    have whole : value.toNat * 60 * 1000 % 4294967296 = value.toNat * 60 * 1000 := Nat.mod_eq_of_lt (by omega)
    rw [minutes, whole]
    omega

theorem waitHanded_exact_iff (value : UInt32) : (waitHanded value).Exact ↔ FitsSeconds value := by
  rw [Handed.Exact, waitHanded, Handed.wait, toNat_mul_thousand, fitsSeconds_iff]
  dsimp only
  constructor
  · rintro ⟨same, positive, below⟩
    split at same
    · omega
    · omega
  · rintro ⟨positive, small⟩
    have whole : value.toNat * 1000 % 4294967296 = value.toNat * 1000 := Nat.mod_eq_of_lt (by omega)
    have signless : value.toNat * 1000 < 0x80000000 := by omega
    rw [whole, if_pos signless]
    omega

theorem backwashtimeMileSecond_of_le {setting : Nat} (long : 20 ≤ setting) (bound : setting < 65536) :
    Moto.State.backwashtimeMileSecond setting = (setting - 20) * 1000 := by
  have whole : ((setting : Int) - 20) * 1000 % 0x100000000 = ((setting : Int) - 20) * 1000 :=
    Int.emod_eq_of_lt (by omega) (by omega)
  rw [Moto.State.backwashtimeMileSecond, whole]
  omega

theorem backwashtimeMileSecond_of_lt {setting : Nat} (brief : setting < 20) :
    Moto.State.backwashtimeMileSecond setting = 4294967296 - (20 - setting) * 1000 := by
  have wrapped : ((setting : Int) - 20) * 1000 % 0x100000000 = 0x100000000 + ((setting : Int) - 20) * 1000 := by
    rw [← Int.add_emod_left, Int.emod_eq_of_lt (by omega) (by omega)]
  rw [Moto.State.backwashtimeMileSecond, wrapped]
  omega

/-- The cycle timer needs more than 20 seconds; the minute added for the detect
timer takes the wrap back again. -/
theorem cycleHanded_exact_iff (settingBackwashtime : UInt16) :
    (∀ one ∈ cycleHanded settingBackwashtime, one.Exact) ↔ 20 < settingBackwashtime := by
  have bound : settingBackwashtime.toNat < 65536 := settingBackwashtime.toNat_lt
  rw [UInt16.lt_iff_toNat_lt]
  change _ ↔ 20 < settingBackwashtime.toNat
  simp only [cycleHanded, List.forall_mem_cons, List.not_mem_nil, false_imp_iff, implies_true, and_true,
    Handed.Exact]
  generalize settingBackwashtime.toNat = setting at bound ⊢
  rcases Nat.lt_or_ge setting 20 with brief | long
  · rw [backwashtimeMileSecond_of_lt brief]
    omega
  · have minute : (((setting - 20) * 1000 : Nat) + 60 * 1000 : Int) % 4294967296 =
        ((setting - 20) * 1000 : Nat) + 60 * 1000 := Int.emod_eq_of_lt (by omega) (by omega)
    rw [backwashtimeMileSecond_of_le long bound, minute]
    omega

theorem raw_exact_iff {value : UInt32} (some : value ≠ 0) :
    (Handed.tick (apTimeoutSetTick value) value.toNat).Exact ↔ value < 2147483648 := by
  have positive : value.toNat ≠ 0 := fun zero => some (UInt32.toNat_inj.mp zero)
  rw [Handed.Exact, Handed.tick, apTimeoutSetTick, UInt32.lt_iff_toNat_lt]
  change _ ↔ value.toNat < 2147483648
  dsimp only
  omega

/-! ## Every moment -/

theorem initHanded_exact_iff (settings : Settings) :
    (∀ one ∈ initHanded settings, one.Exact) ↔
      FitsMinutes settings.reportInterval ∧ FitsSeconds settings.telemetryInterval ∧
        FitsSeconds settings.apTimeout := by
  rw [← tick_minutes_exact_iff, ← tick_seconds_exact_iff, ← tick_seconds_exact_iff]
  simp only [initHanded, initTick, List.forall_mem_cons, List.not_mem_nil, false_imp_iff, implies_true,
    and_true]

theorem operate_exact_iff (device : Device) (op : Op) :
    (∀ one ∈ handed device (.operate op), one.Exact) ↔ InRange device (.operate op) := by
  have free : ∀ {actions : List Action}, actions.flatMap actionHanded = [] →
      ((∀ one ∈ actions.flatMap actionHanded, one.Exact) ↔ True) := by
    intro actions none
    rw [none]
    exact iff_of_true (List.forall_mem_nil _) trivial
  cases op with
  | telemetryInterval value =>
      change (∀ one ∈ [Handed.tick (value * 1000) (value.toNat * 1000)], one.Exact) ↔ FitsSeconds value
      rw [List.forall_mem_singleton, tick_seconds_exact_iff]
  | reportInterval value =>
      change (∀ one ∈ [Handed.tick (value * 1000) (value.toNat * 1000)], one.Exact) ↔ FitsSeconds value
      rw [List.forall_mem_singleton, tick_seconds_exact_iff]
  | apTimeout value =>
      change (∀ one ∈ actionHanded (.apTimeoutTimer value) ++ [], one.Exact) ↔ value < 2147483648
      rw [List.append_nil, actionHanded]
      split
      · rename_i zero
        rw [zero]
        exact iff_of_true (List.forall_mem_nil _) (by decide)
      · rename_i some
        rw [List.forall_mem_singleton, raw_exact_iff some]
  | range value =>
      refine free ?_
      simp only [Op.effect, Ram.syrRangeSet, Ram.clampAutomatic, Ram.clampReminder]
      split <;> split <;> rfl
  | reminderSave week day enable =>
      refine free ?_
      simp only [Op.effect, Ram.userMain4Save, Ram.reminderInterval, Ram.reminderSwitch]
      split
      · rfl
      · split <;> split <;> rfl
  | automaticSave week day enable =>
      refine free ?_
      simp only [Op.effect, Ram.userMain5Save, Ram.automaticInterval, Ram.automaticSwitch]
      split
      · rfl
      · split <;> split <;> rfl
  | moto reachesCycle => cases reachesCycle <;> exact free rfl
  | power value =>
      refine free ?_
      simp only [Op.effect, Ram.powerSet]
      split <;> rfl
  | deltaSave enable =>
      refine free ?_
      simp only [Op.effect, Ram.userMain6Save]
      split <;> rfl
  | _ => exact free rfl

/-- In every device state and at every moment, the tick counts handed over are
exact and in range exactly when the settings behind them are. -/
theorem ticks_exact_iff (device : Device) (moment : Moment) :
    (∀ one ∈ handed device moment, one.Exact) ↔ InRange device moment := by
  cases moment with
  | cycle => exact cycleHanded_exact_iff _
  | telemetryWait =>
      change (∀ one ∈ [waitHanded _], one.Exact) ↔ _
      rw [List.forall_mem_singleton]
      exact waitHanded_exact_iff _
  | operate op => exact operate_exact_iff device op
  | reboot ram => exact initHanded_exact_iff _

/-- The list of `cycleHanded` is what an accepted `Moto_Cycle` sets the two timers to. -/
theorem startCycle_initTick (moto : Moto.State) (settingBackwashtime : UInt16)
    (same : moto.inputs.settingBackwashtime = settingBackwashtime.toNat) :
    (cycleHanded settingBackwashtime).map Handed.ticks =
      [(moto.startCycle.cycleTimer.initTick : Int), (moto.startCycle.detectTimer.initTick : Int)] := by
  simp only [Moto.State.startCycle, Moto.State.motoRun, Moto.State.call, same]
  split <;> rfl

/-- Ten seconds of backwash, set from the network. -/
theorem short_backwash_wraps :
    ¬∀ one ∈ handed ((flashInit emptyStore blankRam).step (.backwashtime 10)) .cycle, one.Exact := by
  decide +kernel

/-! ## Set and reloaded -/

namespace TimerId

/-- The setting behind the timer. -/
def setting : TimerId → Settings → UInt32
  | .wti, settings => settings.telemetryInterval
  | .rcp, settings => settings.reportInterval
  | .apTimeout, settings => settings.apTimeout

/-- `syr_telemetry_interval_set`, `syr_report_interval_set` or `syr_ap_timeout_set`. -/
def set : TimerId → State → UInt32 → State
  | .wti, state, value => state.syrTelemetryIntervalSet value
  | .rcp, state, value => state.syrReportIntervalSet value
  | .apTimeout, state, value => state.syrApTimeoutSet value

/-- The arithmetic of the setter and of the initialiser stays within 32 bits. -/
def NoWrap : TimerId → UInt32 → Prop
  | .wti, value => value.toNat * 1000 < 0x100000000
  | .rcp, value => value.toNat * 60 * 1000 < 0x100000000
  | .apTimeout, value => value.toNat * 1000 < 0x100000000

end TimerId

/-- The setters of `wti_timer` and of `rcp_timer` count the value in seconds,
the initialiser of `rcp_timer` in minutes; `ap_timeout_set` counts it in ticks
and leaves the period alone for 0. -/
def SamePeriod (state : State) (value : UInt32) : TimerId → Prop
  | .wti => True
  | .rcp => value = 0
  | .apTimeout => value = 0 ∧ (state.timers .apTimeout).initTick = 0

namespace State

variable {state : State} {id : TimerId}

theorem initTick_syrTelemetryIntervalSet (value : UInt32) :
    ((state.syrTelemetryIntervalSet value).timers .wti).initTick = (value * 1000).toNat := by
  rw [syrTelemetryIntervalSet, andThen_timers rfl, wtiTimerSet, initTick_start, timers_setTime]
  rfl

theorem initTick_syrReportIntervalSet (value : UInt32) :
    ((state.syrReportIntervalSet value).timers .rcp).initTick = (value * 1000).toNat := by
  rw [syrReportIntervalSet, andThen_timers rfl, rcpTimerSet, initTick_start, timers_setTime]
  rfl

theorem initTick_syrApTimeoutSet (value : UInt32) :
    ((state.syrApTimeoutSet value).timers .apTimeout).initTick =
      if value = 0 then (state.timers .apTimeout).initTick else value.toNat := by
  change (((state.setRam (.apTimeout value)).apTimeoutSet value).timers .apTimeout).initTick = _
  rw [apTimeoutSet]
  split
  · rw [timers_stop]
    rfl
  · rw [timers_setTime]
    rfl

end State

/-- For every value that does not wrap, the period a timer has after its
setting was changed is the one it gets from that setting at boot exactly for
`wti_timer`, for 0, and where the period was 0 before. -/
theorem live_period_eq_reloaded_iff (state : State) (id : TimerId) (value : UInt32) (settings : Settings)
    (stored : id.setting settings = value) (exact_ : id.NoWrap value) :
    ((id.set state value).timers id).initTick = (initTick settings id).toNat ↔
      SamePeriod state value id := by
  cases id with
  | wti =>
      have loaded : settings.telemetryInterval = value := stored
      rw [TimerId.set, State.initTick_syrTelemetryIntervalSet, initTick, loaded]
      exact iff_of_true rfl trivial
  | rcp =>
      have loaded : settings.reportInterval = value := stored
      rw [TimerId.NoWrap] at exact_
      have seconds : value.toNat * 1000 ≤ value.toNat * 60 * 1000 := by omega
      have minutes : value.toNat * 60 ≤ value.toNat * 60 * 1000 := by omega
      rw [TimerId.set, State.initTick_syrReportIntervalSet, initTick, loaded, toNat_mul_thousand,
        toNat_minutes, Nat.mod_eq_of_lt (seconds.trans_lt exact_), Nat.mod_eq_of_lt (minutes.trans_lt exact_),
        Nat.mod_eq_of_lt exact_]
      rw [SamePeriod, ← UInt32.toNat_inj]
      change _ ↔ value.toNat = 0
      omega
  | apTimeout =>
      have loaded : settings.apTimeout = value := stored
      rw [TimerId.NoWrap] at exact_
      rw [TimerId.set, State.initTick_syrApTimeoutSet, initTick, loaded, toNat_mul_thousand,
        Nat.mod_eq_of_lt exact_, SamePeriod]
      split
      · rename_i off
        subst off
        simp
      · rename_i on
        have positive : value.toNat ≠ 0 := fun none => on (UInt32.toNat_inj.mp none)
        refine iff_of_false (fun same => ?_) fun both => on both.1
        omega

/-- Half an hour for `wti_timer`, set on a new device. -/
theorem wti_period_reloaded :
    TimerId.wti.NoWrap 1800 ∧
      ((TimerId.wti.set (boot emptyStore blankRam) 1800).timers .wti).initTick =
        (initTick (boot emptyStore blankRam).settings .wti).toNat := by
  have stored : TimerId.wti.setting (boot emptyStore blankRam).settings = 1800 := by decide +kernel
  have exact_ : TimerId.wti.NoWrap 1800 := by
    change 1800 * 1000 < 0x100000000
    decide
  exact ⟨exact_, (live_period_eq_reloaded_iff _ .wti 1800 _ stored exact_).mpr trivial⟩

/-- `rcp_timer` set to the 24 that a new device holds: seconds at run time, minutes at boot. -/
theorem rcp_period_not_reloaded :
    TimerId.rcp.setting (boot emptyStore blankRam).settings = 24 ∧ TimerId.rcp.NoWrap 24 ∧
      ((TimerId.rcp.set (boot emptyStore blankRam) 24).timers .rcp).initTick ≠
        (initTick (boot emptyStore blankRam).settings .rcp).toNat := by
  refine ⟨by decide +kernel, ?_, by decide +kernel⟩
  change 24 * 60 * 1000 < 0x100000000
  decide

end SyrFilter.Telemetry
