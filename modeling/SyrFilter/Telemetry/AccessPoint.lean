import SyrFilter.Lib.Runs
import SyrFilter.Telemetry.Timers

namespace SyrFilter.Telemetry

open SyrFilter.Lib SyrFilter.Storage

/-! # The time-out of the access point

`ap_timeout_control` starts the timer with the period it finds.  The period is
in milliseconds when `wifi_connect_init` gave it and in seconds when
`ap_timeout_set` did, and `ap_timeout_set` starts nothing.
-/

namespace State

variable (state : State)

/-- An enabled access point that is meant to end has its timer armed, with the
duration in ticks. -/
def Timed : Prop :=
  state.device.ram.wifiApEnable = 1 → state.settings.apTimeout ≠ 0 →
    (state.timers .apTimeout).active = true ∧
      (state.timers .apTimeout).initTick = state.settings.apTimeout.toNat * 1000

instance : Decidable state.Timed := inferInstanceAs (Decidable (_ → _ → _ ∧ _))

end State

/-- No APT command has given a duration since the boot. -/
def DurationLoaded (past : List Event) : Prop := ∀ value, .aptSet value ∈ past → value = 0

/-- `ap_timeout_control` disables, or there is no duration, or the duration is
the one of the boot and its milliseconds can be started. -/
def EnablesTimed (past : List Event) (state : State) (level : UInt8) : Prop :=
  level = 0 ∨ state.settings.apTimeout = 0 ∨
    DurationLoaded past ∧ state.settings.apTimeout.toNat ≤ 2147483

/-- The duration is not given while the access point is on, and the access
point is not enabled on a duration given since the boot. -/
def KeepsTimed (record : List Event × State) : Event → Prop
  | .aptSet value => record.2.halted = true ∨ record.2.device.ram.wifiApEnable ≠ 1 ∨ value = 0
  | .wadSet value => record.2.halted = true ∨ EnablesTimed record.1 record.2 value.toUInt8
  | .userMain32Enter nowButtonId => record.2.halted = true ∨ EnablesTimed record.1 record.2 nowButtonId
  | _ => True

namespace State

variable {state before after : State} {id : TimerId}

/-! ## What a step leaves of the access point -/

structure SameDuration (before after : State) : Prop where
  apTimeout : after.settings.apTimeout = before.settings.apTimeout
  initTick : (after.timers .apTimeout).initTick = (before.timers .apTimeout).initTick

structure SameAccessPoint (before after : State) : Prop extends SameDuration before after where
  wifiApEnable : after.device.ram.wifiApEnable = before.device.ram.wifiApEnable
  active : (after.timers .apTimeout).active = (before.timers .apTimeout).active

theorem SameAccessPoint.timed (same : SameAccessPoint before after) : after.Timed ↔ before.Timed := by
  rw [Timed, Timed, same.wifiApEnable, same.apTimeout, same.active, same.initTick]

theorem SameDuration.trans {middle : State} (first : SameDuration before middle)
    (second : SameDuration middle after) : SameDuration before after :=
  ⟨second.apTimeout.trans first.apTimeout, second.initTick.trans first.initTick⟩

theorem SameAccessPoint.refl : SameAccessPoint state state := ⟨⟨rfl, rfl⟩, rfl, rfl⟩

theorem SameAccessPoint.trans {middle : State} (first : SameAccessPoint before middle)
    (second : SameAccessPoint middle after) : SameAccessPoint before after :=
  ⟨first.toSameDuration.trans second.toSameDuration, second.wifiApEnable.trans first.wifiApEnable,
    second.active.trans first.active⟩

theorem same_of_timers (ram : after.device.ram = before.device.ram)
    (timer : after.timers .apTimeout = before.timers .apTimeout) : SameAccessPoint before after := by
  refine ⟨⟨?_, congrArg Timer.initTick timer⟩, congrArg Ram.wifiApEnable ram, congrArg Timer.active timer⟩
  exact congrArg (fun ram => ram.settings.apTimeout) ram

theorem same_andThen {rest : State → State} (same : ∀ state, SameAccessPoint state (rest state)) :
    SameAccessPoint state (state.andThen rest) := by
  rw [andThen]
  split
  · exact .refl
  · exact same state

theorem active_start_iff : ((state.start id).timers id).active = true ↔ (state.timers id).Startable := by
  by_cases startable : (state.timers id).Startable
  · rw [start_of_startable startable, timers_putTimer]
    exact iff_of_true rfl startable
  · rw [start_of_not_startable startable]
    change ((state.putTimer id (state.timers id).stop).timers id).active = true ↔ _
    rw [timers_putTimer]
    exact iff_of_false nofun startable

theorem start_same (upload : id ≠ .apTimeout) : SameAccessPoint state (state.start id) :=
  same_of_timers (congrArg Device.ram start_device) (timers_start_of_ne upload.symm)

theorem stop_same (upload : id ≠ .apTimeout) : SameAccessPoint state (state.stop id) :=
  same_of_timers rfl (timers_putTimer_of_ne _ upload.symm)

theorem setTime_same (upload : id ≠ .apTimeout) (ticks : UInt32) :
    SameAccessPoint state (state.setTime id ticks) :=
  same_of_timers rfl (timers_putTimer_of_ne _ upload.symm)

theorem power_same (value : UInt8) : SameAccessPoint state (state.operate (.power value)) := by
  have ram : ((Op.power value).effect state.device.ram).1.settings.apTimeout = state.settings.apTimeout ∧
      ((Op.power value).effect state.device.ram).1.wifiApEnable = state.device.ram.wifiApEnable := by
    rw [Op.effect, Ram.powerSet]
    split
    · exact ⟨rfl, rfl⟩
    · exact ⟨rfl, rfl⟩
  exact ⟨⟨ram.1, rfl⟩, ram.2, rfl⟩

theorem call_same (made : List Call) : SameAccessPoint state (state.call made) := same_of_timers rfl rfl

theorem errorCounted_same : SameAccessPoint state (state.operate .errorCounted) := ⟨⟨rfl, rfl⟩, rfl, rfl⟩

theorem batteryCheck_keepsAccessPoint (batValue : UInt32) :
    SameAccessPoint state (state.batteryCheck batValue) := by
  have sampled : SameAccessPoint state
      { state with pastBatVoltage := state.nowBatVoltage, nowBatVoltage := batValue } :=
    same_of_timers rfl rfl
  rw [batteryCheck]
  split
  · split
    · split
      · exact (sampled.trans (power_same 0)).trans (call_same _)
      · exact ((sampled.trans (power_same 1)).trans errorCounted_same).trans (call_same _)
    · exact sampled
  · split
    · exact ((sampled.trans (power_same 1)).trans errorCounted_same).trans (call_same _)
    · exact sampled

theorem supplyBack_keepsAccessPoint : SameAccessPoint state state.supplyBack := by
  rw [supplyBack]
  split
  · exact ((power_same 0).trans (call_same _)).trans (call_same _)
  · exact call_same _

theorem powerStateChange_same (level : UInt8) : SameAccessPoint state (state.powerStateChange level) := by
  have modeSet : ∀ state : State, SameAccessPoint state (state.telemetryIntervalModeSet level) := by
    intro state
    rw [telemetryIntervalModeSet]
    split
    · have started : SameAccessPoint state (state.start .wti) := start_same (by decide)
      exact started.trans (same_andThen fun state => stop_same (by decide))
    · have stopped : SameAccessPoint state (state.stop .wti) := stop_same (by decide)
      exact stopped.trans (start_same (by decide))
  rw [powerStateChange]
  split
  · have called : SameAccessPoint state ({ state with nowDcLevel := level }.call
        (if level ≠ 0 then [.sleepRequest] else [.screenTimerRefresh, .sleepRelease])) :=
      same_of_timers rfl rfl
    exact called.trans (modeSet _)
  · exact .refl

theorem powerCallback_same (dcVoltage batValue : UInt32) :
    SameAccessPoint state (state.powerCallback dcVoltage batValue) := by
  have polled : SameAccessPoint state { state with polled := true } := same_of_timers rfl rfl
  rw [powerCallback]
  split
  · exact (polled.trans (powerStateChange_same 0)).trans (same_andThen fun _ => batteryCheck_keepsAccessPoint batValue)
  split
  · exact (polled.trans (powerStateChange_same 1)).trans (same_andThen fun _ => supplyBack_keepsAccessPoint)
  · exact polled

/-- A setter of one of the other two periods. -/
theorem setter_same {op : Op} (upload : id ≠ .apTimeout) (ticks : UInt32)
    (neutral : ∀ ram, (op.effect ram).1.settings.apTimeout = ram.settings.apTimeout ∧
      (op.effect ram).1.wifiApEnable = ram.wifiApEnable) :
    SameAccessPoint state
      ((((state.setRam op).setTime id ticks).start id).andThen fun set => set.operate op) := by
  have ram : SameAccessPoint state (state.setRam op) := ⟨⟨(neutral _).1, rfl⟩, (neutral _).2, rfl⟩
  have set := (ram.trans (setTime_same upload ticks)).trans (start_same upload)
  exact set.trans (same_andThen fun _ => ⟨⟨(neutral _).1, rfl⟩, (neutral _).2, rfl⟩)

theorem syrTelemetryIntervalSet_same (value : UInt32) :
    SameAccessPoint state (state.syrTelemetryIntervalSet value) :=
  setter_same (by decide) (wtiTimerSetTick value) fun _ => ⟨rfl, rfl⟩

theorem syrReportIntervalSet_same (value : UInt32) :
    SameAccessPoint state (state.syrReportIntervalSet value) :=
  setter_same (by decide) (rcpTimerSetTick value) fun _ => ⟨rfl, rfl⟩

/-! ## Switching, timing and expiring -/

theorem apTimeoutControl_same (level : UInt8) : SameDuration state (state.apTimeoutControl level) := by
  rw [apTimeoutControl]
  split
  · dsimp only
    split
    · refine ⟨?_, initTick_start⟩
      rw [settings, start_device]
      rfl
    · exact ⟨rfl, rfl⟩
  · refine ⟨rfl, ?_⟩
    rw [timers_stop]
    rfl

/-- Enabling is timed when the period it finds is the duration in ticks. -/
theorem apTimeoutControl_timed_iff (level : UInt8) :
    (state.apTimeoutControl level).Timed ↔
      level = 0 ∨ state.settings.apTimeout = 0 ∨
        (state.timers .apTimeout).Startable ∧
          (state.timers .apTimeout).initTick = state.settings.apTimeout.toNat * 1000 := by
  rw [apTimeoutControl]
  split
  · rename_i on
    rw [or_iff_right on]
    dsimp only
    split
    · rename_i timed
      change state.settings.apTimeout ≠ 0 at timed
      have duration : ((state.operate (.wifiApEnable 1)).start .apTimeout).settings.apTimeout =
          state.settings.apTimeout := by
        rw [settings, start_device]
        rfl
      have enabled : ((state.operate (.wifiApEnable 1)).start .apTimeout).device.ram.wifiApEnable = 1 := by
        rw [start_device]
        rfl
      rw [or_iff_right timed, Timed, duration, enabled, forall_prop_of_true rfl, forall_prop_of_true timed,
        initTick_start]
      exact and_congr_left fun _ => active_start_iff
    · rename_i untimed
      have ended : state.settings.apTimeout = 0 := not_not.mp untimed
      exact iff_of_true (fun _ timed => absurd ended timed) (.inl ended)
  · rename_i off
    exact iff_of_true (fun enabled => nomatch enabled) (.inl (not_not.mp off))

theorem syrApTimeoutSet_ram (state : State) (value : UInt32) :
    (state.syrApTimeoutSet value).settings.apTimeout = value ∧
      (state.syrApTimeoutSet value).device.ram.wifiApEnable = state.device.ram.wifiApEnable := by
  rw [syrApTimeoutSet, apTimeoutSet]
  split
  · exact ⟨rfl, rfl⟩
  · exact ⟨rfl, rfl⟩

theorem syrApTimeoutSet_initTick {value : UInt32} (given : value ≠ 0) :
    ((state.syrApTimeoutSet value).timers .apTimeout).initTick = value.toNat := by
  change (((state.setRam (.apTimeout value)).apTimeoutSet value).timers .apTimeout).initTick = value.toNat
  rw [apTimeoutSet, if_neg given, timers_setTime]
  rfl

/-- A new duration is handed over in seconds, which is never the same number of ticks. -/
theorem syrApTimeoutSet_timed_iff (value : UInt32) :
    (state.syrApTimeoutSet value).Timed ↔ state.device.ram.wifiApEnable ≠ 1 ∨ value = 0 := by
  obtain ⟨duration, enable⟩ := syrApTimeoutSet_ram state value
  rw [Timed, duration, enable]
  by_cases enabled : state.device.ram.wifiApEnable = 1
  · rw [or_iff_right (not_not.mpr enabled), forall_prop_of_true enabled]
    by_cases ended : value = 0
    · exact iff_of_true (fun timed => absurd ended timed) ended
    · refine iff_of_false (fun timed => ?_) ended
      obtain ⟨-, period⟩ := timed ended
      rw [syrApTimeoutSet_initTick ended] at period
      have positive : value.toNat ≠ 0 := fun zero => ended (UInt32.toNat_inj.mp zero)
      omega
  · exact iff_of_true (fun on => absurd on enabled) (.inl enabled)

theorem apTimeoutExpires_timed (timed : state.Timed) : state.apTimeoutExpires.Timed := by
  rw [apTimeoutExpires]
  split
  · exact fun enabled => nomatch enabled
  · exact timed

theorem apTimeoutExpires_keepsDuration : SameDuration state state.apTimeoutExpires := by
  rw [apTimeoutExpires]
  split
  · refine ⟨rfl, ?_⟩
    change ((state.stop .apTimeout).timers .apTimeout).initTick = _
    rw [timers_stop]
    rfl
  · exact ⟨rfl, rfl⟩

end State

/-! ## Runs -/

/-- The period in force: milliseconds of the loaded duration, or the seconds of
the last one given. -/
def PeriodInForce (record : List Event × State) : Prop :=
  record.2.halted = true ∨ record.2.settings.apTimeout = 0 ∨
    DurationLoaded record.1 ∧
        (record.2.timers .apTimeout).initTick = (record.2.settings.apTimeout * 1000).toNat ∨
      ¬DurationLoaded record.1 ∧
        (record.2.timers .apTimeout).initTick = record.2.settings.apTimeout.toNat

/-- An event that gives no duration leaves the period in force. -/
theorem State.SameDuration.periodInForce {past : List Event} {state after : State} {event : Event}
    (same : state.SameDuration after) (silent : ∀ value, .aptSet value ≠ event)
    (inForce : PeriodInForce (past, state)) (running : ¬state.halted = true) :
    PeriodInForce (past ++ [event], after) := by
  have loaded : DurationLoaded (past ++ [event]) ↔ DurationLoaded past := by
    refine forall_congr' fun value => ?_
    rw [List.mem_append, List.mem_singleton, or_iff_left (silent value)]
  refine .inr ?_
  change after.settings.apTimeout = 0 ∨ _ ∧ (after.timers .apTimeout).initTick = (after.settings.apTimeout * 1000).toNat ∨
    _ ∧ (after.timers .apTimeout).initTick = after.settings.apTimeout.toNat
  rw [same.apTimeout, same.initTick, loaded]
  exact inForce.resolve_left running

theorem step_periodInForce {record : List Event × State} (inForce : PeriodInForce record) (event : Event) :
    PeriodInForce (recording step record event) := by
  obtain ⟨past, state⟩ := record
  change PeriodInForce (past ++ [event], step state event)
  rw [step]
  split
  · rename_i halted
    exact .inl halted
  · rename_i running
    cases event with
    | powerCallback dcVoltage batValue =>
        exact (State.powerCallback_same dcVoltage batValue).toSameDuration.periodInForce nofun inForce running
    | wtiSet value =>
        exact (State.syrTelemetryIntervalSet_same value).toSameDuration.periodInForce nofun inForce running
    | rcpSet value =>
        exact (State.syrReportIntervalSet_same value).toSameDuration.periodInForce nofun inForce running
    | aptSet value =>
        obtain ⟨duration, -⟩ := State.syrApTimeoutSet_ram state value
        by_cases ended : value = 0
        · exact .inr (.inl (duration.trans ended))
        · have given : ¬DurationLoaded (past ++ [.aptSet value]) := fun loaded =>
            ended (loaded value (List.mem_append_right past (List.mem_singleton_self _)))
          refine .inr (.inr (.inr ⟨given, ?_⟩))
          change ((state.syrApTimeoutSet value).timers .apTimeout).initTick =
            (state.syrApTimeoutSet value).settings.apTimeout.toNat
          rw [duration]
          exact State.syrApTimeoutSet_initTick ended
    | wadSet value =>
        exact (State.apTimeoutControl_same value.toUInt8).periodInForce nofun inForce running
    | userMain32Enter nowButtonId =>
        exact (State.apTimeoutControl_same nowButtonId).periodInForce nofun inForce running
    | apTimeoutExpires => exact State.apTimeoutExpires_keepsDuration.periodInForce nofun inForce running

/-- The period in force is the duration in ticks, and can be started, exactly
for a loaded duration of at most 2147483 seconds. -/
theorem startable_iff_loaded {past : List Event} {state : State} (inForce : PeriodInForce (past, state))
    (running : ¬state.halted = true) (timed : state.settings.apTimeout ≠ 0) :
    (state.timers .apTimeout).Startable ∧
        (state.timers .apTimeout).initTick = state.settings.apTimeout.toNat * 1000 ↔
      DurationLoaded past ∧ state.settings.apTimeout.toNat ≤ 2147483 := by
  have positive : state.settings.apTimeout.toNat ≠ 0 := fun zero => timed (UInt32.toNat_inj.mp zero)
  have product : (state.settings.apTimeout * 1000).toNat = state.settings.apTimeout.toNat * 1000 % 2 ^ 32 :=
    UInt32.toNat_mul ..
  rw [Timer.Startable]
  rcases (inForce.resolve_left running).resolve_left timed with ⟨loaded, ticks⟩ | ⟨given, ticks⟩
  · change (state.timers .apTimeout).initTick = (state.settings.apTimeout * 1000).toNat at ticks
    rw [and_iff_right loaded, ticks, product]
    constructor
    · rintro ⟨short, whole⟩
      omega
    · intro bounded
      have whole : state.settings.apTimeout.toNat * 1000 % 2 ^ 32 = state.settings.apTimeout.toNat * 1000 :=
        Nat.mod_eq_of_lt (by omega)
      exact ⟨by omega, whole⟩
  · change (state.timers .apTimeout).initTick = state.settings.apTimeout.toNat at ticks
    refine iff_of_false ?_ fun both => given both.1
    rintro ⟨-, period⟩
    omega

theorem apTimeoutControl_timed_iff_enablesTimed {past : List Event} {state : State}
    (inForce : PeriodInForce (past, state)) (running : ¬state.halted = true) (level : UInt8) :
    (state.apTimeoutControl level).Timed ↔ EnablesTimed past state level := by
  rw [State.apTimeoutControl_timed_iff, EnablesTimed]
  refine or_congr_right ?_
  by_cases timed : state.settings.apTimeout = 0
  · exact iff_of_true (.inl timed) (.inl timed)
  · rw [or_iff_right timed, or_iff_right timed]
    exact startable_iff_loaded inForce running timed

theorem step_timed_iff {record : List Event × State} (inForce : PeriodInForce record)
    (timed : record.2.Timed) (event : Event) :
    (recording step record event).2.Timed ↔ KeepsTimed record event := by
  obtain ⟨past, state⟩ := record
  change (step state event).Timed ↔ _
  rw [step]
  split
  · rename_i halted
    refine iff_of_true timed ?_
    cases event with
    | aptSet value => exact .inl halted
    | wadSet value => exact .inl halted
    | userMain32Enter nowButtonId => exact .inl halted
    | powerCallback dcVoltage batValue => exact trivial
    | wtiSet value => exact trivial
    | rcpSet value => exact trivial
    | apTimeoutExpires => exact trivial
  · rename_i running
    cases event with
    | powerCallback dcVoltage batValue =>
        exact iff_of_true ((State.powerCallback_same dcVoltage batValue).timed.mpr timed) trivial
    | wtiSet value =>
        exact iff_of_true ((State.syrTelemetryIntervalSet_same value).timed.mpr timed) trivial
    | rcpSet value =>
        exact iff_of_true ((State.syrReportIntervalSet_same value).timed.mpr timed) trivial
    | aptSet value => exact (State.syrApTimeoutSet_timed_iff value).trans (or_iff_right running).symm
    | wadSet value =>
        exact (apTimeoutControl_timed_iff_enablesTimed inForce running _).trans (or_iff_right running).symm
    | userMain32Enter nowButtonId =>
        exact (apTimeoutControl_timed_iff_enablesTimed inForce running _).trans (or_iff_right running).symm
    | apTimeoutExpires => exact iff_of_true (State.apTimeoutExpires_timed timed) trivial

/-- From every boot, an enabled access point with a duration has its timer
armed with that duration in every state exactly when each step meets the
condition. -/
theorem access_point_timed_iff (flash : Flash) (ram : Ram) (events : List Event) :
    Throughout step State.Timed (boot flash ram) events ↔
      EachStep (recording step) KeepsTimed ([], boot flash ram) events := by
  rw [← throughout_recording []]
  have initial : PeriodInForce ([], boot flash ram) :=
    .inr (.inr (.inl ⟨(fun value given => nomatch given), rfl⟩))
  apply throughout_iff_eachStep PeriodInForce initial (fun enabled => nomatch enabled)
  · exact fun record event inForce _ _ => step_periodInForce inForce event
  · exact fun record event inForce timed => step_timed_iff inForce timed event

/-- A minute given over the air is sixty ticks long. -/
theorem sixty_seconds_as_ticks :
    ¬Throughout step State.Timed (boot emptyStore blankRam) [.aptSet 60, .wadSet 1] := by
  intro holds
  have timed := holds 2
  revert timed
  decide +kernel

end SyrFilter.Telemetry
