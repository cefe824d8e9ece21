import SyrFilter.Lib.Runs
import SyrFilter.Telemetry.Timers

namespace SyrFilter.Telemetry

open SyrFilter.Lib SyrFilter.Storage

/-! # The upload timer and the supply

On the mains `wti_timer` uploads, on battery `rcp_timer`.  The change is made
by `Power_State_Change` alone, and only when the level differs from the last
one, while the two setters start their timer on any supply.
-/

namespace State

variable (state : State)

/-- Armed in a firmware that has not hung. -/
def Running (id : TimerId) : Prop := state.halted = false ∧ (state.timers id).active = true

def FollowsSupply : Prop :=
  if state.nowDcLevel = 0 then state.Running .rcp ∧ ¬state.Running .wti
  else state.Running .wti ∧ ¬state.Running .rcp

/-- After the first `PowerCallback` the timer of the supply is the one that runs. -/
def Supplied : Prop := state.polled = true → state.FollowsSupply

instance (id : TimerId) : Decidable (state.Running id) := inferInstanceAs (Decidable (_ ∧ _))

instance : Decidable state.FollowsSupply :=
  inferInstanceAs (Decidable (if state.nowDcLevel = 0 then _ ∧ ¬_ else _ ∧ ¬_))

instance : Decidable state.Supplied := inferInstanceAs (Decidable (_ → _))

end State

/-- The upload timer of a supply level. -/
def uploadTimer (level : UInt8) : TimerId := if level = 0 then .rcp else .wti

/-- Enabling the access point does not hang. -/
def StartsAccessPoint (state : State) (level : UInt8) : Prop :=
  level ≠ 0 → state.settings.apTimeout ≠ 0 → (state.timers .apTimeout).Startable

/-- A `PowerCallback` that finds another level can start its timer, and a first
one that finds the level of the start-up code finds `rcp_timer` alone started;
afterwards only the timer of the supply is set, and to a period that can be
started. -/
def KeepsSupplied (state : State) : Event → Prop
  | .powerCallback dcVoltage _ =>
      state.halted = true ∨
        if State.getDcLevel dcVoltage = state.nowDcLevel then
          state.polled = true ∨ (state.timers .rcp).active = true ∧ (state.timers .wti).active = false
        else (state.timers (uploadTimer (State.getDcLevel dcVoltage))).Startable
  | .wtiSet value =>
      state.polled = true → state.nowDcLevel ≠ 0 ∧ (wtiTimerSetTick value).toNat < 0xFFFFFFFF / 2
  | .rcpSet value =>
      state.polled = true → state.nowDcLevel = 0 ∧ (rcpTimerSetTick value).toNat < 0xFFFFFFFF / 2
  | .wadSet value => state.polled = true → StartsAccessPoint state value.toUInt8
  | .userMain32Enter nowButtonId => state.polled = true → StartsAccessPoint state nowButtonId
  | _ => True

namespace State

variable {state before after : State} {id : TimerId}

/-- What the upload timers have to do with. -/
structure SameSupply (before after : State) : Prop where
  wti : after.timers .wti = before.timers .wti
  rcp : after.timers .rcp = before.timers .rcp
  halted : after.halted = before.halted
  nowDcLevel : after.nowDcLevel = before.nowDcLevel
  polled : after.polled = before.polled

theorem SameSupply.followsSupply (same : SameSupply before after) :
    after.FollowsSupply ↔ before.FollowsSupply := by
  simp only [FollowsSupply, Running, same.nowDcLevel, same.halted, same.wti, same.rcp]

theorem SameSupply.supplied (same : SameSupply before after) : after.Supplied ↔ before.Supplied := by
  rw [Supplied, Supplied, same.polled, same.followsSupply]

theorem SameSupply.trans {middle : State} (first : SameSupply before middle)
    (second : SameSupply middle after) : SameSupply before after :=
  ⟨second.wti.trans first.wti, second.rcp.trans first.rcp, second.halted.trans first.halted,
    second.nowDcLevel.trans first.nowDcLevel, second.polled.trans first.polled⟩

theorem sameSupply_andThen {rest : State → State} (same : ∀ state, SameSupply state (rest state)) :
    SameSupply state (state.andThen rest) := by
  rw [andThen]
  split
  · exact ⟨rfl, rfl, rfl, rfl, rfl⟩
  · exact same state

theorem batteryCheck_same (batValue : UInt32) : SameSupply state (state.batteryCheck batValue) := by
  rw [batteryCheck]
  split
  · split
    · split
      · exact ⟨rfl, rfl, rfl, rfl, rfl⟩
      · exact ⟨rfl, rfl, rfl, rfl, rfl⟩
    · exact ⟨rfl, rfl, rfl, rfl, rfl⟩
  · split
    · exact ⟨rfl, rfl, rfl, rfl, rfl⟩
    · exact ⟨rfl, rfl, rfl, rfl, rfl⟩

theorem supplyBack_same : SameSupply state state.supplyBack := by
  rw [supplyBack]
  split
  · exact ⟨rfl, rfl, rfl, rfl, rfl⟩
  · exact ⟨rfl, rfl, rfl, rfl, rfl⟩

theorem follows_on_battery (battery : state.nowDcLevel = 0) :
    state.FollowsSupply ↔
      state.halted = false ∧ (state.timers .rcp).active = true ∧ (state.timers .wti).active = false := by
  rw [FollowsSupply, if_pos battery, Running, Running]
  constructor
  · rintro ⟨⟨running, rcp⟩, other⟩
    exact ⟨running, rcp, Bool.eq_false_iff.mpr fun wti => other ⟨running, wti⟩⟩
  · rintro ⟨running, rcp, wti⟩
    exact ⟨⟨running, rcp⟩, fun other => Bool.eq_false_iff.mp wti other.2⟩

theorem follows_on_mains (mains : state.nowDcLevel ≠ 0) :
    state.FollowsSupply ↔
      state.halted = false ∧ (state.timers .wti).active = true ∧ (state.timers .rcp).active = false := by
  rw [FollowsSupply, if_neg mains, Running, Running]
  constructor
  · rintro ⟨⟨running, wti⟩, other⟩
    exact ⟨running, wti, Bool.eq_false_iff.mpr fun rcp => other ⟨running, rcp⟩⟩
  · rintro ⟨running, wti, rcp⟩
    exact ⟨⟨running, wti⟩, fun other => Bool.eq_false_iff.mp rcp other.2⟩

theorem FollowsSupply.running (follows : state.FollowsSupply) : state.halted = false := by
  rw [FollowsSupply] at follows
  split at follows
  · exact follows.1.1
  · exact follows.1.1

theorem not_followsSupply_of_halted (halted : state.halted = true) : ¬state.FollowsSupply := by
  intro follows
  rw [follows.running] at halted
  cases halted

/-! ## The change of supply -/

/-- A timer starts running or the firmware hangs. -/
theorem start_spec (state : State) (id : TimerId) :
    ((state.timers id).Startable ∧ (state.start id).halted = state.halted ∧
        ((state.start id).timers id).active = true) ∨
      (¬(state.timers id).Startable ∧ (state.start id).halted = true) := by
  by_cases startable : (state.timers id).Startable
  · refine .inl ⟨startable, ?_⟩
    rw [start_of_startable startable, timers_putTimer]
    exact ⟨rfl, rfl⟩
  · refine .inr ⟨startable, ?_⟩
    rw [start_of_not_startable startable]

theorem start_nowDcLevel : (state.start id).nowDcLevel = state.nowDcLevel := by
  rw [start]
  split <;> rfl

theorem start_polled : (state.start id).polled = state.polled := by
  rw [start]
  split <;> rfl

theorem modeSet_follows_iff (state : State) (running : state.halted = false) :
    (state.telemetryIntervalModeSet state.nowDcLevel).FollowsSupply ↔
      (state.timers (uploadTimer state.nowDcLevel)).Startable := by
  rw [telemetryIntervalModeSet, uploadTimer]
  by_cases battery : state.nowDcLevel = 0
  · have rcp : (state.stop .wti).timers .rcp = state.timers .rcp := timers_putTimer_of_ne _ (by decide)
    have wti : ((state.stop .wti).start .rcp).timers .wti = (state.timers .wti).stop :=
      (timers_start_of_ne (by decide)).trans timers_stop
    rw [if_neg (not_not.mpr battery), if_pos battery, ← rcp]
    rcases start_spec (state.stop .wti) .rcp with ⟨startable, kept, armed⟩ | ⟨refused, hung⟩
    · have level : ((state.stop .wti).start .rcp).nowDcLevel = 0 := start_nowDcLevel.trans battery
      refine iff_of_true ((follows_on_battery level).mpr ⟨kept.trans running, armed, ?_⟩) startable
      rw [wti]
      rfl
    · exact iff_of_false (not_followsSupply_of_halted hung) refused
  · rw [if_pos battery, if_neg battery]
    rcases start_spec state .wti with ⟨startable, kept, armed⟩ | ⟨refused, hung⟩
    · have wti : ((state.start .wti).stop .rcp).timers .wti = (state.start .wti).timers .wti :=
        timers_putTimer_of_ne _ (by decide)
      have goes : ¬(state.start .wti).halted = true := by
        rw [kept, running]
        decide
      have level : ((state.start .wti).stop .rcp).nowDcLevel ≠ 0 := start_nowDcLevel.trans_ne battery
      rw [andThen, if_neg goes]
      refine iff_of_true ((follows_on_mains level).mpr ⟨kept.trans running, ?_, ?_⟩) startable
      · rw [wti]
        exact armed
      · rw [timers_stop]
        rfl
    · refine iff_of_false (not_followsSupply_of_halted ?_) refused
      rw [andThen, if_pos hung]
      exact hung

theorem modeSet_polled (level : UInt8) : (state.telemetryIntervalModeSet level).polled = state.polled := by
  rw [telemetryIntervalModeSet]
  split
  · have started : (state.start .wti).polled = state.polled := start_polled
    rw [andThen]
    split
    · exact started
    · exact started
  · exact start_polled

/-- `PowerCallback` follows the level it samples or finds what was there. -/
theorem powerCallback_supplied_iff (running : state.halted = false)
    (level : state.nowDcLevel = 0 ∨ state.nowDcLevel = 1) (dcVoltage batValue : UInt32) :
    (state.powerCallback dcVoltage batValue).Supplied ↔
      if getDcLevel dcVoltage = state.nowDcLevel then state.FollowsSupply
      else (state.timers (uploadTimer (getDcLevel dcVoltage))).Startable := by
  have changes : ∀ {sampled : UInt8}, state.nowDcLevel ≠ sampled →
      (({ state with polled := true }.powerStateChange sampled).Supplied ↔
        (state.timers (uploadTimer sampled)).Startable) := by
    intro sampled changed
    rw [powerStateChange, if_pos changed, Supplied, modeSet_polled]
    refine (forall_prop_of_true rfl).trans ?_
    exact modeSet_follows_iff ({ { state with polled := true } with nowDcLevel := sampled }.call _) running
  have remains : ({ state with polled := true } : State).Supplied ↔ state.FollowsSupply :=
    forall_prop_of_true rfl
  rw [powerCallback]
  split
  · rename_i battery
    rw [battery, (sameSupply_andThen fun _ => batteryCheck_same batValue).supplied]
    split
    · rename_i same
      rw [powerStateChange, if_neg (not_not.mpr same.symm)]
      exact remains
    · rename_i changed
      exact changes (Ne.symm changed)
  · rename_i mains
    have one : getDcLevel dcVoltage = 1 := by
      rw [getDcLevel] at mains ⊢
      split at mains
      · rename_i high
        exact if_pos high
      · exact absurd rfl mains
    rw [one]
    rcases level with zero | full
    · have changed : state.nowDcLevel ≠ 1 := by
        rw [zero]
        decide
      rw [if_pos zero, if_neg (Ne.symm changed), (sameSupply_andThen fun _ => supplyBack_same).supplied]
      exact changes changed
    · have powered : ¬state.nowDcLevel = 0 := by
        rw [full]
        decide
      rw [if_neg powered, if_pos full.symm]
      exact remains

/-! ## The setters -/

/-- Setting the period of a timer that already runs keeps it running; setting
the other one starts it as well. -/
theorem set_follows_iff (upload : id ≠ .apTimeout) (follows : state.FollowsSupply) (ticks : UInt32) :
    ((state.setTime id ticks).start id).FollowsSupply ↔
      id = uploadTimer state.nowDcLevel ∧ ticks.toNat < 0xFFFFFFFF / 2 := by
  have startable : ((state.setTime id ticks).timers id).Startable ↔ ticks.toNat < 0xFFFFFFFF / 2 := by
    rw [timers_setTime]
    exact Iff.rfl
  have level : ((state.setTime id ticks).start id).nowDcLevel = state.nowDcLevel := start_nowDcLevel
  have others : ∀ other, other ≠ id →
      ((state.setTime id ticks).start id).timers other = state.timers other := fun other different =>
    (timers_start_of_ne different).trans (timers_putTimer_of_ne _ different)
  rcases start_spec (state.setTime id ticks) id with ⟨fits, kept, armed⟩ | ⟨refused, hung⟩
  · rw [and_iff_left (startable.mp fits), uploadTimer]
    have running := kept.trans follows.running
    by_cases battery : state.nowDcLevel = 0
    · obtain ⟨-, rcp, wti⟩ := (follows_on_battery battery).mp follows
      rw [follows_on_battery (level.trans battery), if_pos battery]
      cases id with
      | wti => exact iff_of_false (fun all => nomatch armed.symm.trans all.2.2) nofun
      | rcp =>
          refine iff_of_true ⟨running, armed, ?_⟩ rfl
          rw [others .wti (by decide)]
          exact wti
      | apTimeout => exact absurd rfl upload
    · obtain ⟨-, wti, rcp⟩ := (follows_on_mains battery).mp follows
      rw [follows_on_mains (level.trans_ne battery), if_neg battery]
      cases id with
      | wti =>
          refine iff_of_true ⟨running, armed, ?_⟩ rfl
          rw [others .rcp (by decide)]
          exact rcp
      | rcp => exact iff_of_false (fun all => nomatch armed.symm.trans all.2.2) nofun
      | apTimeout => exact absurd rfl upload
  · exact iff_of_false (not_followsSupply_of_halted hung) fun both => refused (startable.mpr both.2)

theorem operate_same (op : Op) : SameSupply state (state.operate op) := ⟨rfl, rfl, rfl, rfl, rfl⟩

theorem putTimer_same (timer : Timer) : SameSupply state (state.putTimer .apTimeout timer) :=
  ⟨timers_putTimer_of_ne _ (by decide), timers_putTimer_of_ne _ (by decide), rfl, rfl, rfl⟩

/-- A setter, up to the flash writes that follow the timer calls. -/
theorem setter_supplied_iff (upload : id ≠ .apTimeout) (supplied : state.Supplied) (op : Op) (ticks : UInt32) :
    ((((state.setRam op).setTime id ticks).start id).andThen fun set => set.operate op).Supplied ↔
      (state.polled = true → id = uploadTimer state.nowDcLevel ∧ ticks.toNat < 0xFFFFFFFF / 2) := by
  rw [(sameSupply_andThen fun state => operate_same op).supplied, Supplied, start_polled]
  refine forall_congr' fun polled => ?_
  have follows : (state.setRam op).FollowsSupply := supplied polled
  exact set_follows_iff upload follows ticks

theorem apTimeoutControl_supplied_iff (supplied : state.Supplied) (level : UInt8) :
    (state.apTimeoutControl level).Supplied ↔ (state.polled = true → StartsAccessPoint state level) := by
  rw [apTimeoutControl, StartsAccessPoint]
  split
  · rename_i on
    dsimp only
    split
    · rename_i timed
      rcases start_spec (state.operate (.wifiApEnable 1)) .apTimeout with ⟨fits, kept, -⟩ | ⟨refused, hung⟩
      · have same : SameSupply state ((state.operate (.wifiApEnable 1)).start .apTimeout) :=
          ⟨timers_start_of_ne (by decide), timers_start_of_ne (by decide), kept, start_nowDcLevel, start_polled⟩
        exact iff_of_true (same.supplied.mpr supplied) fun _ _ _ => fits
      · rw [Supplied, start_polled]
        refine forall_congr' fun polled => ?_
        exact iff_of_false (not_followsSupply_of_halted hung) fun starts => refused (starts on timed)
    · rename_i untimed
      exact iff_of_true ((operate_same _).supplied.mpr supplied) fun _ _ timed => absurd timed untimed
  · rename_i off
    have same : SameSupply state ((state.operate (.wifiApEnable 0)).stop .apTimeout) :=
      (operate_same _).trans (putTimer_same _)
    exact iff_of_true (same.supplied.mpr supplied) fun _ on => absurd on off

theorem apTimeoutSet_same (value : UInt32) : SameSupply state (state.syrApTimeoutSet value) := by
  have ram : SameSupply state (state.setRam (.apTimeout value)) := ⟨rfl, rfl, rfl, rfl, rfl⟩
  have set : SameSupply (state.setRam (.apTimeout value))
      ((state.setRam (.apTimeout value)).apTimeoutSet value) := by
    rw [apTimeoutSet]
    split
    · exact putTimer_same _
    · exact putTimer_same _
  exact (ram.trans set).trans (operate_same _)

theorem apTimeoutExpires_same : SameSupply state state.apTimeoutExpires := by
  rw [apTimeoutExpires]
  split
  · exact (putTimer_same _).trans (operate_same _)
  · exact ⟨rfl, rfl, rfl, rfl, rfl⟩

/-! ## Runs -/

/-- The level is one that `Get_DC_Level` returns, and 0 before the first `PowerCallback`. -/
structure Leveled (state : State) : Prop where
  level : state.nowDcLevel = 0 ∨ state.nowDcLevel = 1
  unpolled : state.polled = false → state.nowDcLevel = 0

theorem Leveled.of_eq (leveled : before.Leveled) (level : after.nowDcLevel = before.nowDcLevel)
    (polled : after.polled = before.polled) : after.Leveled := by
  constructor
  · rw [level]
    exact leveled.level
  · rw [level, polled]
    exact leveled.unpolled

theorem SameSupply.leveled (same : SameSupply before after) (leveled : before.Leveled) : after.Leveled :=
  leveled.of_eq same.nowDcLevel same.polled

theorem modeSet_nowDcLevel (level : UInt8) :
    (state.telemetryIntervalModeSet level).nowDcLevel = state.nowDcLevel := by
  rw [telemetryIntervalModeSet]
  split
  · have started : (state.start .wti).nowDcLevel = state.nowDcLevel := start_nowDcLevel
    rw [andThen]
    split
    · exact started
    · exact started
  · exact start_nowDcLevel

theorem powerStateChange_leveled (leveled : state.Leveled) (polled : state.polled = true) {level : UInt8}
    (sampled : level = 0 ∨ level = 1) : (state.powerStateChange level).Leveled := by
  rw [powerStateChange]
  split
  · constructor
    · rw [modeSet_nowDcLevel]
      exact sampled
    · intro unpolled
      rw [modeSet_polled] at unpolled
      exact absurd polled (Bool.eq_false_iff.mp unpolled)
  · exact leveled

theorem powerCallback_leveled (leveled : state.Leveled) (dcVoltage batValue : UInt32) :
    (state.powerCallback dcVoltage batValue).Leveled := by
  have polled : ({ state with polled := true } : State).Leveled := ⟨leveled.level, nofun⟩
  rw [powerCallback]
  split
  · exact (sameSupply_andThen fun _ => batteryCheck_same batValue).leveled
      (powerStateChange_leveled polled rfl (.inl rfl))
  split
  · exact (sameSupply_andThen fun _ => supplyBack_same).leveled
      (powerStateChange_leveled polled rfl (.inr rfl))
  · exact polled

theorem setter_leveled (leveled : state.Leveled) (op : Op) (ticks : UInt32) :
    ((((state.setRam op).setTime id ticks).start id).andThen fun set => set.operate op).Leveled := by
  have started : (((state.setRam op).setTime id ticks).start id).Leveled :=
    leveled.of_eq start_nowDcLevel start_polled
  exact (sameSupply_andThen fun _ => operate_same op).leveled started

theorem apTimeoutControl_leveled (leveled : state.Leveled) (level : UInt8) :
    (state.apTimeoutControl level).Leveled := by
  rw [apTimeoutControl]
  split
  · dsimp only
    split
    · exact leveled.of_eq start_nowDcLevel start_polled
    · exact leveled.of_eq rfl rfl
  · exact leveled.of_eq rfl rfl

theorem react_leveled (leveled : state.Leveled) (event : Event) : (state.react event).Leveled := by
  cases event with
  | powerCallback dcVoltage batValue => exact powerCallback_leveled leveled dcVoltage batValue
  | wtiSet value => exact setter_leveled leveled (.telemetryInterval value) _
  | rcpSet value => exact setter_leveled leveled (.reportInterval value) _
  | aptSet value => exact (apTimeoutSet_same value).leveled leveled
  | wadSet value => exact apTimeoutControl_leveled leveled _
  | userMain32Enter nowButtonId => exact apTimeoutControl_leveled leveled _
  | apTimeoutExpires => exact apTimeoutExpires_same.leveled leveled

/-- The level that was there already is followed from the first `PowerCallback`
on, or from the RCP commands before it. -/
theorem follows_same_level_iff (running : state.halted = false) (leveled : state.Leveled)
    (supplied : state.Supplied) :
    state.FollowsSupply ↔
      state.polled = true ∨ (state.timers .rcp).active = true ∧ (state.timers .wti).active = false := by
  cases polled : state.polled with
  | true => exact iff_of_true (supplied polled) (.inl rfl)
  | false =>
      rw [follows_on_battery (leveled.unpolled polled), and_iff_right running]
      exact (or_iff_right Bool.false_ne_true).symm

theorem react_supplied_iff (running : state.halted = false) (leveled : state.Leveled)
    (supplied : state.Supplied) (event : Event) :
    (state.react event).Supplied ↔ KeepsSupplied state event := by
  have moving : ¬state.halted = true := by
    rw [running]
    decide
  cases event with
  | powerCallback dcVoltage batValue =>
      rw [KeepsSupplied, or_iff_right moving, ← follows_same_level_iff running leveled supplied]
      exact powerCallback_supplied_iff running leveled.level dcVoltage batValue
  | wtiSet value =>
      refine (setter_supplied_iff (by decide) supplied (.telemetryInterval value) _).trans ?_
      refine forall_congr' fun _ => and_congr_left fun _ => ?_
      rw [uploadTimer]
      split
      · rename_i battery
        exact iff_of_false nofun (not_not.mpr battery)
      · rename_i mains
        exact iff_of_true rfl mains
  | rcpSet value =>
      refine (setter_supplied_iff (by decide) supplied (.reportInterval value) _).trans ?_
      refine forall_congr' fun _ => and_congr_left fun _ => ?_
      rw [uploadTimer]
      split
      · rename_i battery
        exact iff_of_true rfl battery
      · rename_i mains
        exact iff_of_false nofun mains
  | aptSet value => exact iff_of_true ((apTimeoutSet_same value).supplied.mpr supplied) trivial
  | wadSet value => exact apTimeoutControl_supplied_iff supplied _
  | userMain32Enter nowButtonId => exact apTimeoutControl_supplied_iff supplied _
  | apTimeoutExpires => exact iff_of_true (apTimeoutExpires_same.supplied.mpr supplied) trivial

end State

theorem step_supplied_iff {state : State} (leveled : state.Leveled) (supplied : state.Supplied)
    (event : Event) : (step state event).Supplied ↔ KeepsSupplied state event := by
  rw [step]
  split
  · rename_i halted
    -- A hung firmware has not been polled, or it would not be supplied.
    have unpolled : ¬state.polled = true := fun polled =>
      State.not_followsSupply_of_halted halted (supplied polled)
    refine iff_of_true supplied ?_
    cases event with
    | powerCallback dcVoltage batValue => exact .inl halted
    | wtiSet value => exact fun polled => absurd polled unpolled
    | rcpSet value => exact fun polled => absurd polled unpolled
    | wadSet value => exact fun polled => absurd polled unpolled
    | userMain32Enter nowButtonId => exact fun polled => absurd polled unpolled
    | aptSet value => exact trivial
    | apTimeoutExpires => exact trivial
  · rename_i running
    exact State.react_supplied_iff (Bool.eq_false_iff.mpr running) leveled supplied event

/-- From every boot, the timer of the supply is the one that runs in every
state after the first `PowerCallback` exactly when each step meets the condition. -/
theorem upload_timer_follows_supply_iff (flash : Flash) (ram : Ram) (events : List Event) :
    Throughout step State.Supplied (boot flash ram) events ↔
      EachStep step KeepsSupplied (boot flash ram) events := by
  apply throughout_iff_eachStep State.Leveled ⟨.inl rfl, fun _ => rfl⟩ (fun polled => nomatch polled)
  · intro state event leveled _ _
    rw [step]
    split
    · exact leveled
    · exact State.react_leveled leveled event
  · exact fun state event leveled supplied => step_supplied_iff leveled supplied event

/-- A device that boots on battery starts no timer. -/
theorem battery_boot_unsupplied :
    ¬Throughout step State.Supplied (boot emptyStore blankRam) [.powerCallback 0 3000] := by
  intro holds
  have unsupplied := holds 1
  revert unsupplied
  decide +kernel

end SyrFilter.Telemetry
