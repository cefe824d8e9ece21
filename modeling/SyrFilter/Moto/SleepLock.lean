import SyrFilter.Moto.Watchdog

namespace SyrFilter.Moto

open SyrFilter.Lib

/-! # The sleep lock of a cycle

An accepted `Moto_Cycle` requests `PM_MOTO_ID` and `Moto_Cycle_Done` releases
it.  The detect timer calls `Moto_Cycle_Done` whether or not it gave the phase
up, and the cycle timer is stopped by no way out of a cycle: it may start the
backward phase of a machine that has come to rest and let its lock go.
-/

/-- While a cycle runs, `PM_MOTO_ID` is held. -/
def State.Awake (state : State) : Prop := state.workFlag.InCycle → state.sleepLock = true

instance (state : State) : Decidable state.Awake := inferInstanceAs (Decidable (_ → _))

/-- The cycle timer does not run out at rest, and the detect timer neither in
the dwell nor in a phase whose switch reads 0. -/
def StepKeepsAwake (state : State) : Event → Prop
  | .cycleExpires => state.cycleTimer.active = true → state.workFlag.InCycle
  | .detectExpires =>
      state.detectTimer.active = true →
        state.workFlag ≠ .waitback ∧ (state.workFlag = .forward → state.right = true) ∧
          (state.workFlag = .back → state.left = true)
  | _ => True

namespace Drive

variable {drive : Drive}

def Awake (drive : Drive) : Prop := drive.workFlag.InCycle → drive.sleepLock = true

/-- The lock is never left behind by a cycle that is over. -/
def LockedInCycle (drive : Drive) : Prop := drive.sleepLock = true → drive.workFlag.InCycle

theorem enter_sleepLock (target : WorkFlag) : (drive.enter target).sleepLock = drive.sleepLock := by
  cases target with
  | stop => rfl
  | waitback => rfl
  | forward => rw [enter]; split <;> rfl
  | back => rw [enter]; split <;> rfl
  | reset => rw [enter]; split <;> rfl

theorem awake_of_idle (idle : ¬drive.workFlag.InCycle) : drive.Awake := fun running => absurd running idle

theorem lockedInCycle_of_released (released : drive.sleepLock = false) : drive.LockedInCycle := by
  intro held
  rw [released] at held
  cases held

theorem enter_forward_awake :
    ({ drive with sleepLock := true }.enter .forward).Awake ∧
      ({ drive with sleepLock := true }.enter .forward).LockedInCycle := by
  refine ⟨fun _ => enter_sleepLock .forward, fun _ => ?_⟩
  rw [enter_workFlag]
  exact .inl rfl

theorem leftReached_awake (awake : drive.Awake) (locked : drive.LockedInCycle) :
    drive.leftReached.Awake ∧ drive.leftReached.LockedInCycle := by
  rw [leftReached]
  split
  · exact ⟨awake_of_idle (by simp [enter, WorkFlag.InCycle]), lockedInCycle_of_released rfl⟩
  · rename_i flag
    refine ⟨awake_of_idle (by simp [enter, WorkFlag.InCycle]), fun held => ?_⟩
    have running := locked held
    simp [flag, WorkFlag.InCycle] at running
  · exact ⟨awake, locked⟩

theorem rightReached_awake (awake : drive.Awake) (locked : drive.LockedInCycle) :
    drive.rightReached.Awake ∧ drive.rightReached.LockedInCycle := by
  rw [rightReached]
  split
  · rename_i flag
    have held : drive.sleepLock = true := awake (.inl flag)
    exact ⟨fun _ => held, fun _ => .inr (.inl rfl)⟩
  · exact ⟨awake, locked⟩

/-- `Moto_Cycle_Done` after the detect timer needs the phase to have been given up. -/
theorem detected_awake_iff :
    { drive.detected with sleepLock := false }.Awake ↔
      drive.workFlag ≠ .waitback ∧ (drive.workFlag = .forward → drive.right = true) ∧
        (drive.workFlag = .back → drive.left = true) := by
  rw [detected]
  cases flag : drive.workFlag with
  | forward => cases level : drive.right <;> simp [Awake, enter_workFlag, WorkFlag.InCycle, flag]
  | back => cases level : drive.left <;> simp [Awake, enter_workFlag, WorkFlag.InCycle, flag]
  | waitback => simp [Awake, WorkFlag.InCycle, flag]
  | stop => simp [Awake, WorkFlag.InCycle, flag]
  | reset => simp [Awake, WorkFlag.InCycle, flag]

end Drive

theorem step_awake {state : State} (event : Event) (awake : state.drive.Awake)
    (locked : state.drive.LockedInCycle) :
    ((step state event).drive.Awake ↔ StepKeepsAwake state event) ∧
      (step state event).drive.LockedInCycle := by
  rw [step_drive]
  cases event with
  | cycle =>
      rw [driveAfter]
      split
      · exact ⟨iff_of_true Drive.enter_forward_awake.1 trivial, Drive.enter_forward_awake.2⟩
      · exact ⟨iff_of_true awake trivial, locked⟩
  | leftLevel level =>
      rw [driveAfter]
      split
      · obtain ⟨kept, still⟩ := @Drive.leftReached_awake { state.drive with left := level } awake locked
        exact ⟨iff_of_true kept trivial, still⟩
      · exact ⟨iff_of_true awake trivial, locked⟩
  | rightLevel level =>
      rw [driveAfter]
      split
      · obtain ⟨kept, still⟩ := @Drive.rightReached_awake { state.drive with right := level } awake locked
        exact ⟨iff_of_true kept trivial, still⟩
      · exact ⟨iff_of_true awake trivial, locked⟩
  | cycleExpires =>
      rw [driveAfter, StepKeepsAwake]
      split
      · rename_i armed
        have back : (({ state.drive with cycleArmed := false }.enter .back).workFlag).InCycle := by
          rw [Drive.enter_workFlag]
          exact .inr (.inr rfl)
        have lock : ({ state.drive with cycleArmed := false }.enter .back).sleepLock = state.sleepLock :=
          Drive.enter_sleepLock .back
        refine ⟨⟨fun kept _ => locked ?_, fun running _ => ?_⟩, fun _ => back⟩
        · exact lock.symm.trans (kept back)
        · exact lock.trans (awake (running armed))
      · rename_i idle
        exact ⟨iff_of_true awake fun armed => absurd armed idle, locked⟩
  | detectExpires =>
      rw [driveAfter, StepKeepsAwake]
      split
      · rename_i armed
        refine ⟨?_, Drive.lockedInCycle_of_released rfl⟩
        exact Drive.detected_awake_iff.trans ⟨fun kept _ => kept, fun kept => kept armed⟩
      · rename_i idle
        exact ⟨iff_of_true awake fun armed => absurd armed idle, locked⟩
  | currentExpires =>
      rw [driveAfter]
      split
      · refine ⟨iff_of_true (Drive.awake_of_idle ?_) trivial, Drive.lockedInCycle_of_released rfl⟩
        simp [Drive.enter_workFlag, WorkFlag.InCycle]
      · exact ⟨iff_of_true awake trivial, locked⟩
  | overloadDelayExpires => exact ⟨iff_of_true awake trivial, locked⟩
  | adcWatchdog => exact ⟨iff_of_true awake trivial, locked⟩
  | pause => exact ⟨iff_of_true awake trivial, locked⟩
  | resume => exact ⟨iff_of_true awake trivial, locked⟩
  | inputsChange inputs => exact ⟨iff_of_true awake trivial, locked⟩

theorem motoInit_awake (left right : Bool) (inputs : Inputs) :
    (State.motoInit left right inputs).drive.Awake ∧
      (State.motoInit left right inputs).drive.LockedInCycle := by
  rw [motoInit_drive]
  refine ⟨Drive.awake_of_idle ?_, Drive.lockedInCycle_of_released (Drive.enter_sleepLock .reset)⟩
  simp [Drive.enter_workFlag, WorkFlag.InCycle]

/-- From every start, the sleep lock is held throughout the cycles of a run
exactly when the timers run out only in phases that wait for them. -/
theorem awake_iff_steps_keep_awake (left right : Bool) (inputs : Inputs) (events : List Event) :
    Throughout step State.Awake (State.motoInit left right inputs) events ↔
      EachStep step StepKeepsAwake (State.motoInit left right inputs) events := by
  obtain ⟨awake, locked⟩ := motoInit_awake left right inputs
  apply throughout_iff_eachStep (fun state : State => state.drive.LockedInCycle) locked awake
  · intro state event held holds _
    exact (step_awake event holds held).2
  · intro state event held holds
    exact (step_awake event holds held).1

/-- An overload in the forward phase is confirmed only in the dwell: the cycle
is over, its cycle timer is still armed and starts the backward phase unlocked. -/
theorem back_phase_unlocked :
    ¬Throughout step State.Awake
      (State.motoInit false true
        { lowVoltageFlag := 0, settingBackwashtime := 21, settingHardness := 30, tdsValue := 0,
          motoCurrent := 60 })
      [.cycle, .overloadDelayExpires, .adcWatchdog, .rightLevel false, .currentExpires, .cycleExpires] := by
  intro holds
  have unlocked := holds 6
  revert unlocked
  decide

end SyrFilter.Moto
