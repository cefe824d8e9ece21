import SyrFilter.Moto.Drive

namespace SyrFilter.Moto

open SyrFilter.Lib

/-! # A timer behind every phase of a cycle

While a cycle runs, the cycle timer or the detect timer must be armed, for a
limit switch may never fire.  The two expiries that can take the last armed
timer away without leaving the phase are the ones that find the left switch
already at 0: `Moto_Run(MOTO_BACK)` then starts nothing, and the detect timer
then gives nothing up.
-/

def WorkFlag.InCycle (workFlag : WorkFlag) : Prop :=
  workFlag = .forward ∨ workFlag = .waitback ∨ workFlag = .back

instance (workFlag : WorkFlag) : Decidable workFlag.InCycle :=
  inferInstanceAs (Decidable (_ ∨ _ ∨ _))

def State.PhaseWatched (state : State) : Prop :=
  state.workFlag.InCycle → state.cycleTimer.active = true ∨ state.detectTimer.active = true

instance (state : State) : Decidable state.PhaseWatched :=
  inferInstanceAs (Decidable (_ → _ ∨ _))

/-- The expiries that would leave the machine in the backward phase with the
left switch at 0 find the other timer armed. -/
def StepKeepsWatch (state : State) : Event → Prop
  | .cycleExpires =>
      state.cycleTimer.active = true → state.left = false → state.detectTimer.active = true
  | .detectExpires =>
      state.detectTimer.active = true → state.workFlag = .back → state.left = false →
        state.cycleTimer.active = true
  | _ => True

def Drive.PhaseWatched (drive : Drive) : Prop :=
  drive.workFlag.InCycle → drive.cycleArmed = true ∨ drive.detectArmed = true

/-- The cycle timer is armed whenever the machine waits on it: in the dwell, and
in a forward phase that found the right switch already reached. -/
def Drive.CycleAwaited (drive : Drive) : Prop :=
  (drive.workFlag = .waitback → drive.cycleArmed = true) ∧
    (drive.workFlag = .forward → drive.right = false → drive.cycleArmed = true)

namespace Drive

variable {drive : Drive}

theorem awaited_of_idle (idle : drive.workFlag ≠ .waitback ∧ drive.workFlag ≠ .forward) :
    drive.CycleAwaited :=
  ⟨fun flag => absurd flag idle.1, fun flag => absurd flag idle.2⟩

theorem watched_of_idle (idle : ¬ drive.workFlag.InCycle) : drive.PhaseWatched :=
  fun running => absurd running idle

theorem enter_reset_watched : (drive.enter .reset).PhaseWatched ∧ (drive.enter .reset).CycleAwaited := by
  constructor
  · apply watched_of_idle
    simp [enter_workFlag, WorkFlag.InCycle]
  · apply awaited_of_idle
    simp [enter_workFlag]

theorem enter_forward_watched :
    (drive.enter .forward).PhaseWatched ∧ (drive.enter .forward).CycleAwaited := by
  cases level : drive.right <;> simp [enter, level, PhaseWatched, CycleAwaited]

theorem leftReached_watched (watched : drive.PhaseWatched) (awaited : drive.CycleAwaited) :
    drive.leftReached.PhaseWatched ∧ drive.leftReached.CycleAwaited := by
  rw [leftReached]
  split
  · exact ⟨watched_of_idle (by simp [enter, WorkFlag.InCycle]), awaited_of_idle (by simp [enter])⟩
  · exact ⟨watched_of_idle (by simp [enter, WorkFlag.InCycle]), awaited_of_idle (by simp [enter])⟩
  · exact ⟨watched, awaited⟩

end Drive

theorem rightReached_watched {drive : Drive} (level : Bool)
    (watched : drive.PhaseWatched) (awaited : drive.CycleAwaited) :
    { drive with right := level }.rightReached.PhaseWatched ∧
      { drive with right := level }.rightReached.CycleAwaited := by
  rw [Drive.rightReached]
  split
  · simp [Drive.enter, Drive.PhaseWatched, Drive.CycleAwaited]
  · rename_i other
    exact ⟨watched, awaited.1, fun flag => absurd flag other⟩

theorem detected_watched_iff {drive : Drive} (awaited : drive.CycleAwaited) :
    { drive with detectArmed := false }.detected.PhaseWatched ↔
      (drive.workFlag = .back → drive.left = false → drive.cycleArmed = true) := by
  rw [Drive.detected]
  cases flag : drive.workFlag with
  | forward =>
      cases level : drive.right with
      | true => simpa [flag, level] using Drive.enter_reset_watched.1
      | false =>
          have armed := awaited.2 flag level
          simp [Drive.PhaseWatched, armed]
  | back =>
      cases level : drive.left with
      | true => simpa [flag, level] using Drive.enter_reset_watched.1
      | false => simp [Drive.PhaseWatched, WorkFlag.InCycle]
  | waitback =>
      have armed := awaited.1 flag
      simp [Drive.PhaseWatched, armed]
  | stop => simp [Drive.PhaseWatched, WorkFlag.InCycle]
  | reset => simp [Drive.PhaseWatched, WorkFlag.InCycle]

theorem detected_awaited {drive : Drive} (awaited : drive.CycleAwaited) :
    { drive with detectArmed := false }.detected.CycleAwaited := by
  rw [Drive.detected]
  split
  · split
    · exact Drive.enter_reset_watched.2
    · exact awaited
  · split
    · exact Drive.enter_reset_watched.2
    · exact awaited
  · exact awaited

/-- One event keeps the watch exactly when it meets the condition, and then keeps
the auxiliary invariant too. -/
theorem step_watch {state : State} (event : Event)
    (watched : state.drive.PhaseWatched) (awaited : state.drive.CycleAwaited) :
    ((step state event).drive.PhaseWatched ↔ StepKeepsWatch state event) ∧
      (step state event).drive.CycleAwaited := by
  rw [step_drive]
  cases event with
  | cycle =>
      rw [driveAfter]
      split
      · exact ⟨iff_of_true Drive.enter_forward_watched.1 trivial, Drive.enter_forward_watched.2⟩
      · exact ⟨iff_of_true watched trivial, awaited⟩
  | leftLevel level =>
      rw [driveAfter]
      split
      · obtain ⟨kept, waiting⟩ := @Drive.leftReached_watched { state.drive with left := level }
          watched awaited
        exact ⟨iff_of_true kept trivial, waiting⟩
      · exact ⟨iff_of_true watched trivial, awaited⟩
  | rightLevel level =>
      rw [driveAfter]
      split
      · obtain ⟨kept, waiting⟩ := rightReached_watched level watched awaited
        exact ⟨iff_of_true kept trivial, waiting⟩
      · rename_i steady
        refine ⟨iff_of_true watched trivial, awaited.1, fun flag reached => awaited.2 flag ?_⟩
        have low : level = false := reached
        change state.right = false
        simpa [low] using steady
  | cycleExpires =>
      rw [driveAfter, StepKeepsWatch]
      split
      · rename_i armed
        constructor
        · cases level : state.left <;>
            simp [Drive.enter, Drive.PhaseWatched, WorkFlag.InCycle, State.drive, level, armed]
        · apply Drive.awaited_of_idle
          simp [Drive.enter_workFlag]
      · rename_i idle
        exact ⟨iff_of_true watched (fun armed => absurd armed idle), awaited⟩
  | detectExpires =>
      rw [driveAfter, StepKeepsWatch]
      split
      · rename_i armed
        constructor
        · exact (detected_watched_iff awaited).trans ⟨fun kept _ => kept, fun kept => kept armed⟩
        · exact detected_awaited awaited
      · rename_i idle
        exact ⟨iff_of_true watched (fun armed => absurd armed idle), awaited⟩
  | currentExpires =>
      rw [driveAfter]
      split
      · exact ⟨iff_of_true Drive.enter_reset_watched.1 trivial, Drive.enter_reset_watched.2⟩
      · exact ⟨iff_of_true watched trivial, awaited⟩
  | overloadDelayExpires => exact ⟨iff_of_true watched trivial, awaited⟩
  | adcWatchdog => exact ⟨iff_of_true watched trivial, awaited⟩
  | pause => exact ⟨iff_of_true watched trivial, awaited⟩
  | resume => exact ⟨iff_of_true watched trivial, awaited⟩
  | inputsChange inputs => exact ⟨iff_of_true watched trivial, awaited⟩

theorem motoInit_watch (left right : Bool) (inputs : Inputs) :
    (State.motoInit left right inputs).drive.PhaseWatched ∧
      (State.motoInit left right inputs).drive.CycleAwaited := by
  rw [motoInit_drive]
  exact Drive.enter_reset_watched

/-- From every start, some phase timer is armed throughout a run exactly when
no expiry strands the machine in the backward phase on a reached left switch. -/
theorem phase_watched_iff_steps_keep_watch (left right : Bool) (inputs : Inputs)
    (events : List Event) :
    Throughout step State.PhaseWatched (State.motoInit left right inputs) events ↔
      EachStep step StepKeepsWatch (State.motoInit left right inputs) events := by
  obtain ⟨watched, awaited⟩ := motoInit_watch left right inputs
  apply throughout_iff_eachStep (fun state : State => state.drive.CycleAwaited) awaited watched
  · intro state event waiting holds _
    exact (step_watch event holds waiting).2
  · intro state event waiting holds
    exact (step_watch event holds waiting).1

/-- A left switch that reads 0 at the end of the dwell, as a stuck one does,
leaves the backward phase without any armed timer. -/
theorem back_phase_unwatched :
    ¬ Throughout step State.PhaseWatched
      (State.motoInit false true
        { lowVoltageFlag := 0, settingBackwashtime := 21, settingHardness := 30, tdsValue := 0,
          motoCurrent := 0 })
      [.cycle, .rightLevel false, .cycleExpires] := by
  intro holds
  have unwatched := holds 3
  revert unwatched
  decide

end SyrFilter.Moto
