import SyrFilter.Moto.Machine

namespace SyrFilter.Moto

/-! # What one event does to the drive

`Drive` keeps of the motor what decides its movement: the phase, the bridge,
the switches, the two phase timers and the sleep lock.  `step_drive` says once
what each event can do to it; the invariants of the motor are read off there
and never unfold the callbacks again.
-/

structure Drive where
  workFlag : WorkFlag
  in1 : Bool
  in2 : Bool
  left : Bool
  right : Bool
  cycleArmed : Bool
  detectArmed : Bool
  sleepLock : Bool
deriving DecidableEq, Repr

def State.drive (state : State) : Drive where
  workFlag := state.workFlag
  in1 := state.in1
  in2 := state.in2
  left := state.left
  right := state.right
  cycleArmed := state.cycleTimer.active
  detectArmed := state.detectTimer.active
  sleepLock := state.sleepLock

/-- `Moto_Run` as seen by the drive. -/
def Drive.enter (drive : Drive) : WorkFlag → Drive
  | .stop => { drive with workFlag := .stop, in1 := false, in2 := false, detectArmed := false }
  | .forward =>
      if drive.right then
        { drive with workFlag := .forward, in1 := false, in2 := true, detectArmed := true }
      else { drive with workFlag := .forward, cycleArmed := true }
  | .waitback =>
      { drive with workFlag := .waitback, in1 := false, in2 := false, detectArmed := false }
  | .back =>
      if drive.left then
        { drive with workFlag := .back, in1 := true, in2 := false, detectArmed := true }
      else { drive with workFlag := .back }
  | .reset =>
      if drive.left then { drive with workFlag := .reset, in1 := true, in2 := false }
      else { drive with workFlag := .reset }

theorem Drive.enter_workFlag (drive : Drive) (target : WorkFlag) :
    (drive.enter target).workFlag = target := by
  cases target with
  | stop => rfl
  | waitback => rfl
  | forward => rw [enter]; split <;> rfl
  | back => rw [enter]; split <;> rfl
  | reset => rw [enter]; split <;> rfl

def Drive.leftReached (drive : Drive) : Drive :=
  match drive.workFlag with
  | .back => { drive.enter .stop with sleepLock := false }
  | .reset => drive.enter .stop
  | _ => drive

def Drive.rightReached (drive : Drive) : Drive :=
  match drive.workFlag with
  | .forward => { drive.enter .waitback with cycleArmed := true }
  | _ => drive

/-- The detect timer has run out: a phase whose switch still reads 1 is given up. -/
def Drive.detected (drive : Drive) : Drive :=
  match drive.workFlag with
  | .forward => if drive.right then drive.enter .reset else drive
  | .back => if drive.left then drive.enter .reset else drive
  | _ => drive

/-- The conditions under which `Moto_Cycle` starts a cycle. -/
def State.cycleAccepted (state : State) : Prop :=
  state.inputs.lowVoltageFlag = 0 ∧ state.workStatus = 0 ∧
    (state.workFlag = .stop ∨ state.workFlag = .reset)

instance (state : State) : Decidable state.cycleAccepted :=
  inferInstanceAs (Decidable (_ ∧ _ ∧ (_ ∨ _)))

def driveAfter (state : State) : Event → Drive
  | .cycle =>
      if state.cycleAccepted then { state.drive with sleepLock := true }.enter .forward
      else state.drive
  | .leftLevel level =>
      if state.left && !level then { state.drive with left := level }.leftReached
      else { state.drive with left := level }
  | .rightLevel level =>
      if state.right && !level then { state.drive with right := level }.rightReached
      else { state.drive with right := level }
  | .cycleExpires =>
      if state.cycleTimer.active then { state.drive with cycleArmed := false }.enter .back
      else state.drive
  | .detectExpires =>
      if state.detectTimer.active then
        { { state.drive with detectArmed := false }.detected with sleepLock := false }
      else state.drive
  | .currentExpires =>
      if state.currentTimer.active ∧ 45 ≤ state.inputs.motoCurrent then
        { state.drive.enter .reset with sleepLock := false }
      else state.drive
  | _ => state.drive

namespace State

@[simp] theorem call_drive (state : State) (made : Call) : (state.call made).drive = state.drive := rfl

@[simp] theorem jump_drive (state : State) (bit : JumpEvent) : (state.jump bit).drive = state.drive := rfl

theorem motoRun_drive (state : State) (target : WorkFlag) :
    (state.motoRun target).drive = state.drive.enter target := by
  cases target with
  | stop => rfl
  | waitback => rfl
  | forward => exact apply_ite State.drive (state.right = true) _ _
  | back => exact apply_ite State.drive (state.left = true) _ _
  | reset => exact apply_ite State.drive (state.left = true) _ _

theorem motoCycle_refused {state : State} (refused : ¬ state.cycleAccepted) :
    state.motoCycle = ((state.call .rtcClear).jumpExit, false) := by
  rw [motoCycle]
  split
  · rfl
  · split
    · rfl
    · split
      · rename_i powered resumed idle
        exact absurd ⟨not_not.mp powered, not_not.mp resumed, idle⟩ refused
      · rfl

theorem motoCycle_accepted {state : State} (accepted : state.cycleAccepted) :
    state.motoCycle = ((state.call .rtcClear).startCycle, true) := by
  obtain ⟨powered, resumed, idle⟩ := accepted
  rw [motoCycle, if_neg (not_not.mpr powered), if_neg (not_not.mpr resumed), if_pos idle]

theorem startCycle_drive (state : State) :
    state.startCycle.drive = { state.drive with sleepLock := true }.enter .forward :=
  motoRun_drive _ .forward

theorem startCycle_workFlag (state : State) : state.startCycle.workFlag = .forward :=
  (congrArg Drive.workFlag (startCycle_drive state)).trans (Drive.enter_workFlag _ _)

theorem reportTds_drive (state : State) : state.reportTds.drive = state.drive := by
  rw [reportTds]
  split
  · split <;> rfl
  · rfl

theorem motoCycleDone_drive (state : State) :
    state.motoCycleDone.drive = { state.drive with sleepLock := false } := rfl

theorem noMoto_drive (state : State) : state.noMoto.drive = state.drive.enter .reset :=
  motoRun_drive _ .reset

@[simp] theorem drive_workFlag (state : State) : state.drive.workFlag = state.workFlag := rfl
@[simp] theorem drive_left (state : State) : state.drive.left = state.left := rfl
@[simp] theorem drive_right (state : State) : state.drive.right = state.right := rfl

theorem motoLeftCallback_drive (state : State) :
    state.motoLeftCallback.drive = state.drive.leftReached := by
  rw [motoLeftCallback, Drive.leftReached, drive_workFlag]
  cases state.workFlag with
  | back =>
      change (((state.call (.ledSelect 3)).motoRun .stop).reportTds.motoCycleDone).drive = _
      rw [motoCycleDone_drive, reportTds_drive, motoRun_drive]
      rfl
  | reset => exact motoRun_drive state .stop
  | stop => rfl
  | forward => rfl
  | waitback => rfl

theorem motoRightCallback_drive (state : State) :
    state.motoRightCallback.drive = state.drive.rightReached := by
  rw [motoRightCallback, Drive.rightReached, drive_workFlag]
  cases state.workFlag <;> rfl

theorem motoDetectTimerCallback_drive (state : State) :
    state.motoDetectTimerCallback.drive = { state.drive.detected with sleepLock := false } := by
  rw [motoDetectTimerCallback, Drive.detected, drive_workFlag, drive_left, drive_right]
  cases state.workFlag with
  | forward =>
      change (if state.right then state.noMoto.motoCycleDone else state.motoCycleDone).drive = _
      cases state.right with
      | true => rw [if_pos rfl, motoCycleDone_drive, noMoto_drive, if_pos rfl]
      | false => rfl
  | back =>
      change (if state.left then state.noMoto.motoCycleDone else state.motoCycleDone).drive = _
      cases state.left with
      | true => rw [if_pos rfl, motoCycleDone_drive, noMoto_drive, if_pos rfl]
      | false => rfl
  | stop => rfl
  | reset => rfl
  | waitback => rfl

theorem motoCurrentTimerCallback_drive (state : State) :
    state.motoCurrentTimerCallback.drive =
      if 45 ≤ state.inputs.motoCurrent then { state.drive.enter .reset with sleepLock := false }
      else state.drive := by
  rw [motoCurrentTimerCallback]
  split
  · rw [motoCycleDone_drive, jumpStalling, jump_drive, call_drive, motoRun_drive, call_drive]
  · rfl

end State

/-- Every event moves the drive as `driveAfter` says. -/
theorem step_drive (state : State) (event : Event) :
    (step state event).drive = driveAfter state event := by
  cases event with
  | cycle =>
      rw [driveAfter]
      split
      · rename_i accepted
        rw [step, State.motoCycle_accepted accepted]
        rw [State.startCycle_drive, State.call_drive]
      · rename_i refused
        rw [step, State.motoCycle_refused refused]
        rfl
  | leftLevel level =>
      rw [step, driveAfter]
      split
      · exact State.motoLeftCallback_drive _
      · rfl
  | rightLevel level =>
      rw [step, driveAfter]
      split
      · exact State.motoRightCallback_drive _
      · rfl
  | cycleExpires =>
      rw [step, driveAfter]
      split
      · exact State.motoRun_drive _ .back
      · rfl
  | detectExpires =>
      rw [step, driveAfter]
      split
      · exact State.motoDetectTimerCallback_drive _
      · rfl
  | currentExpires =>
      rw [step, driveAfter]
      cases state.currentTimer.active with
      | true =>
          simp only [true_and]
          exact State.motoCurrentTimerCallback_drive _
      | false => simp
  | overloadDelayExpires =>
      rw [step]
      split <;> rfl
  | adcWatchdog =>
      rw [step]
      split <;> rfl
  | pause => rfl
  | resume => rfl
  | inputsChange inputs => rfl

theorem motoInit_drive (left right : Bool) (inputs : Inputs) :
    (State.motoInit left right inputs).drive =
      Drive.enter
        { workFlag := .stop, in1 := false, in2 := false, left, right, cycleArmed := false,
          detectArmed := false, sleepLock := false } .reset :=
  State.motoRun_drive _ .reset

/-! ## The pause -/

namespace State

variable {state : State}

theorem call_workStatus (made : Call) : (state.call made).workStatus = state.workStatus := rfl

theorem jump_workStatus (bit : JumpEvent) : (state.jump bit).workStatus = state.workStatus := rfl

theorem motoCycleDone_workStatus : state.motoCycleDone.workStatus = state.workStatus := rfl

theorem motoRun_workStatus (target : WorkFlag) : (state.motoRun target).workStatus = state.workStatus := by
  cases target with
  | stop => rfl
  | waitback => rfl
  | forward => rw [motoRun]; split <;> rfl
  | back => rw [motoRun]; split <;> rfl
  | reset => rw [motoRun]; split <;> rfl

theorem motoCycle_workStatus : state.motoCycle.1.workStatus = state.workStatus := by
  by_cases accepted : state.cycleAccepted
  · rw [motoCycle_accepted accepted]
    exact motoRun_workStatus .forward
  · rw [motoCycle_refused accepted]
    rfl

theorem reportTds_workStatus : state.reportTds.workStatus = state.workStatus := by
  rw [reportTds]
  split
  · split <;> rfl
  · rfl

theorem noMoto_workStatus : state.noMoto.workStatus = state.workStatus := by
  rw [noMoto, jumpNomoto, jump_workStatus, motoRun_workStatus, call_workStatus]

theorem motoDetectTimerCallback_workStatus : state.motoDetectTimerCallback.workStatus = state.workStatus := by
  rw [motoDetectTimerCallback]
  split
  · split
    · exact noMoto_workStatus
    · rfl
  · split
    · exact noMoto_workStatus
    · rfl
  · rfl

theorem motoLeftCallback_workStatus : state.motoLeftCallback.workStatus = state.workStatus := by
  rw [motoLeftCallback]
  split
  · rw [motoCycleDone_workStatus, reportTds_workStatus, motoRun_workStatus, call_workStatus]
  · exact motoRun_workStatus .stop
  · rfl

theorem motoRightCallback_workStatus : state.motoRightCallback.workStatus = state.workStatus := by
  rw [motoRightCallback]
  split
  · have waits : (state.jumpBack.motoRun .waitback).workStatus = state.workStatus := motoRun_workStatus .waitback
    exact waits
  · rfl

theorem motoCurrentTimerCallback_workStatus : state.motoCurrentTimerCallback.workStatus = state.workStatus := by
  rw [motoCurrentTimerCallback]
  split
  · rw [motoCycleDone_workStatus, jumpStalling, jump_workStatus, call_workStatus, motoRun_workStatus,
      call_workStatus]
  · rfl

end State

/-- Only `Moto_Pause` and `Moto_Resume` write `MotoWorkStatus`. -/
theorem step_workStatus {state : State} {event : Event}
    (hardware : event ≠ .cycle ∧ event ≠ .pause ∧ event ≠ .resume) :
    (step state event).workStatus = state.workStatus := by
  cases event with
  | cycle => exact absurd rfl hardware.1
  | pause => exact absurd rfl hardware.2.1
  | resume => exact absurd rfl hardware.2.2
  | leftLevel level =>
      rw [step]
      split
      · exact State.motoLeftCallback_workStatus
      · rfl
  | rightLevel level =>
      rw [step]
      split
      · exact State.motoRightCallback_workStatus
      · rfl
  | cycleExpires =>
      rw [step]
      split
      · exact State.motoRun_workStatus .back
      · rfl
  | detectExpires =>
      rw [step]
      split
      · exact State.motoDetectTimerCallback_workStatus
      · rfl
  | currentExpires =>
      rw [step]
      split
      · exact State.motoCurrentTimerCallback_workStatus
      · rfl
  | overloadDelayExpires => rw [step]; split <;> rfl
  | adcWatchdog => rw [step]; split <;> rfl
  | inputsChange inputs => rfl

end SyrFilter.Moto
