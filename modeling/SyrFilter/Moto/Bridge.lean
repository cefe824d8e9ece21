import SyrFilter.Moto.Drive

namespace SyrFilter.Moto

open SyrFilter.Lib

/-! # Bridge inputs against the motor phase

The bridge inputs say in which direction the motor is driven; the phase says
in which direction it should be.  `Moto_Run` writes both inputs in every phase
except when a driving phase finds its own limit switch already reached, so
agreement is exactly a matter of what the inputs were at those entries.
-/

/-- What the two bridge inputs may be in each phase. -/
structure BridgeMatches (workFlag : WorkFlag) (in1 in2 : Bool) : Prop where
  notBoth : ¬ (in1 = true ∧ in2 = true)
  atRest : workFlag = .stop ∨ workFlag = .waitback → in1 = false ∧ in2 = false
  neverBackwards : workFlag = .forward → in1 = false
  neverForwards : workFlag = .back ∨ workFlag = .reset → in2 = false

def State.BridgeMatchesPhase (state : State) : Prop :=
  BridgeMatches state.workFlag state.in1 state.in2

/-- A driving phase entered with its limit switch already at 0 finds the
opposite bridge input off. -/
def State.EntersClear (state : State) : WorkFlag → Prop
  | .forward => state.right = false → state.in1 = false
  | .back | .reset => state.left = false → state.in2 = false
  | .stop | .waitback => True

/-- The phase that one event enters, if any, is entered with the bridge clear. -/
def StepEntersClear (state : State) : Event → Prop
  | .cycle => state.cycleAccepted → state.EntersClear .forward
  | .cycleExpires => state.cycleTimer.active = true → state.EntersClear .back
  | .currentExpires =>
      state.currentTimer.active = true → 45 ≤ state.inputs.motoCurrent → state.EntersClear .reset
  | .detectExpires =>
      state.detectTimer.active = true → state.workFlag = .forward → state.right = true →
        state.EntersClear .reset
  | _ => True

def Drive.BridgeMatchesPhase (drive : Drive) : Prop :=
  BridgeMatches drive.workFlag drive.in1 drive.in2

theorem bridgeMatches_off (workFlag : WorkFlag) : BridgeMatches workFlag false false := by
  constructor <;> simp

theorem bridgeMatches_forward {in1 in2 : Bool} :
    BridgeMatches .forward in1 in2 ↔ in1 = false := by
  refine ⟨fun holds => holds.neverBackwards rfl, fun off => ?_⟩
  subst off
  constructor <;> simp

theorem bridgeMatches_back {in1 in2 : Bool} : BridgeMatches .back in1 in2 ↔ in2 = false := by
  refine ⟨fun holds => holds.neverForwards (.inl rfl), fun off => ?_⟩
  subst off
  constructor <;> simp

theorem bridgeMatches_reset {in1 in2 : Bool} : BridgeMatches .reset in1 in2 ↔ in2 = false := by
  refine ⟨fun holds => holds.neverForwards (.inr rfl), fun off => ?_⟩
  subst off
  constructor <;> simp

/-- Entering a phase agrees with the bridge exactly when it is entered clear,
whatever the phase was before. -/
theorem Drive.enter_bridge_iff (state : State) (drive : Drive) (target : WorkFlag)
    (in1 : drive.in1 = state.in1) (in2 : drive.in2 = state.in2)
    (left : drive.left = state.left) (right : drive.right = state.right) :
    (drive.enter target).BridgeMatchesPhase ↔ state.EntersClear target := by
  cases target with
  | stop => exact iff_of_true (bridgeMatches_off .stop) trivial
  | waitback => exact iff_of_true (bridgeMatches_off .waitback) trivial
  | forward =>
      cases level : state.right <;>
        simp [enter, BridgeMatchesPhase, State.EntersClear, bridgeMatches_forward, right, level, in1]
  | back =>
      cases level : state.left <;>
        simp [enter, BridgeMatchesPhase, State.EntersClear, bridgeMatches_back, left, level, in2]
  | reset =>
      cases level : state.left <;>
        simp [enter, BridgeMatchesPhase, State.EntersClear, bridgeMatches_reset, left, level, in2]

theorem Drive.leftReached_bridge {drive : Drive} (holds : drive.BridgeMatchesPhase) :
    drive.leftReached.BridgeMatchesPhase := by
  rw [leftReached]
  split
  · exact bridgeMatches_off .stop
  · exact bridgeMatches_off .stop
  · exact holds

theorem Drive.rightReached_bridge {drive : Drive} (holds : drive.BridgeMatchesPhase) :
    drive.rightReached.BridgeMatchesPhase := by
  rw [rightReached]
  split
  · exact bridgeMatches_off .waitback
  · exact holds

/-- The detect timer gives up a backward phase only while the left switch reads
1, so only its forward case can find the bridge against the reset. -/
theorem detected_bridge_iff {state : State} (holds : state.BridgeMatchesPhase) :
    { state.drive with detectArmed := false }.detected.BridgeMatchesPhase ↔
      (state.workFlag = .forward → state.right = true → state.EntersClear .reset) := by
  have entered := Drive.enter_bridge_iff state { state.drive with detectArmed := false } .reset
    rfl rfl rfl rfl
  have kept : { state.drive with detectArmed := false }.BridgeMatchesPhase := holds
  rw [Drive.detected]
  cases flag : state.workFlag with
  | forward =>
      cases level : state.right with
      | true => simpa [State.drive, flag, level] using entered
      | false => simpa [State.drive, flag, level] using kept
  | back =>
      cases level : state.left with
      | true => simpa [State.drive, flag, level, State.EntersClear] using entered
      | false => simpa [State.drive, flag, level] using kept
  | stop => simpa [State.drive, flag] using kept
  | reset => simpa [State.drive, flag] using kept
  | waitback => simpa [State.drive, flag] using kept

theorem step_bridge_iff {state : State} (event : Event) (holds : state.BridgeMatchesPhase) :
    (step state event).BridgeMatchesPhase ↔ StepEntersClear state event := by
  change (step state event).drive.BridgeMatchesPhase ↔ _
  rw [step_drive]
  cases event with
  | cycle =>
      rw [driveAfter, StepEntersClear]
      split
      · rename_i accepted
        rw [Drive.enter_bridge_iff state _ .forward rfl rfl rfl rfl]
        exact ⟨fun clear _ => clear, fun clear => clear accepted⟩
      · rename_i refused
        exact iff_of_true holds (fun accepted => absurd accepted refused)
  | leftLevel level =>
      refine iff_of_true ?_ trivial
      rw [driveAfter]
      split
      · exact Drive.leftReached_bridge holds
      · exact holds
  | rightLevel level =>
      refine iff_of_true ?_ trivial
      rw [driveAfter]
      split
      · exact Drive.rightReached_bridge holds
      · exact holds
  | cycleExpires =>
      rw [driveAfter, StepEntersClear]
      split
      · rename_i armed
        rw [Drive.enter_bridge_iff state _ .back rfl rfl rfl rfl]
        exact ⟨fun clear _ => clear, fun clear => clear armed⟩
      · rename_i idle
        exact iff_of_true holds (fun armed => absurd armed idle)
  | detectExpires =>
      rw [driveAfter, StepEntersClear]
      split
      · rename_i armed
        exact (detected_bridge_iff holds).trans ⟨fun clear _ => clear, fun clear => clear armed⟩
      · rename_i idle
        exact iff_of_true holds (fun armed => absurd armed idle)
  | currentExpires =>
      rw [driveAfter, StepEntersClear]
      split
      · rename_i overload
        exact (Drive.enter_bridge_iff state state.drive .reset rfl rfl rfl rfl).trans
          ⟨fun clear _ _ => clear, fun clear => clear overload.1 overload.2⟩
      · rename_i calm
        exact iff_of_true holds (fun armed stalled => absurd ⟨armed, stalled⟩ calm)
  | overloadDelayExpires => exact iff_of_true holds trivial
  | adcWatchdog => exact iff_of_true holds trivial
  | pause => exact iff_of_true holds trivial
  | resume => exact iff_of_true holds trivial
  | inputsChange inputs => exact iff_of_true holds trivial

theorem motoInit_bridge (left right : Bool) (inputs : Inputs) :
    (State.motoInit left right inputs).BridgeMatchesPhase := by
  change (State.motoInit left right inputs).drive.BridgeMatchesPhase
  rw [motoInit_drive]
  cases left <;> simp [Drive.enter, Drive.BridgeMatchesPhase, bridgeMatches_reset]

/-- From every start, the bridge agrees with the phase throughout a run exactly
when every driving phase entered on an already reached switch is entered with
the opposite bridge input off. -/
theorem bridge_matches_phase_iff_enters_clear (left right : Bool) (inputs : Inputs)
    (events : List Event) :
    Throughout step State.BridgeMatchesPhase (State.motoInit left right inputs) events ↔
      EachStep step StepEntersClear (State.motoInit left right inputs) events := by
  apply throughout_iff_eachStep (fun _ => True) trivial (motoInit_bridge left right inputs)
  · intro _ _ _ _ _
    trivial
  · intro state event _ holds
    exact step_bridge_iff event holds

/-- A board that wakes up with the valve at its right end drives the motor back;
a cycle requested before it has left that end turns the phase to forward and
leaves the motor driven backwards. -/
theorem bridge_backwards_in_forward :
    ¬ Throughout step State.BridgeMatchesPhase
      (State.motoInit true false
        { lowVoltageFlag := 0, settingBackwashtime := 21, settingHardness := 30, tdsValue := 0,
          motoCurrent := 0 })
      [.cycle] := by
  intro holds
  have forward := (holds 1).neverBackwards
  simp [step, State.motoInit, State.motoCycle, State.startCycle, State.motoRun, State.call,
    State.setPeriods, State.disableMotoInt] at forward

end SyrFilter.Moto
