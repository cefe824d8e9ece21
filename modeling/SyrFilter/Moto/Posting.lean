import SyrFilter.Moto.Drive

namespace SyrFilter.Moto

/-! # What the motor tells the display

A motor event posts at most one bit of `lcd_jump_event`.  `posts` says which
one, from the state the event finds; the phase behind it tells whether the
motor is idle afterwards.
-/

def State.Idle (state : State) : Prop := state.workFlag = .stop ∨ state.workFlag = .reset

instance (state : State) : Decidable state.Idle := inferInstanceAs (Decidable (_ ∨ _))

def State.report (state : State) : JumpEvent :=
  if state.inputs.tdsValue ≥ state.inputs.settingHardness ∧ state.tdsWarn = 0 then .tds else .finish

def State.posts (state : State) : Event → Option JumpEvent
  | .cycle => if state.cycleAccepted then none else some .exit
  | .leftLevel level =>
      if state.left && !level && state.workFlag == .back then some state.report else none
  | .rightLevel level =>
      if state.right && !level && state.workFlag == .forward then some .back else none
  | .detectExpires =>
      if state.detectTimer.active ∧
          (state.workFlag = .forward ∧ state.right ∨ state.workFlag = .back ∧ state.left) then
        some .nomoto
      else none
  | .currentExpires =>
      if state.currentTimer.active ∧ 45 ≤ state.inputs.motoCurrent then some .stalling else none
  | _ => none

namespace State

theorem motoRun_jumpEvent (state : State) (target : WorkFlag) :
    (state.motoRun target).jumpEvent = state.jumpEvent := by
  cases target with
  | stop => rfl
  | waitback => rfl
  | forward => rw [motoRun]; split <;> rfl
  | back => rw [motoRun]; split <;> rfl
  | reset => rw [motoRun]; split <;> rfl

theorem reportTds_jumpEvent (state : State) :
    state.reportTds.jumpEvent = eventSend state.jumpEvent state.report := by
  rw [reportTds, report]
  by_cases hard : state.inputs.tdsValue ≥ state.inputs.settingHardness
  · by_cases warned : state.tdsWarn = 0
    · rw [if_pos hard, if_neg (not_not_intro warned), if_pos ⟨hard, warned⟩]
      rfl
    · rw [if_pos hard, if_pos warned, if_neg fun both => warned both.2]
      rfl
  · rw [if_neg hard, if_neg fun both => hard both.1]
    rfl

theorem motoLeftCallback_jumpEvent (state : State) :
    state.motoLeftCallback.jumpEvent =
      if state.workFlag = .back then eventSend state.jumpEvent state.report else state.jumpEvent := by
  rw [motoLeftCallback]
  cases flag : state.workFlag with
  | back => exact reportTds_jumpEvent _
  | reset => rfl
  | stop => rfl
  | forward => rfl
  | waitback => rfl

theorem motoRightCallback_jumpEvent (state : State) :
    state.motoRightCallback.jumpEvent =
      if state.workFlag = .forward then eventSend state.jumpEvent .back else state.jumpEvent := by
  rw [motoRightCallback]
  cases state.workFlag <;> rfl

theorem noMoto_jumpEvent (state : State) : state.noMoto.jumpEvent = eventSend state.jumpEvent .nomoto :=
  congrArg (eventSend · .nomoto) (motoRun_jumpEvent (state.call (.ledSelect 3)) .reset)

theorem motoDetectTimerCallback_jumpEvent (state : State) :
    state.motoDetectTimerCallback.jumpEvent =
      if state.workFlag = .forward ∧ state.right ∨ state.workFlag = .back ∧ state.left then
        eventSend state.jumpEvent .nomoto
      else state.jumpEvent := by
  have given := noMoto_jumpEvent state
  rw [motoDetectTimerCallback]
  cases flag : state.workFlag with
  | forward => cases level : state.right <;> simp [motoCycleDone, call, given]
  | back => cases level : state.left <;> simp [motoCycleDone, call, given]
  | waitback => simp [motoCycleDone, call]
  | stop => simp [motoCycleDone, call]
  | reset => simp [motoCycleDone, call]

theorem motoCurrentTimerCallback_jumpEvent (state : State) :
    state.motoCurrentTimerCallback.jumpEvent =
      if 45 ≤ state.inputs.motoCurrent then eventSend state.jumpEvent .stalling
      else state.jumpEvent := by
  rw [motoCurrentTimerCallback]
  split
  · exact congrArg (eventSend · .stalling) (motoRun_jumpEvent (state.call (.ledSelect 3)) .reset)
  · rfl

end State

theorem step_jumpEvent (state : State) (event : Event) :
    (step state event).jumpEvent =
      (state.posts event).elim state.jumpEvent (eventSend state.jumpEvent) := by
  cases event with
  | cycle =>
      rw [step, State.posts]
      split
      · rename_i accepted
        rw [State.motoCycle_accepted accepted]
        exact State.motoRun_jumpEvent _ .forward
      · rename_i refused
        rw [State.motoCycle_refused refused]
        rfl
  | leftLevel level =>
      rw [step, State.posts]
      cases fallen : state.left && !level with
      | false => rfl
      | true =>
          simp only [if_true, State.motoLeftCallback_jumpEvent]
          cases state.workFlag <;> rfl
  | rightLevel level =>
      rw [step, State.posts]
      cases fallen : state.right && !level with
      | false => rfl
      | true =>
          simp only [if_true, State.motoRightCallback_jumpEvent]
          cases state.workFlag <;> rfl
  | cycleExpires =>
      rw [step]
      split
      · exact State.motoRun_jumpEvent _ .back
      · rfl
  | detectExpires =>
      rw [step, State.posts]
      cases state.detectTimer.active with
      | false => simp
      | true =>
          simp only [if_true, State.motoDetectTimerCallback_jumpEvent, true_and]
          split <;> rfl
  | currentExpires =>
      rw [step, State.posts]
      cases state.currentTimer.active with
      | false => simp
      | true =>
          simp only [if_true, State.motoCurrentTimerCallback_jumpEvent, true_and]
          split <;> rfl
  | overloadDelayExpires =>
      rw [step]
      split <;> rfl
  | adcWatchdog =>
      rw [step]
      split <;> rfl
  | pause => rfl
  | resume => rfl
  | inputsChange inputs => rfl

/-! ## Whether the motor is idle behind it -/

section Idle

variable {state : State} {event : Event}

def State.flagAfter (state : State) : Event → WorkFlag
  | .cycle => if state.cycleAccepted then .forward else state.workFlag
  | .leftLevel level =>
      if state.left && !level && (state.workFlag == .back || state.workFlag == .reset) then .stop
      else state.workFlag
  | .rightLevel level =>
      if state.right && !level && state.workFlag == .forward then .waitback else state.workFlag
  | .cycleExpires => if state.cycleTimer.active then .back else state.workFlag
  | .detectExpires =>
      if state.detectTimer.active ∧
          (state.workFlag = .forward ∧ state.right ∨ state.workFlag = .back ∧ state.left) then .reset
      else state.workFlag
  | .currentExpires =>
      if state.currentTimer.active ∧ 45 ≤ state.inputs.motoCurrent then .reset else state.workFlag
  | _ => state.workFlag

theorem leftReached_workFlag (drive : Drive) :
    drive.leftReached.workFlag =
      if drive.workFlag == .back || drive.workFlag == .reset then .stop else drive.workFlag := by
  rw [Drive.leftReached]
  cases flag : drive.workFlag <;> simp [Drive.enter, flag]

theorem rightReached_workFlag (drive : Drive) :
    drive.rightReached.workFlag =
      if drive.workFlag == .forward then .waitback else drive.workFlag := by
  rw [Drive.rightReached]
  cases flag : drive.workFlag <;> simp [Drive.enter, flag]

theorem detected_workFlag (drive : Drive) :
    drive.detected.workFlag =
      if drive.workFlag = .forward ∧ drive.right ∨ drive.workFlag = .back ∧ drive.left then .reset
      else drive.workFlag := by
  rw [Drive.detected]
  cases flag : drive.workFlag with
  | forward => cases level : drive.right <;> simp [Drive.enter_workFlag, flag]
  | back => cases level : drive.left <;> simp [Drive.enter_workFlag, flag]
  | waitback => simp [flag]
  | stop => simp [flag]
  | reset => simp [flag]

theorem step_workFlag (state : State) (event : Event) :
    (step state event).workFlag = state.flagAfter event := by
  rw [← State.drive_workFlag, step_drive]
  cases event with
  | cycle =>
      rw [driveAfter, State.flagAfter]
      split
      · exact Drive.enter_workFlag _ _
      · rfl
  | leftLevel level =>
      rw [driveAfter, State.flagAfter]
      cases state.left && !level with
      | false => rfl
      | true => exact leftReached_workFlag _
  | rightLevel level =>
      rw [driveAfter, State.flagAfter]
      cases state.right && !level with
      | false => rfl
      | true => exact rightReached_workFlag _
  | cycleExpires =>
      rw [driveAfter, State.flagAfter]
      split
      · exact Drive.enter_workFlag _ _
      · rfl
  | detectExpires =>
      rw [driveAfter, State.flagAfter]
      cases state.detectTimer.active with
      | false => simp
      | true =>
          simp only [if_true, true_and]
          exact detected_workFlag _
  | currentExpires =>
      rw [driveAfter, State.flagAfter]
      split
      · exact Drive.enter_workFlag _ _
      · rfl
  | overloadDelayExpires => rfl
  | adcWatchdog => rfl
  | pause => rfl
  | resume => rfl
  | inputsChange inputs => rfl

/-- The motor comes to rest only with a bit that says so, turns with `BACK`, and
rests behind every other bit. -/
def RestsAsPosted (state after : State) : Option JumpEvent → Prop
  | none => after.Idle → state.Idle
  | some .back => ¬after.Idle
  | some _ => after.Idle

theorem restsAsPosted_of_same {after : State} (same : after.workFlag = state.workFlag) :
    RestsAsPosted state after none := by
  intro idle
  rwa [State.Idle, same] at idle

theorem restsAsPosted_terminal {after : State} {bit : JumpEvent} (terminal : bit ≠ .back)
    (rests : RestsAsPosted state after (some bit)) : after.Idle := by
  cases bit with
  | back => exact absurd rfl terminal
  | tds => exact rests
  | stalling => exact rests
  | finish => exact rests
  | nomoto => exact rests
  | exit => exact rests

theorem step_restsAsPosted (hardware : event ≠ .cycle) :
    RestsAsPosted state (step state event) (state.posts event) := by
  have flag := step_workFlag state event
  cases event with
  | cycle => exact absurd rfl hardware
  | leftLevel level =>
      rw [State.flagAfter] at flag
      rw [State.posts]
      cases fallen : state.left && !level with
      | false =>
          rw [fallen] at flag
          exact restsAsPosted_of_same flag
      | true =>
          rw [fallen] at flag
          cases before : state.workFlag with
          | back =>
              have stopped : (step state (.leftLevel level)).Idle := .inl (by simpa [before] using flag)
              simp only [BEq.rfl, Bool.and_self, if_true, State.report]
              split <;> exact stopped
          | reset => exact fun _ => .inr before
          | stop => exact fun _ => .inl before
          | forward => exact restsAsPosted_of_same (by simpa [before] using flag)
          | waitback => exact restsAsPosted_of_same (by simpa [before] using flag)
  | rightLevel level =>
      rw [State.flagAfter] at flag
      rw [State.posts]
      split at flag
      · rename_i reached
        rw [if_pos reached]
        simp [RestsAsPosted, State.Idle, flag]
      · rename_i away
        rw [if_neg away]
        exact restsAsPosted_of_same flag
  | cycleExpires =>
      rw [State.flagAfter] at flag
      split at flag
      · exact fun idle => by simp [State.Idle, flag] at idle
      · exact restsAsPosted_of_same flag
  | detectExpires =>
      rw [State.flagAfter] at flag
      rw [State.posts]
      split at flag
      · rename_i stuck
        rw [if_pos stuck]
        exact .inr flag
      · rename_i moved
        rw [if_neg moved]
        exact restsAsPosted_of_same flag
  | currentExpires =>
      rw [State.flagAfter] at flag
      rw [State.posts]
      split at flag
      · rename_i stalls
        rw [if_pos stalls]
        exact .inr flag
      · rename_i turns
        rw [if_neg turns]
        exact restsAsPosted_of_same flag
  | overloadDelayExpires => exact restsAsPosted_of_same flag
  | adcWatchdog => exact restsAsPosted_of_same flag
  | pause => exact restsAsPosted_of_same flag
  | resume => exact restsAsPosted_of_same flag
  | inputsChange inputs => exact restsAsPosted_of_same flag

theorem report_terminal (state : State) : state.report ≠ .back ∧ state.report ≠ .exit := by
  rw [State.report]
  split <;> decide

theorem posts_ne_exit (hardware : event ≠ .cycle) : state.posts event ≠ some .exit := by
  cases event with
  | cycle => exact absurd rfl hardware
  | leftLevel level =>
      rw [State.posts]
      split
      · exact fun same => (report_terminal state).2 (Option.some.inj same)
      · exact (Option.some_ne_none _).symm
  | rightLevel level => rw [State.posts]; split <;> decide
  | detectExpires => rw [State.posts]; split <;> decide
  | currentExpires => rw [State.posts]; split <;> decide
  | _ => exact (Option.some_ne_none _).symm

/-- `BACK` is posted by a motor that runs before and behind it. -/
theorem running_of_posts_back (posted : state.posts event = some .back) :
    ¬state.Idle ∧ ¬(step state event).Idle := by
  have flag := step_workFlag state event
  cases event with
  | rightLevel level =>
      rw [State.posts] at posted
      split at posted
      · rename_i reached
        rw [State.flagAfter, if_pos reached] at flag
        simp only [Bool.and_eq_true, beq_iff_eq] at reached
        simp [State.Idle, flag, reached.2]
      · cases posted
  | leftLevel level =>
      rw [State.posts] at posted
      split at posted
      · exact absurd (Option.some.inj posted) (report_terminal state).1
      · cases posted
  | cycle => rw [State.posts] at posted; split at posted <;> cases posted
  | detectExpires => rw [State.posts] at posted; split at posted <;> cases posted
  | currentExpires => rw [State.posts] at posted; split at posted <;> cases posted
  | _ => cases posted

/-- Without a bit the motor rests as before, unless the cycle timer drives it. -/
theorem idle_of_posts_none (hardware : event ≠ .cycle) (posted : state.posts event = none)
    (quiet : event = .cycleExpires → state.cycleTimer.active = false) :
    (step state event).Idle ↔ state.Idle := by
  refine ⟨fun idle => ?_, fun idle => ?_⟩
  · have rests := @step_restsAsPosted state event hardware
    rw [posted] at rests
    exact rests idle
  · have flag := step_workFlag state event
    cases event with
    | cycle => exact absurd rfl hardware
    | leftLevel level =>
        rw [State.flagAfter] at flag
        split at flag
        · exact .inl flag
        · rwa [State.Idle, flag]
    | rightLevel level =>
        rw [State.posts] at posted
        split at posted
        · cases posted
        · rename_i away
          rw [State.flagAfter, if_neg away] at flag
          rwa [State.Idle, flag]
    | cycleExpires =>
        rw [State.flagAfter, quiet rfl, if_neg Bool.false_ne_true] at flag
        rwa [State.Idle, flag]
    | detectExpires =>
        rw [State.posts] at posted
        split at posted
        · cases posted
        · rename_i moved
          rw [State.flagAfter, if_neg moved] at flag
          rwa [State.Idle, flag]
    | currentExpires =>
        rw [State.posts] at posted
        split at posted
        · cases posted
        · rename_i turns
          rw [State.flagAfter, if_neg turns] at flag
          rwa [State.Idle, flag]
    | _ => rwa [State.Idle, flag]

theorem cycleExpires_running (active : state.cycleTimer.active = true) :
    ¬(step state .cycleExpires).Idle := by
  rw [State.Idle, step_workFlag, State.flagAfter, if_pos active]
  decide

end Idle

end SyrFilter.Moto
