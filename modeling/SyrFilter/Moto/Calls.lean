import SyrFilter.Moto.Drive

namespace SyrFilter.Moto

/-! # What an event of the motor calls

`calls_step` says once which calls out of the motor an event makes, in their
order.
-/

/-- The calls that one event makes. -/
def made (state : State) : Event → List Call
  | .cycle =>
      if state.cycleAccepted then [.rtcClear, .screenTimerStop, .eventUpload 1, .ledSelect 2] else [.rtcClear]
  | .leftLevel level =>
      if (state.left && !level) ∧ state.workFlag = .back then [.ledSelect 3, .screenTimerRefresh] else []
  | .rightLevel level => if (state.right && !level) ∧ state.workFlag = .forward then [.tdsWork] else []
  | .detectExpires =>
      if state.detectTimer.active then
        if state.workFlag = .forward ∧ state.right ∨ state.workFlag = .back ∧ state.left then
          [.ledSelect 3, .screenTimerRefresh]
        else [.screenTimerRefresh]
      else []
  | .currentExpires =>
      if state.currentTimer.active ∧ 45 ≤ state.inputs.motoCurrent then
        [.ledSelect 3, .screenTimerRefresh, .screenTimerRefresh]
      else []
  | .cycleExpires | .overloadDelayExpires | .adcWatchdog | .pause | .resume | .inputsChange _ => []

section Made

variable {state : State}

theorem calls_motoRun (target : Moto.WorkFlag) : (state.motoRun target).calls = state.calls := by
  cases target with
  | stop => rfl
  | waitback => rfl
  | forward => rw [State.motoRun]; split <;> rfl
  | back => rw [State.motoRun]; split <;> rfl
  | reset => rw [State.motoRun]; split <;> rfl

theorem calls_reportTds : state.reportTds.calls = state.calls := by
  rw [State.reportTds]
  split
  · split <;> rfl
  · rfl

theorem calls_motoCycle :
    state.motoCycle.1.calls = state.calls ++ made state .cycle := by
  rw [made]
  split
  · rename_i accepted
    rw [State.motoCycle_accepted accepted]
    simp [State.startCycle, State.call, State.setPeriods, calls_motoRun]
  · rename_i refused
    rw [State.motoCycle_refused refused]
    rfl

theorem calls_givenUp : state.noMoto.motoCycleDone.calls = state.calls ++ [.ledSelect 3, .screenTimerRefresh] := by
  have run : state.noMoto.calls = state.calls ++ [.ledSelect 3] := @calls_motoRun (state.call (.ledSelect 3)) .reset
  simp [State.motoCycleDone, State.call, run]

theorem calls_leftCallback :
    state.motoLeftCallback.calls =
      state.calls ++ if state.workFlag = .back then [.ledSelect 3, .screenTimerRefresh] else [] := by
  rw [State.motoLeftCallback]
  split
  · rename_i back
    rw [if_pos back]
    simp [State.motoCycleDone, State.call, calls_reportTds, calls_motoRun]
  · rename_i reset
    rw [calls_motoRun, if_neg (by simp [reset]), List.append_nil]
  · rename_i notBack notReset
    rw [if_neg notBack, List.append_nil]

theorem calls_rightCallback :
    state.motoRightCallback.calls = state.calls ++ if state.workFlag = .forward then [.tdsWork] else [] := by
  rw [State.motoRightCallback]
  split
  · rename_i forward
    rw [if_pos forward]
    rfl
  · rename_i notForward
    rw [if_neg notForward, List.append_nil]

theorem calls_detectCallback :
    state.motoDetectTimerCallback.calls =
      state.calls ++
        if state.workFlag = .forward ∧ state.right ∨ state.workFlag = .back ∧ state.left then
          [.ledSelect 3, .screenTimerRefresh]
        else [.screenTimerRefresh] := by
  rw [State.motoDetectTimerCallback]
  split
  · rename_i forward
    cases right : state.right with
    | true => simpa [forward, right] using calls_givenUp
    | false => simp [forward, right, State.motoCycleDone, State.call]
  · rename_i back
    cases left : state.left with
    | true => simpa [back, left] using calls_givenUp
    | false => simp [back, left, State.motoCycleDone, State.call]
  · rename_i notForward notBack
    rw [if_neg]
    · rfl
    · rintro (⟨forward, -⟩ | ⟨back, -⟩)
      · exact notForward forward
      · exact notBack back

theorem calls_currentCallback :
    state.motoCurrentTimerCallback.calls =
      state.calls ++
        if 45 ≤ state.inputs.motoCurrent then [.ledSelect 3, .screenTimerRefresh, .screenTimerRefresh] else [] := by
  rw [State.motoCurrentTimerCallback]
  split
  · simp [State.motoCycleDone, State.call, State.jumpStalling, State.jump, calls_motoRun]
  · exact (List.append_nil _).symm

theorem calls_step (event : Event) : (step state event).calls = state.calls ++ made state event := by
  cases event with
  | cycle => exact calls_motoCycle
  | leftLevel level =>
      rw [step, made]
      by_cases edge : (state.left && !level) = true
      · rw [if_pos edge]
        simpa [edge] using @calls_leftCallback { state with left := level }
      · rw [if_neg edge, if_neg fun both => edge both.1, List.append_nil]
  | rightLevel level =>
      rw [step, made]
      by_cases edge : (state.right && !level) = true
      · rw [if_pos edge]
        simpa [edge] using @calls_rightCallback { state with right := level }
      · rw [if_neg edge, if_neg fun both => edge both.1, List.append_nil]
  | cycleExpires =>
      rw [step, made, List.append_nil]
      split
      · exact calls_motoRun .back
      · rfl
  | detectExpires =>
      rw [step, made]
      split
      · exact calls_detectCallback
      · rw [List.append_nil]
  | currentExpires =>
      rw [step, made]
      cases armed : state.currentTimer.active with
      | true => simpa [armed] using @calls_currentCallback { state with currentTimer := state.currentTimer.stop }
      | false => simp
  | overloadDelayExpires =>
      rw [step, made, List.append_nil]
      split <;> rfl
  | adcWatchdog =>
      rw [step, made, List.append_nil]
      split <;> rfl
  | pause => exact (List.append_nil _).symm
  | resume => exact (List.append_nil _).symm
  | inputsChange inputs => exact (List.append_nil _).symm

end Made

end SyrFilter.Moto
