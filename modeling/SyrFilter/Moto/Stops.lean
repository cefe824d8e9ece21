import SyrFilter.Lib.Halting
import SyrFilter.Moto.Calls

namespace SyrFilter.Moto

/-! # Timers that do not start

`rt_timer_start` takes the timer off its list and then asserts its tick count;
where that fails, `rt_assert_handler` loops with the interrupts off.  Two of the
motor's timers have a count that `Moto_Cycle` computes, and so three of its
events can stop there.
-/

namespace State

variable (state : State)

/-- What `Moto_Run` leaves behind in `rt_timer_start`. -/
def motoRunStops : WorkFlag → Option State
  | .forward =>
      if state.right then
        if state.detectTimer.Startable then none
        else
          some
            { state.enableMotoInt with
              workFlag := .forward, in1 := false, in2 := true, detectTimer := state.detectTimer.stop }
      else if state.cycleTimer.Startable then none
      else some { state with workFlag := .forward, cycleTimer := state.cycleTimer.stop }
  | .back =>
      if state.left then
        if state.detectTimer.Startable then none
        else
          some
            { state.enableMotoInt with
              workFlag := .back, in1 := true, in2 := false, detectTimer := state.detectTimer.stop }
      else none
  | .stop | .waitback | .reset => none

/-- `Moto_Cycle` between its checks and `Moto_Run`. -/
def beginCycle : State :=
  (({ state with sleepLock := true }.call .screenTimerStop).setPeriods
    (backwashtimeMileSecond state.inputs.settingBackwashtime)).call (.eventUpload 1)

def motoCycleStops : Option State :=
  if state.cycleAccepted then (state.call .rtcClear).beginCycle.motoRunStops .forward else none

def armCycleTimerStops : Option State :=
  if state.cycleTimer.Startable then none else some { state with cycleTimer := state.cycleTimer.stop }

def motoRightCallbackStops : Option State :=
  match state.workFlag with
  | .forward => ((state.jumpBack.motoRun .waitback).call .tdsWork).armCycleTimerStops
  | _ => none

/-- The timer that `Moto_Cycle` starts takes the count that it computes. -/
def Returns : Prop :=
  if state.right then
    (backwashtimeMileSecond state.inputs.settingBackwashtime + 60 * 1000) % 0x100000000 < 0xFFFFFFFF / 2
  else backwashtimeMileSecond state.inputs.settingBackwashtime < 0xFFFFFFFF / 2

instance : Decidable state.Returns := inferInstanceAs (Decidable (ite _ _ _))

end State

/-- The events that stop, and where. -/
def stops (state : State) : Event → Option State
  | .cycle => state.motoCycleStops
  | .rightLevel level =>
      if state.right && !level then { state with right := level }.motoRightCallbackStops else none
  | .cycleExpires =>
      if state.cycleTimer.active then { state with cycleTimer := state.cycleTimer.stop }.motoRunStops .back
      else none
  | _ => none

section Stops

variable {state last : State} {target : WorkFlag}

theorem startCycle_eq : state.startCycle = (state.beginCycle.motoRun .forward).call (.ledSelect 2) := rfl

theorem backwashtimeMileSecond_eq {settingBackwashtime : Nat} (narrow : settingBackwashtime < 65536) :
    State.backwashtimeMileSecond settingBackwashtime =
      if 20 ≤ settingBackwashtime then (settingBackwashtime - 20) * 1000
      else 0x100000000 - (20 - settingBackwashtime) * 1000 := by
  rw [State.backwashtimeMileSecond]
  split
  · have small : ((settingBackwashtime : Int) - 20) * 1000 % 0x100000000 = (settingBackwashtime - 20) * 1000 :=
      Int.emod_eq_of_lt (by omega) (by omega)
    omega
  · have wraps : ((settingBackwashtime : Int) - 20) * 1000 % 0x100000000 =
        (settingBackwashtime - 20) * 1000 + 0x100000000 := by
      rw [← Int.add_emod_right]
      exact Int.emod_eq_of_lt (by omega) (by omega)
    omega

/-- A setting in a `uint16_t`: the counts below 20 wrap, and only the longer one wraps back. -/
theorem returns_iff (narrow : state.inputs.settingBackwashtime < 65536) :
    state.Returns ↔ state.right = true ∨ 20 ≤ state.inputs.settingBackwashtime := by
  rw [State.Returns, backwashtimeMileSecond_eq narrow]
  cases right : state.right with
  | true =>
      simp only [if_true, true_or, iff_true]
      split
      · rw [Nat.mod_eq_of_lt (by omega)]
        omega
      · rename_i wraps
        have longer : 0x100000000 - (20 - state.inputs.settingBackwashtime) * 1000 + 60 * 1000 =
            (40 + state.inputs.settingBackwashtime) * 1000 + 0x100000000 := by omega
        rw [longer, Nat.add_mod_right, Nat.mod_eq_of_lt (by omega)]
        omega
  | false =>
      simp only [Bool.false_eq_true, if_false, false_or]
      split <;> omega

theorem motoRunStops_forward_eq_none :
    state.motoRunStops .forward = none ↔
      if state.right then state.detectTimer.Startable else state.cycleTimer.Startable := by
  rw [State.motoRunStops]
  split
  · split <;> simp_all
  · split <;> simp_all

theorem motoCycleStops_eq_none : state.motoCycleStops = none ↔ (state.cycleAccepted → state.Returns) := by
  rw [State.motoCycleStops]
  split
  · rename_i accepted
    rw [motoRunStops_forward_eq_none]
    exact ⟨fun returns _ => returns, fun returns => returns accepted⟩
  · rename_i refused
    exact iff_of_true rfl fun accepted => absurd accepted refused

theorem calls_motoRunStops (stopped : state.motoRunStops target = some last) : last.calls = state.calls := by
  cases target with
  | forward =>
      rw [State.motoRunStops] at stopped
      split at stopped
      · split at stopped
        · cases stopped
        · cases stopped
          rfl
      · split at stopped
        · cases stopped
        · cases stopped
          rfl
  | back =>
      rw [State.motoRunStops] at stopped
      split at stopped
      · split at stopped
        · cases stopped
        · cases stopped
          rfl
      · cases stopped
  | stop | waitback | reset => cases stopped

/-- What an event calls before it stops. -/
def madeStopping : Event → List Call
  | .cycle => [.rtcClear, .screenTimerStop, .eventUpload 1]
  | .rightLevel _ => [.tdsWork]
  | _ => []

/-- A cycle that stops has reported its start, but has not lit the LED. -/
theorem calls_stops {event : Event} (stopped : stops state event = some last) :
    last.calls = state.calls ++ madeStopping event := by
  cases event with
  | cycle =>
      rw [stops, State.motoCycleStops] at stopped
      split at stopped
      · rw [calls_motoRunStops stopped]
        simp [madeStopping, State.beginCycle, State.call, State.setPeriods]
      · cases stopped
  | rightLevel level =>
      rw [stops] at stopped
      split at stopped
      · rw [State.motoRightCallbackStops] at stopped
        split at stopped
        · rw [State.armCycleTimerStops] at stopped
          split at stopped
          · cases stopped
          · cases stopped
            rfl
        · cases stopped
      · cases stopped
  | cycleExpires =>
      rw [stops] at stopped
      split at stopped
      · exact (calls_motoRunStops stopped).trans (List.append_nil _).symm
      · cases stopped
  | leftLevel _ | detectExpires | currentExpires | overloadDelayExpires | adcWatchdog | pause | resume
    | inputsChange _ => cases stopped

theorem workFlag_motoRun : (state.motoRun target).workFlag = target :=
  (congrArg Drive.workFlag (State.motoRun_drive state target)).trans (Drive.enter_workFlag _ _)

theorem workFlag_motoRunStops (stopped : state.motoRunStops target = some last) : last.workFlag = target := by
  cases target with
  | forward =>
      rw [State.motoRunStops] at stopped
      split at stopped
      · split at stopped
        · cases stopped
        · cases stopped
          rfl
      · split at stopped
        · cases stopped
        · cases stopped
          rfl
  | back =>
      rw [State.motoRunStops] at stopped
      split at stopped
      · split at stopped
        · cases stopped
        · cases stopped
          rfl
      · cases stopped
  | stop | waitback | reset => cases stopped

/-- A motor that stops has entered its phase. -/
theorem workFlag_stops {event : Event} (stopped : stops state event = some last) :
    last.workFlag = (step state event).workFlag := by
  cases event with
  | cycle =>
      rw [stops, State.motoCycleStops] at stopped
      split at stopped
      · rename_i accepted
        rw [workFlag_motoRunStops stopped, step, State.motoCycle_accepted accepted]
        exact (State.startCycle_workFlag _).symm
      · cases stopped
  | rightLevel level =>
      rw [stops] at stopped
      split at stopped
      · rename_i edge
        rw [State.motoRightCallbackStops] at stopped
        split at stopped
        · rename_i forward
          have called : ({ state with right := level } : State).workFlag = .forward := forward
          rw [State.armCycleTimerStops] at stopped
          split at stopped
          · cases stopped
          · cases stopped
            rw [step, if_pos edge, State.motoRightCallback, called]
            rfl
        · cases stopped
      · cases stopped
  | cycleExpires =>
      rw [stops] at stopped
      split at stopped
      · rename_i armed
        rw [workFlag_motoRunStops stopped, step, if_pos armed]
        exact workFlag_motoRun.symm
      · cases stopped
  | leftLevel _ | detectExpires | currentExpires | overloadDelayExpires | adcWatchdog | pause | resume
    | inputsChange _ => cases stopped

end Stops

end SyrFilter.Moto
