import SyrFilter.Display.Backwash
import SyrFilter.Moto.Calls
import SyrFilter.Storage.Settings

namespace SyrFilter.Display

open SyrFilter.Lib
open SyrFilter.Storage (Op Device)

/-! # The display among the counters and the cloud

`Moto_Cycle` reports the start of a backwash and the poll of the backwash
screen its end; the counters of the backwashes go up where one is asked for.
What a step calls is read off the lists of calls of the motor and the display.
-/

def motoUpload : Moto.Call → Option Nat
  | .eventUpload status => some status
  | _ => none

def displayUpload : Call → Option Nat
  | .eventUpload status => some status
  | _ => none

/-- The operation on the settings behind a counter that goes up. -/
def counting : Call → Option Op
  | .count 8 => some .manualBackwash
  | .count 9 => some .automaticBackwash
  | .count 10 => some .deltaBackwash
  | .count 11 => some .errorCounted
  | _ => none

/-- `RTC_Clear` of `Moto_Cycle`. -/
def clearing : Moto.Call → Option Op
  | .rtcClear => some (.moto true)
  | _ => none

/-- The starts that the motor has reported. -/
def motoStarted (moto : Moto.State) : List Nat := moto.calls.filterMap motoUpload

namespace State

variable (state : State)

def started : List Nat := motoStarted state.moto

/-- The `Moto_Cycle` calls that have returned `RT_EOK`; each has lit the green LED just before. -/
def returned : Nat := state.moto.calls.count (.ledSelect 2)

def ended : List Nat := state.calls.filterMap displayUpload

def counted : List Op := state.calls.filterMap counting

def cleared : List Op := state.moto.calls.filterMap clearing

/-- The `event_upload` calls between two states. -/
def uploadedSince (before : State) : List Nat :=
  state.started.drop before.started.length ++ state.ended.drop before.ended.length

/-- The operations on the settings between two states. -/
def opsSince (before : State) : List Op :=
  state.counted.drop before.counted.length ++ state.cleared.drop before.cleared.length

end State

/-- The counters that a window shows with at most four digits. -/
inductive CounterWindow where
  | automatic
  | delta
deriving DecidableEq, Repr

/-- `UserMain10WinFun` and `UserMain11WinFun` cut the counter that they show. -/
def CounterWindow.winFun (device : Device) : CounterWindow → Device
  | .automatic =>
      if 9999 < device.ram.settings.counterAutomatic then
        { device with
          ram :=
            { device.ram with settings := { device.ram.settings with counterAutomatic := 9999 } } }
      else device
  | .delta =>
      if 9999 < device.ram.settings.counterDeltapress then
        { device with
          ram :=
            { device.ram with settings := { device.ram.settings with counterDeltapress := 9999 } } }
      else device

structure System where
  display : State
  device : Device
  /-- The `event_upload` calls, 1 for `backwash.started` and 0 for `backwash.ended`. -/
  uploads : List Nat

inductive System.Event where
  | display (event : Display.Event)
  | counterWindow (window : CounterWindow)

def System.step (system : System) : System.Event → System
  | .display event =>
      { display := Display.step system.display event
        device :=
          run Device.step system.device ((Display.step system.display event).opsSince system.display)
        uploads :=
          system.uploads ++ (Display.step system.display event).uploadedSince system.display }
  | .counterWindow window => { system with device := window.winFun system.device }

def System.boot (left right : Bool) (inputs : Moto.Inputs) (device : Device) : System where
  display := Display.boot left right inputs
  device
  uploads := []

/-! ## What a step makes -/

/-- The reports and the counts that lie between two states. -/
structure Makes (before after : State) (started ended : List Nat) (counted : List Op) : Prop where
  started_eq : after.started = before.started ++ started
  returned_eq : after.returned = before.returned + started.length
  ended_eq : after.ended = before.ended ++ ended
  counted_eq : after.counted = before.counted ++ counted

section Makes

variable {state before middle after : State} {started started' ended ended' : List Nat}
  {counted counted' : List Op}

theorem Makes.trans (first : Makes before middle started ended counted)
    (second : Makes middle after started' ended' counted') :
    Makes before after (started ++ started') (ended ++ ended') (counted ++ counted') := by
  refine ⟨?_, ?_, ?_, ?_⟩
  · rw [second.started_eq, first.started_eq, List.append_assoc]
  · rw [second.returned_eq, first.returned_eq, List.length_append, Nat.add_assoc]
  · rw [second.ended_eq, first.ended_eq, List.append_assoc]
  · rw [second.counted_eq, first.counted_eq, List.append_assoc]

theorem Makes.quiet (first : Makes before middle started ended counted)
    (second : Makes middle after [] [] []) : Makes before after started ended counted := by
  simpa only [List.append_nil] using first.trans second

theorem makes_calls (made : List Call)
    (same : after.moto.calls = before.moto.calls ∧ after.calls = before.calls ++ made) :
    Makes before after [] (made.filterMap displayUpload) (made.filterMap counting) := by
  refine ⟨?_, ?_, ?_, ?_⟩
  · rw [State.started, motoStarted, same.1, List.append_nil, State.started, motoStarted]
  · rw [State.returned, same.1, State.returned, List.length_nil, Nat.add_zero]
  · rw [State.ended, same.2, List.filterMap_append, State.ended]
  · rw [State.counted, same.2, List.filterMap_append, State.counted]

theorem makes_nothing (same : after.moto.calls = before.moto.calls ∧ after.calls = before.calls) :
    Makes before after [] [] [] :=
  makes_calls [] ⟨same.1, same.2.trans (List.append_nil _).symm⟩

theorem makes_call (made : List Call) :
    Makes state (state.call made) [] (made.filterMap displayUpload) (made.filterMap counting) :=
  makes_calls made ⟨rfl, rfl⟩

theorem windowFunction_calls (window : Window) :
    (state.windowFunction window).moto.calls = state.moto.calls ∧
      (state.windowFunction window).calls = state.calls := by
  cases window <;> exact ⟨rfl, rfl⟩

theorem guiWinAdd_calls (window : Window) :
    (state.guiWinAdd window).moto.calls = state.moto.calls ∧
      (state.guiWinAdd window).calls = state.calls := by
  rw [State.guiWinAdd]
  split
  · exact windowFunction_calls window
  · exact ⟨rfl, rfl⟩

theorem guiWinDeleteTop_calls :
    state.guiWinDeleteTop.moto.calls = state.moto.calls ∧ state.guiWinDeleteTop.calls = state.calls := by
  rw [State.guiWinDeleteTop]
  split
  · exact ⟨rfl, rfl⟩
  · exact windowFunction_calls _

end Makes

/-! ## The motor -/

section Motor

variable (moto : Moto.State)

theorem motoStarted_step (event : Moto.Event) :
    motoStarted (Moto.step moto event) = motoStarted moto ++ (Moto.made moto event).filterMap motoUpload := by
  rw [motoStarted, Moto.calls_step, List.filterMap_append, motoStarted]

/-- A start is reported, and the green LED lit, exactly when `Moto_Cycle` is left with `RT_EOK`. -/
theorem motoCycle_started :
    motoStarted moto.motoCycle.1 = motoStarted moto ++ (if moto.motoCycle.2 then [1] else []) ∧
      moto.motoCycle.1.calls.count (.ledSelect 2) =
        moto.calls.count (.ledSelect 2) + (if moto.motoCycle.2 then [1] else []).length := by
  rw [motoStarted, Moto.calls_motoCycle, List.filterMap_append, List.count_append, motoStarted, Moto.made]
  by_cases accepted : moto.cycleAccepted
  · rw [if_pos accepted, Moto.State.motoCycle_accepted accepted]
    exact ⟨rfl, rfl⟩
  · rw [if_neg accepted, Moto.State.motoCycle_refused accepted]
    exact ⟨rfl, rfl⟩

theorem made_hardware {event : Moto.Event} (hardware : event ≠ .cycle) :
    (Moto.made moto event).filterMap motoUpload = [] ∧ (Moto.made moto event).count (.ledSelect 2) = 0 := by
  cases event with
  | cycle => exact absurd rfl hardware
  | leftLevel level | rightLevel level | currentExpires =>
      rw [Moto.made]
      split <;> exact ⟨rfl, rfl⟩
  | detectExpires =>
      rw [Moto.made]
      split
      · split <;> exact ⟨rfl, rfl⟩
      · exact ⟨rfl, rfl⟩
  | cycleExpires | overloadDelayExpires | adcWatchdog | pause | resume | inputsChange _ => exact ⟨rfl, rfl⟩

end Motor

/-! ## The display -/

namespace State

variable (state : State)

/-- `LcdtoBackwash` comes to a `Moto_Cycle` that returns `RT_EOK`. -/
def Starts : Prop := state.guiGetTopWin ≠ some .userMain3Win ∧ state.moto.cycleAccepted

instance : Decidable state.Starts := inferInstanceAs (Decidable (_ ∧ _))

/-- The reminder window was asked to begin, and `LcdtoBackwash` starts once the window is closed if
it was asked for that as well. -/
def StartsFromReminder : Prop :=
  state.moto.cycleAccepted ∧ (state.clicked .up = true → state.below ≠ some .userMain3Win)

instance : Decidable state.StartsFromReminder := inferInstanceAs (Decidable (_ ∧ (_ → _)))

def startReport : List Nat := if state.Starts then [1] else []

/-- What the poll of the backwash screen reports. -/
def endReport : List Nat :=
  match recognised state.moto.jumpEvent with
  | some .tds | some .stalling | some .finish | some .nomoto => [0]
  | _ => []

def errorCount : List Op :=
  match recognised state.moto.jumpEvent with
  | some .tds | some .stalling | some .nomoto => [.errorCounted]
  | _ => []

/-- The starts that a step reports. -/
def startedBy : Event → List Nat
  | .syrMotoSet | .deltaRelease | .rtcAutomatic => state.startReport
  | .menu .lcdtoBackwash =>
      match state.guiGetTopWin with
      | some (.menuWin _) => state.startReport
      | _ => []
  | .guiWinDisplay =>
      if state.guiGetTopWin = some .userMain25Win ∧ state.clicked .enter = true ∧
          state.StartsFromReminder then [1]
      else []
  | _ => []

/-- The ends that a step reports. -/
def endedBy : Event → List Nat
  | .guiWinDisplay => if state.guiGetTopWin = some .userMain3Win then state.endReport else []
  | _ => []

/-- The counters that a step lets go up. -/
def countedBy : Event → List Op
  | .deltaRelease => [.deltaBackwash]
  | .rtcAutomatic => [.automaticBackwash]
  | .menu .lcdtoBackwash =>
      match state.guiGetTopWin with
      | some (.menuWin _) => [.manualBackwash]
      | _ => []
  | .guiWinDisplay =>
      match state.guiGetTopWin with
      | some .userMain3Win => state.errorCount
      | some .userMain25Win => if state.clicked .enter then [.automaticBackwash] else []
      | _ => []
  | _ => []

end State

section Display

variable {state : State}

theorem makes_lcdtoBackwash : Makes state state.lcdtoBackwash state.startReport [] [] := by
  rw [State.lcdtoBackwash, State.startReport]
  have begun : Makes state { state with moto := state.moto.motoCycle.1 }
      (if state.moto.motoCycle.2 then [1] else []) [] [] :=
    ⟨(motoCycle_started state.moto).1, (motoCycle_started state.moto).2, (List.append_nil _).symm,
      (List.append_nil _).symm⟩
  by_cases other : state.guiGetTopWin ≠ some .userMain3Win
  · rw [if_pos other]
    by_cases accepted : state.moto.cycleAccepted
    · have starts : state.Starts := ⟨other, accepted⟩
      have ok : state.moto.motoCycle.2 = true := by rw [Moto.State.motoCycle_accepted accepted]
      rw [ok, if_pos rfl] at begun
      rw [if_pos ok, if_pos starts]
      exact begun.quiet (makes_nothing (guiWinAdd_calls .userMain3Win))
    · have idle : ¬state.Starts := fun starts => accepted starts.2
      have refused : ¬state.moto.motoCycle.2 = true := by
        rw [Moto.State.motoCycle_refused accepted]
        exact Bool.false_ne_true
      rw [if_neg refused] at begun
      rw [if_neg refused, if_neg idle]
      exact begun
  · have idle : ¬state.Starts := fun starts => other starts.1
    rw [if_neg other, if_neg idle]
    exact makes_nothing ⟨rfl, rfl⟩

theorem makes_receiveJumpEvent :
    Makes state state.receiveJumpEvent [] state.endReport state.errorCount := by
  rw [State.receiveJumpEvent, State.endReport, State.errorCount]
  cases State.recognised state.moto.jumpEvent with
  | none => exact makes_nothing ⟨rfl, rfl⟩
  | some bit =>
      cases bit with
      | back => exact makes_nothing ⟨rfl, rfl⟩
      | tds => exact makes_calls [.eventUpload 0, .insertNotifyArray 0x06, .count 11, .ledSelect 1] ⟨rfl, rfl⟩
      | stalling => exact makes_calls [.eventUpload 0, .insertErrorArray 0xa, .count 11, .ledSelect 1] ⟨rfl, rfl⟩
      | finish => exact makes_calls [.eventUpload 0, .insertNotifyArray 0xff, .insertErrorArray 0xff] ⟨rfl, rfl⟩
      | nomoto => exact makes_calls [.eventUpload 0, .insertErrorArray 0xa, .count 11, .ledSelect 1] ⟨rfl, rfl⟩
      | exit =>
          have closed := @guiWinDeleteTop_calls
            { state with moto := { state.moto with jumpEvent := ∅ }, screenReload := true }
          exact makes_calls [.ledSelect 0] ⟨closed.1, congrArg (· ++ [Call.ledSelect 0]) closed.2⟩

theorem makes_userMain3InputFun :
    Makes state state.userMain3InputFun [] state.endReport state.errorCount := by
  rw [State.userMain3InputFun]
  refine makes_receiveJumpEvent.quiet ?_
  generalize state.receiveJumpEvent = received
  split
  · have home := fun entered : State => @guiWinAdd_calls entered.guiWinInit userMain1Win
    exact makes_calls [.ledSelect 0] ⟨(home _).1, (home _).2⟩
  · exact makes_nothing ⟨rfl, rfl⟩

/-- The reminder window closed by Up. -/
def State.reminderClosed (state : State) : State :=
  ((state.tryTake .up).call [.insertNotifyArray 0xff]).guiWinDeleteTop

/-- The reminder window once Up and Down are taken. -/
def State.reminderAsked (state : State) : State :=
  (if state.clicked .up then state.reminderClosed else state.tryTake .up).tryTake .down

theorem windowFunction_winManage (window : Window) :
    (state.windowFunction window).winManage = state.winManage := by
  cases window <;> rfl

theorem guiWinDeleteTop_top :
    state.guiWinDeleteTop.guiGetTopWin = state.below.or state.guiGetTopWin := by
  rw [State.guiWinDeleteTop]
  cases under : state.below with
  | none => rfl
  | some window =>
      have top : state.winManage.winStack.tail.head? = some window := by
        rw [← under, State.below, List.head?_tail]
      simp only [State.guiGetTopWin, windowFunction_winManage, top, Option.some_or]

theorem guiWinDeleteTop_accepted :
    state.guiWinDeleteTop.moto.cycleAccepted ↔ state.moto.cycleAccepted := by
  rw [State.guiWinDeleteTop]
  split
  · exact Iff.rfl
  · rename_i window _
    cases window <;> exact Iff.rfl

theorem clicked_tryTake {key other : Key} (different : other ≠ key) :
    (state.tryTake key).clicked other = state.clicked other := by
  have same : (state.tryTake key).clicks other = state.clicks other :=
    Function.update_of_ne different _ _
  rw [State.clicked, same, State.clicked]

theorem reminderClosed_enter : state.reminderClosed.clicked .enter = state.clicked .enter := by
  have closed : state.reminderClosed.clicks = (state.tryTake .up).clicks :=
    State.guiWinDeleteTop_frame.2
  rw [State.clicked, closed]
  exact clicked_tryTake (by decide)

theorem reminderAsked_enter : state.reminderAsked.clicked .enter = state.clicked .enter := by
  rw [State.reminderAsked, clicked_tryTake (by decide)]
  split
  · exact reminderClosed_enter
  · exact clicked_tryTake (by decide)

theorem reminderClosed_starts (top : state.guiGetTopWin = some .userMain25Win) :
    state.reminderClosed.Starts ↔ state.moto.cycleAccepted ∧ state.below ≠ some .userMain3Win := by
  have uncovered : state.reminderClosed.guiGetTopWin = state.below.or (some .userMain25Win) := by
    rw [← top]
    exact guiWinDeleteTop_top
  have accepted : state.reminderClosed.moto.cycleAccepted ↔ state.moto.cycleAccepted :=
    guiWinDeleteTop_accepted
  have other : state.below.or (some .userMain25Win) ≠ some .userMain3Win ↔
      state.below ≠ some .userMain3Win := by
    cases state.below <;> simp
  rw [State.Starts, uncovered, accepted, other, and_comm]

theorem reminderAsked_starts (top : state.guiGetTopWin = some .userMain25Win) :
    state.reminderAsked.Starts ↔ state.StartsFromReminder := by
  have taken (asked : State) : (asked.tryTake .down).Starts ↔ asked.Starts := Iff.rfl
  rw [State.reminderAsked, taken, State.StartsFromReminder]
  cases up : state.clicked .up with
  | false =>
      have other : state.guiGetTopWin ≠ some .userMain3Win := by simp [top]
      exact ⟨fun starts => ⟨starts.2, fun never => Bool.noConfusion never⟩,
        fun starts => ⟨other, starts.1⟩⟩
  | true =>
      refine (reminderClosed_starts top).trans ?_
      exact ⟨fun starts => ⟨starts.1, fun _ => starts.2⟩, fun starts => ⟨starts.1, starts.2 rfl⟩⟩

theorem makes_reminderAsked : Makes state state.reminderAsked [] [] [] := by
  rw [State.reminderAsked]
  split
  · have closed := @guiWinDeleteTop_calls ((state.tryTake .up).call [.insertNotifyArray 0xff])
    exact makes_calls [.insertNotifyArray 0xff] ⟨closed.1, closed.2⟩
  · exact makes_nothing ⟨rfl, rfl⟩

/-- Enter in the reminder window, from whatever state Up and Down left. -/
theorem makes_reminderAccepted :
    Makes state ((state.tryTake .enter).call [.insertNotifyArray 0xff]).jumptoAutomatic
      state.startReport [] [.automaticBackwash] := by
  have told : Makes state
      (((state.tryTake .enter).call [.insertNotifyArray 0xff]).call [.count 9]) [] []
      [.automaticBackwash] :=
    makes_calls [.insertNotifyArray 0xff, .count 9] ⟨rfl, List.append_assoc ..⟩
  exact told.trans makes_lcdtoBackwash

theorem userMain25InputFun_eq :
    state.userMain25InputFun =
      (if state.reminderAsked.clicked .enter then
        ((state.reminderAsked.tryTake .enter).call [.insertNotifyArray 0xff]).jumptoAutomatic
      else state.reminderAsked.tryTake .enter).tryTake .long := rfl

theorem makes_userMain25InputFun (top : state.guiGetTopWin = some .userMain25Win) :
    Makes state state.userMain25InputFun
      (if state.clicked .enter = true ∧ state.StartsFromReminder then [1] else []) []
      (if state.clicked .enter then [.automaticBackwash] else []) := by
  rw [userMain25InputFun_eq, reminderAsked_enter]
  cases entered : state.clicked .enter with
  | false => exact makes_reminderAsked.quiet (makes_nothing ⟨rfl, rfl⟩)
  | true =>
      have report : state.reminderAsked.startReport =
          if true = true ∧ state.StartsFromReminder then [1] else [] := by
        simp only [State.startReport, reminderAsked_starts top, true_and]
      rw [← report]
      exact (makes_reminderAsked.trans makes_reminderAccepted).quiet (makes_nothing ⟨rfl, rfl⟩)

theorem makes_winWifiInputCallback : Makes state state.winWifiInputCallback [] [] [] := by
  rw [State.winWifiInputCallback]
  split
  · exact makes_nothing ⟨rfl, rfl⟩
  · split
    · exact makes_nothing ⟨rfl, rfl⟩
    · split <;> exact makes_nothing ⟨rfl, rfl⟩

theorem makes_guiWinDisplay :
    Makes state state.guiWinDisplay (state.startedBy .guiWinDisplay) (state.endedBy .guiWinDisplay)
      (state.countedBy .guiWinDisplay) := by
  rw [State.guiWinDisplay, State.startedBy, State.endedBy, State.countedBy]
  cases top : state.guiGetTopWin with
  | none => exact makes_nothing ⟨rfl, rfl⟩
  | some window =>
      cases window with
      | userMain3Win => exact makes_userMain3InputFun
      | userMain25Win =>
          have made := makes_userMain25InputFun top
          simpa using made
      | winWifiConnect => exact makes_winWifiInputCallback
      | menuWin number => exact makes_nothing ⟨rfl, rfl⟩

theorem makes_menuCall (made : MenuCall) :
    Makes state (state.menuCall made) (state.startedBy (.menu made)) (state.endedBy (.menu made))
      (state.countedBy (.menu made)) := by
  rw [State.menuCall]
  split
  · rename_i number top
    cases made with
    | guiWinAdd other => exact makes_nothing (guiWinAdd_calls _)
    | guiWinReload => exact makes_nothing (windowFunction_calls _)
    | guiWinDeleteTop => exact makes_nothing guiWinDeleteTop_calls
    | lcdtoBackwash =>
        simp only [State.startedBy, State.endedBy, State.countedBy, top]
        exact (makes_call [.count 8]).trans makes_lcdtoBackwash
  · rename_i other
    cases made with
    | lcdtoBackwash =>
        have quiet : state.startedBy (.menu .lcdtoBackwash) = [] ∧
            state.countedBy (.menu .lcdtoBackwash) = [] := by
          rw [State.startedBy, State.countedBy]
          split
          · rename_i number top
            exact absurd top (other number)
          · exact ⟨rfl, rfl⟩
        rw [quiet.1, quiet.2]
        exact makes_nothing ⟨rfl, rfl⟩
    | _ => exact makes_nothing ⟨rfl, rfl⟩

theorem step_makes (event : Event) :
    Makes state (step state event) (state.startedBy event) (state.endedBy event)
      (state.countedBy event) := by
  cases event with
  | moto event hardware =>
      obtain ⟨silent, dark⟩ := made_hardware state.moto hardware
      refine ⟨?_, ?_, (List.append_nil _).symm, (List.append_nil _).symm⟩
      · exact (motoStarted_step state.moto event).trans (congrArg (motoStarted state.moto ++ ·) silent)
      · rw [State.returned, step, Moto.calls_step, List.count_append, dark]
        rfl
  | syrMotoSet => exact makes_lcdtoBackwash
  | deltaRelease => exact (makes_call [.count 10]).trans makes_lcdtoBackwash
  | rtcAutomatic =>
      have counted : Makes state ({ state with screenReload := false }.call [.count 9]) [] []
          [.automaticBackwash] := makes_calls [.count 9] ⟨rfl, rfl⟩
      exact counted.trans makes_lcdtoBackwash
  | rtcReminder =>
      rw [step, State.lcdtoReminder]
      split
      · have added := @guiWinAdd_calls { state with screenReload := false } .userMain25Win
        exact makes_calls [.insertNotifyArray 0x07]
          ⟨added.1, congrArg (· ++ [Call.insertNotifyArray 0x07]) added.2⟩
      · exact makes_calls [.insertNotifyArray 0x07] ⟨rfl, rfl⟩
  | refreshDisplay =>
      rw [step, State.refreshDisplay]
      split
      · exact makes_nothing ⟨rfl, rfl⟩
      · exact makes_nothing (windowFunction_calls _)
  | lcdRefresh =>
      rw [step, State.lcdRefreshFromSleep]
      split
      · exact makes_nothing (@guiWinAdd_calls state.guiWinInit userMain1Win)
      · exact makes_nothing ⟨rfl, rfl⟩
  | wifiConnectWinAdd =>
      rw [step, State.wifiConnectWinAdd]
      split
      · exact makes_nothing (guiWinAdd_calls _)
      · exact makes_nothing ⟨rfl, rfl⟩
  | wifiConnectWinDel =>
      rw [step, State.wifiConnectWinDel]
      split
      · exact makes_nothing guiWinDeleteTop_calls
      · exact makes_nothing ⟨rfl, rfl⟩
  | press key => exact makes_nothing ⟨rfl, rfl⟩
  | doneJumpExpires =>
      rw [step]
      split <;> exact makes_nothing ⟨rfl, rfl⟩
  | guiWinDisplay => exact makes_guiWinDisplay
  | menu made => exact makes_menuCall made

theorem State.startReport_eq_nil : state.startReport = [] ↔ ¬state.Starts := by
  rw [startReport]
  split
  · rename_i starts
    exact iff_of_false (List.cons_ne_nil _ _) (not_not_intro starts)
  · rename_i refused
    exact iff_of_true rfl refused

theorem State.startReport_ne_nil : state.startReport ≠ [] ↔ state.Starts :=
  (not_congr startReport_eq_nil).trans not_not

theorem State.startedBy_eq (state : State) (event : Event) :
    state.startedBy event = [] ∨ state.startedBy event = [1] := by
  have report : state.startReport = [] ∨ state.startReport = [1] := by
    rw [startReport]
    split
    · exact .inr rfl
    · exact .inl rfl
  cases event with
  | syrMotoSet => exact report
  | deltaRelease => exact report
  | rtcAutomatic => exact report
  | guiWinDisplay =>
      rw [startedBy]
      split
      · exact .inr rfl
      · exact .inl rfl
  | menu made =>
      cases made with
      | lcdtoBackwash =>
          rw [startedBy]
          split
          · exact report
          · exact .inl rfl
      | _ => exact .inl rfl
  | _ => exact .inl rfl

end Display

/-! ## The system -/

theorem System.step_uploads (system : System) (event : Display.Event) :
    (system.step (.display event)).uploads =
      system.uploads ++ (system.display.startedBy event ++ system.display.endedBy event) := by
  have made := @step_makes system.display event
  rw [System.step, State.uploadedSince, made.started_eq, made.ended_eq, List.drop_left, List.drop_left]

end SyrFilter.Display
