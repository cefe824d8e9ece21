import SyrFilter.Display.System
import SyrFilter.Moto.Stops

namespace SyrFilter.Display

open SyrFilter.Lib
open SyrFilter.Storage (Op Device)

/-! # Requests that do not come back

A request for a backwash is counted, and its start reported, before `Moto_Run`
starts a timer.  Where the timer does not start, `Moto_Cycle` does not return.
-/

namespace State

variable (state : State)

def lcdtoBackwashStops : Option State :=
  if state.guiGetTopWin ≠ some .userMain3Win then
    state.moto.motoCycleStops.map fun moto => { state with moto }
  else none

def jumptoAutomaticStops : Option State := (state.call [.count 9]).lcdtoBackwashStops

def jumptoDeltaStops : Option State := (state.call [.count 10]).lcdtoBackwashStops

def userMain25InputFunStops : Option State :=
  if state.reminderAsked.clicked .enter then
    ((state.reminderAsked.tryTake .enter).call [.insertNotifyArray 0xff]).jumptoAutomaticStops
  else none

/-- The events that do not come back, and what they leave. -/
def stops : Event → Option State
  | .moto event _ => (Moto.stops state.moto event).map fun moto => { state with moto }
  | .syrMotoSet => state.lcdtoBackwashStops
  | .deltaRelease => state.jumptoDeltaStops
  | .rtcAutomatic => { state with screenReload := false }.jumptoAutomaticStops
  | .guiWinDisplay => if state.guiGetTopWin = some .userMain25Win then state.userMain25InputFunStops else none
  | .menu .lcdtoBackwash =>
      match state.guiGetTopWin with
      | some (.menuWin _) => (state.call [.count 8]).lcdtoBackwashStops
      | _ => none
  | _ => none

/-- `LcdtoBackwash` comes to a `Moto_Cycle` that returns `RT_EOK`. -/
def Accepts : Prop := state.Starts ∧ state.moto.Returns

instance : Decidable state.Accepts := inferInstanceAs (Decidable (_ ∧ _))

def AcceptsFromReminder : Prop := state.StartsFromReminder ∧ state.moto.Returns

instance : Decidable state.AcceptsFromReminder := inferInstanceAs (Decidable (_ ∧ _))

end State

/-- The device with a display that has gone on; its settings and the cloud follow. -/
def System.follow (system : System) (display : State) : System where
  display
  device := run Device.step system.device (display.opsSince system.display)
  uploads := system.uploads ++ display.uploadedSince system.display

def System.stops (system : System) : System.Event → Option System
  | .display event => (system.display.stops event).map system.follow
  | .counterWindow _ => none

/-! ## What a request that stops makes -/

/-- It has been counted; it has not returned. -/
structure Leaves (before after : State) (counted : List Op) : Prop where
  returned_eq : after.returned = before.returned
  counted_eq : after.counted = before.counted ++ counted

section Leaves

variable {state middle last : State} {counted : List Op} {event : Event}

theorem Leaves.after (first : Makes state middle [] [] counted) (second : Leaves middle last []) :
    Leaves state last counted where
  returned_eq := second.returned_eq.trans first.returned_eq
  counted_eq := by rw [second.counted_eq, first.counted_eq, List.append_nil]

theorem leaves_lcdtoBackwash (stopped : state.lcdtoBackwashStops = some last) : Leaves state last [] := by
  rw [State.lcdtoBackwashStops] at stopped
  split at stopped
  · obtain ⟨moto, cycle, rfl⟩ := Option.map_eq_some_iff.mp stopped
    refine ⟨?_, (List.append_nil _).symm⟩
    rw [State.returned, @Moto.calls_stops _ _ .cycle cycle, List.count_append]
    rfl
  · cases stopped

theorem lcdtoBackwashStops_eq_none : state.lcdtoBackwashStops = none ↔ (state.Starts → state.moto.Returns) := by
  rw [State.lcdtoBackwashStops]
  split
  · rename_i other
    rw [Option.map_eq_none_iff, Moto.motoCycleStops_eq_none]
    exact ⟨fun returns starts => returns starts.2, fun returns accepted => returns ⟨other, accepted⟩⟩
  · rename_i top
    exact iff_of_true rfl fun starts => absurd starts.1 top

/-- Whatever stops has been counted like what comes back. -/
theorem stops_leaves (stopped : state.stops event = some last) : Leaves state last (state.countedBy event) := by
  cases event with
  | moto event hardware =>
      obtain ⟨moto, stuck, rfl⟩ := Option.map_eq_some_iff.mp stopped
      refine ⟨?_, (List.append_nil _).symm⟩
      rw [State.returned, Moto.calls_stops stuck, List.count_append]
      cases event with
      | cycle => exact absurd rfl hardware
      | _ => rfl
  | syrMotoSet => exact leaves_lcdtoBackwash stopped
  | deltaRelease => exact (leaves_lcdtoBackwash stopped).after (makes_call [.count 10])
  | rtcAutomatic =>
      have told : Makes state ({ state with screenReload := false }.call [.count 9]) [] [] [.automaticBackwash] :=
        makes_calls [.count 9] ⟨rfl, rfl⟩
      exact (leaves_lcdtoBackwash stopped).after told
  | guiWinDisplay =>
      rw [State.stops] at stopped
      split at stopped
      · rename_i top
        rw [State.userMain25InputFunStops, reminderAsked_enter] at stopped
        split at stopped
        · rename_i entered
          have told : Makes state.reminderAsked
              (((state.reminderAsked.tryTake .enter).call [.insertNotifyArray 0xff]).call [.count 9]) [] []
              [.automaticBackwash] :=
            makes_calls [.insertNotifyArray 0xff, .count 9] ⟨rfl, List.append_assoc ..⟩
          have counted := (leaves_lcdtoBackwash stopped).after (makes_reminderAsked.trans told)
          simpa [State.countedBy, top, entered] using counted
        · cases stopped
      · cases stopped
  | menu made =>
      cases made with
      | lcdtoBackwash =>
          rw [State.stops] at stopped
          split at stopped
          · rename_i number top
            have told : Makes state (state.call [.count 8]) [] [] [.manualBackwash] := makes_call [.count 8]
            simpa [State.countedBy, top] using (leaves_lcdtoBackwash stopped).after told
          · cases stopped
      | _ => cases stopped
  | rtcReminder | refreshDisplay | lcdRefresh | wifiConnectWinAdd | wifiConnectWinDel | press _
    | doneJumpExpires => cases stopped

end Leaves

/-! ## The cycles that return -/

namespace State

/-- The `Moto_Cycle` calls of a step that return `RT_EOK`. -/
def returnedBy (state : State) (event : Event) : Nat :=
  if state.stops event = none then (state.startedBy event).length else 0

variable {state : State} {event : Event}

theorem returnedBy_eq (state : State) (event : Event) : state.returnedBy event = 0 ∨ state.returnedBy event = 1 := by
  rw [returnedBy]
  split
  · rcases state.startedBy_eq event with none | one
    · exact .inl (congrArg List.length none)
    · exact .inr (congrArg List.length one)
  · exact .inl rfl

theorem returnedBy_of_silent (silent : state.startedBy event = []) : state.returnedBy event = 0 := by
  rw [returnedBy, silent, List.length_nil, ite_self]

theorem returnedBy_ne_zero {starts : Prop} (started : state.startedBy event ≠ [] ↔ starts)
    (goes : state.stops event = none ↔ (starts → state.moto.Returns)) :
    state.returnedBy event ≠ 0 ↔ starts ∧ state.moto.Returns := by
  rw [← started] at goes ⊢
  rw [returnedBy]
  split
  · rename_i gone
    rw [Ne, List.length_eq_zero_iff]
    exact ⟨fun some => ⟨some, goes.mp gone some⟩, fun both => both.1⟩
  · rename_i stuck
    exact iff_of_false (not_not_intro rfl) fun both => stuck (goes.mpr fun _ => both.2)

theorem returnedBy_syrMotoSet : state.returnedBy .syrMotoSet ≠ 0 ↔ state.Accepts :=
  returnedBy_ne_zero startReport_ne_nil lcdtoBackwashStops_eq_none

theorem returnedBy_deltaRelease : state.returnedBy .deltaRelease ≠ 0 ↔ state.Accepts :=
  returnedBy_ne_zero startReport_ne_nil (@lcdtoBackwashStops_eq_none (state.call [.count 10]))

theorem returnedBy_rtcAutomatic : state.returnedBy .rtcAutomatic ≠ 0 ↔ state.Accepts := by
  have goes := @lcdtoBackwashStops_eq_none ({ state with screenReload := false }.call [.count 9])
  exact returnedBy_ne_zero startReport_ne_nil goes

theorem returnedBy_menu {number : Nat} (top : state.guiGetTopWin = some (.menuWin number)) :
    state.returnedBy (.menu .lcdtoBackwash) ≠ 0 ↔ state.Accepts := by
  refine returnedBy_ne_zero ?_ ?_
  · simpa [startedBy, top] using @startReport_ne_nil state
  · have goes := @lcdtoBackwashStops_eq_none (state.call [.count 8])
    simp only [stops, top]
    exact goes

theorem guiWinDeleteTop_returns : state.guiWinDeleteTop.moto.Returns ↔ state.moto.Returns := by
  rw [guiWinDeleteTop]
  split
  · exact Iff.rfl
  · rename_i window _
    cases window <;> exact Iff.rfl

theorem reminderAsked_returns : state.reminderAsked.moto.Returns ↔ state.moto.Returns := by
  rw [reminderAsked, tryTake_moto]
  split
  · exact @guiWinDeleteTop_returns ((state.tryTake .up).call [.insertNotifyArray 0xff])
  · exact Iff.rfl

theorem returnedBy_reminder (top : state.guiGetTopWin = some .userMain25Win)
    (entered : state.clicked .enter = true) :
    state.returnedBy .guiWinDisplay ≠ 0 ↔ state.AcceptsFromReminder := by
  refine returnedBy_ne_zero ?_ ?_
  · simp [startedBy, top, entered]
  · rw [stops, if_pos top, userMain25InputFunStops, reminderAsked_enter, if_pos entered, ← reminderAsked_starts top,
      ← reminderAsked_returns]
    exact @lcdtoBackwashStops_eq_none
      (((state.reminderAsked.tryTake .enter).call [.insertNotifyArray 0xff]).call [.count 9])

end State

end SyrFilter.Display
