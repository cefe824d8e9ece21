import SyrFilter.Display.Stack

namespace SyrFilter.Display

open SyrFilter.Lib

/-! # The pause of the motor and the update screen

The motor is paused when the update screen is drawn and resumed by its Enter.
A fresh start of the window stack removes the screen without resuming it.  The
backwash screen, whose Enter makes such a start, comes to lie over the update
screen when a thread has passed its test and `Moto_Cycle` before the update
screen opens and pushes the backwash screen afterwards.
-/

/-- `MotoWorkStatus` is 1 exactly while the update screen is on the stack. -/
def View.PausedForUpdate (view : View) : Prop := view.workStatus = 1 ↔ view.Updating

instance (view : View) : Decidable view.PausedForUpdate := inferInstanceAs (Decidable (_ ↔ _))

/-- The step starts the window stack afresh. -/
def Screen.StartsAfresh (screen : Screen) : Screen.Event → Prop
  | .lcdRefresh => screen.display.screenReload = true
  | .guiWinDisplay => screen.guiGetTopWin = some .userMain3Win ∧ screen.Leaves
  | _ => False

/-- The window stack is not started afresh under the update screen. -/
def Screen.KeepsPause (screen : Screen) (event : Screen.Event) : Prop :=
  screen.view.Updating → ¬screen.StartsAfresh event

namespace View

variable {view before after : View} {window : Window}

/-- Neither the pause nor the update screen has come or gone. -/
structure SamePause (before after : View) : Prop where
  updating : after.Updating ↔ before.Updating
  workStatus : after.workStatus = before.workStatus

theorem SamePause.refl : SamePause view view := ⟨Iff.rfl, rfl⟩

theorem SamePause.trans {middle : View} (first : SamePause before middle) (second : SamePause middle after) :
    SamePause before after :=
  ⟨second.updating.trans first.updating, second.workStatus.trans first.workStatus⟩

theorem SamePause.pausedForUpdate (same : SamePause before after) :
    after.PausedForUpdate ↔ before.PausedForUpdate := by
  rw [PausedForUpdate, PausedForUpdate, same.updating, same.workStatus]

theorem enter_same (kept : view.Updating → view.workStatus = 1) (drawn : window = userMain31Win → view.Updating) :
    SamePause view (view.enter window) := by
  rw [enter]
  split
  · rename_i update
    exact ⟨Iff.rfl, (kept (drawn update)).symm⟩
  · exact .refl

theorem push_same (other : window ≠ userMain31Win) : SamePause view (view.push window) := by
  rw [push]
  split
  · rw [enter_of_ne other]
    refine ⟨?_, rfl⟩
    exact List.mem_cons.trans (or_iff_right other.symm)
  · exact .refl

/-- A step that may add a window. -/
theorem push_ite_same (other : window ≠ userMain31Win) (opens : Prop) [Decidable opens] :
    SamePause view (if opens then view.push window else view) := by
  split
  · exact push_same other
  · exact .refl

/-- Closing another window than the update screen. -/
theorem pop_same (kept : view.Kept) (other : view.stack.head? ≠ some userMain31Win) :
    SamePause view view.pop := by
  rcases pop_cases kept with same | ⟨top, below, rest, stack, popped⟩
  · rw [same]
    exact .refl
  · have plain : top ≠ userMain31Win := by
      rw [stack] at other
      exact fun same => other (congrArg some same)
    have under : SamePause view { view with stack := below :: rest } := by
      refine ⟨?_, rfl⟩
      rw [Updating, Updating, stack]
      exact (List.mem_cons.trans (or_iff_right plain.symm)).symm
    rw [popped]
    refine under.trans (enter_same (fun updating => kept.paused (under.updating.mp updating)) fun same => ?_)
    exact same ▸ List.mem_cons_self

theorem redraw_same (kept : view.Kept) : SamePause view view.redraw := by
  rw [redraw]
  cases top : view.stack.head? with
  | none => exact .refl
  | some window =>
      refine enter_same kept.paused fun same => ?_
      rw [same] at top
      exact List.mem_of_mem_head? top

theorem catchUp_samePause (wifiStatus : UInt8) : SamePause view (view.catchUp wifiStatus) := by
  obtain ⟨stack, pause⟩ := catchUp_same view wifiStatus
  exact ⟨by rw [Updating, Updating, stack], pause⟩

theorem home_pausedForUpdate_iff (paused : view.PausedForUpdate) :
    view.home.PausedForUpdate ↔ ¬view.Updating := by
  have main : ¬view.home.Updating := by
    change userMain31Win ∉ [userMain1Win]
    decide
  rw [PausedForUpdate, iff_false_right main]
  exact not_congr paused

end View

namespace Screen

variable {screen : Screen}

theorem backwashView_paused_iff (kept : screen.view.Kept) (paused : screen.view.PausedForUpdate)
    (top : screen.guiGetTopWin = some .userMain3Win) :
    screen.backwashView.PausedForUpdate ↔ (screen.view.Updating → ¬screen.Leaves) := by
  have received : screen.view.SamePause screen.receivedView := by
    rw [receivedView]
    split
    · refine View.pop_same kept ?_
      rw [top_of_stack top]
      decide
    · exact .refl
  rw [backwashView]
  split
  · rename_i leaves
    rw [View.home_pausedForUpdate_iff (received.pausedForUpdate.mpr paused), received.updating]
    exact ⟨fun absent updating => absurd updating absent, fun stays updating => stays updating leaves⟩
  · rename_i stays
    exact iff_of_true (received.pausedForUpdate.mpr paused) fun _ => stays

theorem reminderView_same (kept : screen.view.Kept) (top : screen.guiGetTopWin = some .userMain25Win) :
    screen.view.SamePause screen.reminderView := by
  have closed : screen.view.SamePause screen.closedView := by
    rw [closedView]
    split
    · refine View.pop_same kept ?_
      rw [top_of_stack top]
      decide
    · exact .refl
  exact closed.trans (View.push_ite_same (by decide) _)

theorem updateView_paused (kept : screen.view.Kept) (paused : screen.view.PausedForUpdate)
    (top : screen.guiGetTopWin = some userMain31Win) : screen.updateView.PausedForUpdate := by
  rw [updateView, (View.catchUp_samePause _).pausedForUpdate, leftView]
  split
  · obtain ⟨-, gone, free⟩ := View.leave_spec kept top
    rw [View.PausedForUpdate, free]
    exact iff_of_false (by decide) gone
  · exact paused

theorem pollView_paused_iff (kept : screen.view.Kept) (paused : screen.view.PausedForUpdate) :
    screen.pollView.PausedForUpdate ↔ screen.KeepsPause .guiWinDisplay := by
  have stays : screen.guiGetTopWin ≠ some .userMain3Win → screen.KeepsPause .guiWinDisplay := fun other _ starts =>
    other starts.1
  rw [pollView]
  cases top : screen.guiGetTopWin with
  | none => exact iff_of_true paused (stays (by simp [top]))
  | some window =>
      cases window with
      | userMain3Win =>
          refine (backwashView_paused_iff kept paused top).trans ?_
          refine forall_congr' fun _ => not_congr ⟨fun leaves => ⟨top, leaves⟩, fun starts => starts.2⟩
      | userMain25Win =>
          refine iff_of_true ?_ (stays (by simp [top]))
          exact (reminderView_same kept top).pausedForUpdate.mpr paused
      | winWifiConnect => exact iff_of_true paused (stays (by simp [top]))
      | menuWin number =>
          refine iff_of_true ?_ (stays (by simp [top]))
          dsimp only
          split
          · rename_i update
            subst update
            exact updateView_paused kept paused top
          · exact paused

theorem menuView_paused (kept : screen.view.Kept) (paused : screen.view.PausedForUpdate) (made : MenuCall) :
    (screen.menuView made).PausedForUpdate := by
  rw [menuView]
  split
  · rename_i number top
    split
    · exact paused
    · rename_i other
      have plain : Window.menuWin number ≠ userMain31Win := fun same => other (Window.menuWin.inj same)
      cases made with
      | guiWinAdd opened =>
          dsimp only
          split
          · exact paused
          · by_cases update : opened = 31
            · subst update
              rw [View.push]
              split
              · exact iff_of_true rfl List.mem_cons_self
              · exact paused
            · have another : Window.menuWin opened ≠ userMain31Win := fun same => update (Window.menuWin.inj same)
              exact (View.push_same another).pausedForUpdate.mpr paused
      | guiWinReload => exact paused
      | guiWinDeleteTop =>
          refine (View.pop_same kept ?_).pausedForUpdate.mpr paused
          rw [top_of_stack top]
          exact fun same => plain (Option.some.inj same)
      | lcdtoBackwash =>
          exact (View.push_ite_same (by decide) _).pausedForUpdate.mpr paused
  · exact paused

theorem viewAfter_paused_iff (kept : screen.view.Kept) (paused : screen.view.PausedForUpdate) (event : Event) :
    (screen.viewAfter event).PausedForUpdate ↔ screen.KeepsPause event := by
  cases event with
  | push thread =>
      exact iff_of_true ((View.push_ite_same (by decide) _).pausedForUpdate.mpr paused) fun _ => False.elim
  | rtcReminder =>
      exact iff_of_true ((View.push_ite_same (by decide) _).pausedForUpdate.mpr paused) fun _ => False.elim
  | refreshDisplay =>
      exact iff_of_true ((View.redraw_same kept).pausedForUpdate.mpr paused) fun _ => False.elim
  | lcdRefresh =>
      rw [viewAfter]
      split
      · rename_i reload
        rw [View.home_pausedForUpdate_iff paused]
        exact ⟨fun absent updating => absurd updating absent, fun keeps updating => keeps updating reload⟩
      · rename_i still
        exact iff_of_true paused fun _ => still
  | guiWinDisplay => exact pollView_paused_iff kept paused
  | menu made => exact iff_of_true (menuView_paused kept paused made) fun _ => False.elim
  | wifiConnectStart =>
      exact iff_of_true ((View.push_ite_same (by decide) _).pausedForUpdate.mpr paused) fun _ => False.elim
  | wifiCloseExpires =>
      refine iff_of_true ?_ fun _ => False.elim
      rw [viewAfter]
      split
      · split
        · rename_i top
          refine (View.pop_same kept ?_).pausedForUpdate.mpr paused
          rw [top_of_stack top]
          decide
        · exact paused
      · exact paused
  | otaTimeout =>
      refine iff_of_true ?_ fun _ => False.elim
      rw [viewAfter]
      split
      · exact paused
      · exact paused
  | _ => exact iff_of_true paused fun _ => False.elim

/-- In every run from the start, the motor is paused exactly while the update
screen is on the stack, in every state, if and only if no step starts the
window stack afresh under the update screen. -/
theorem paused_for_update_iff (left right : Bool) (inputs : Moto.Inputs) (events : List Event) :
    Throughout step (fun screen => screen.view.PausedForUpdate) (boot left right inputs) events ↔
      EachStep step KeepsPause (boot left right inputs) events := by
  have initial : (boot left right inputs).view.PausedForUpdate := by
    have status : (boot left right inputs).view.workStatus = 0 := Moto.State.motoRun_workStatus .reset
    rw [View.PausedForUpdate, status]
    exact iff_of_false (by decide) (by change userMain31Win ∉ [userMain1Win]; decide)
  apply throughout_iff_eachStep (fun screen : Screen => screen.view.Kept) (boot_kept left right inputs) initial
  · exact fun screen event kept _ _ => step_kept kept event
  · intro screen event kept paused
    rw [view_step]
    exact viewAfter_paused_iff kept paused event

/-- The RTC thread comes to an accepted `Moto_Cycle`, the user opens the update
screen, the thread pushes the backwash screen over it; the backwash finishes
and Enter leads home. -/
def updateUnderBackwash : List Event :=
  [.ask .rtc, .cycle .rtc, .menu (.guiWinAdd 14), .menu (.guiWinAdd 31), .push .rtc,
    .moto (.leftLevel true) (by decide), .moto (.rightLevel false) (by decide), .guiWinDisplay,
    .moto .cycleExpires (by decide), .moto (.rightLevel true) (by decide), .moto (.leftLevel false) (by decide),
    .press .enter, .guiWinDisplay]

theorem paused_without_update :
    ¬Throughout step (fun screen => screen.view.PausedForUpdate) (boot false true ⟨0, 30, 100, 0, 0⟩)
      updateUnderBackwash := by
  intro holds
  have paused := holds 13
  revert paused
  decide +kernel

end Screen

end SyrFilter.Display
