import SyrFilter.Display.Pause

namespace SyrFilter.Display

open SyrFilter.Lib

/-! # The update screen during a download

While a download is shown, Enter does not leave the update screen.  The guard
reads `now_status`, which drawing the screen clears together with `ota_status`;
so every redraw, asked for from the network or made when a window over the
screen closes, starts the search again.
-/

/-- `Murata_Downloading`, `Murata_Download_Done`, `Murata_No_Upadate` or `ST_Downloading`. -/
def Downloads (status : UInt16) : Prop := status = 2 ∨ status = 4 ∨ status = 16 ∨ status = 32

theorem Downloads.guarded {status : UInt16} (downloads : Downloads status) :
    status &&& Screen.downloading ≠ 0 ∧ status ≠ 1 := by
  rcases downloads with rfl | rfl | rfl | rfl
  · decide
  · decide
  · decide
  · decide

namespace View

variable {view before after : View} {window : Window} {status : UInt16}

/-- The update screen is open and the LCD thread has shown the status. -/
structure Shows (view : View) (status : UInt16) : Prop where
  updating : view.Updating
  ota : view.otaStatus = status
  now : view.nowStatus = status

/-- The update screen is open, the motor paused and the status as it was. -/
structure Undisturbed (view : View) (status : UInt16) : Prop where
  updating : view.Updating
  paused : view.workStatus = 1
  ota : view.otaStatus = status

instance : Decidable (view.Undisturbed status) :=
  decidable_of_iff (view.Updating ∧ view.workStatus = 1 ∧ view.otaStatus = status)
    ⟨fun all => ⟨all.1, all.2.1, all.2.2⟩, fun all => ⟨all.updating, all.paused, all.ota⟩⟩

structure SameUpdate (before after : View) : Prop extends SamePause before after where
  ota : after.otaStatus = before.otaStatus
  now : after.nowStatus = before.nowStatus

theorem SameUpdate.refl : SameUpdate view view := ⟨.refl, rfl, rfl⟩

theorem SameUpdate.undisturbed (same : SameUpdate before after) (undisturbed : before.Undisturbed status) :
    after.Undisturbed status :=
  ⟨same.updating.mpr undisturbed.updating, same.workStatus.trans undisturbed.paused,
    same.ota.trans undisturbed.ota⟩

theorem push_sameUpdate (other : window ≠ userMain31Win) : SameUpdate view (view.push window) := by
  have statuses : (view.push window).otaStatus = view.otaStatus ∧
      (view.push window).nowStatus = view.nowStatus := by
    rw [push]
    split
    · rw [enter_of_ne other]
      exact ⟨rfl, rfl⟩
    · exact ⟨rfl, rfl⟩
  exact ⟨push_same other, statuses.1, statuses.2⟩

theorem push_ite_sameUpdate (other : window ≠ userMain31Win) (opens : Prop) [Decidable opens] :
    SameUpdate view (if opens then view.push window else view) := by
  split
  · exact push_sameUpdate other
  · exact .refl

theorem enter_disturbs (another : status ≠ 1) : ¬(view.enter userMain31Win).Undisturbed status := fun undisturbed =>
  another undisturbed.ota.symm

theorem home_disturbs : ¬view.home.Undisturbed status := by
  intro undisturbed
  have main : userMain31Win ∈ [userMain1Win] := undisturbed.updating
  exact absurd main (by decide)

/-- Closing a window disturbs the download when the update screen lies directly below. -/
theorem pop_update (kept : view.Kept) (other : view.stack.head? ≠ some userMain31Win) (another : status ≠ 1) :
    (view.stack[1]? ≠ some userMain31Win ∧ SameUpdate view view.pop) ∨
      view.stack[1]? = some userMain31Win ∧ ¬view.pop.Undisturbed status := by
  have pause := pop_same kept other
  cases under : view.stack[1]? with
  | none =>
      have same : view.pop = view := by rw [pop, under]
      rw [same]
      exact .inl ⟨by simp, .refl⟩
  | some below =>
      have popped : view.pop = { view with stack := view.stack.tail }.enter below := by rw [pop, under]
      by_cases update : below = userMain31Win
      · subst update
        rw [popped]
        exact .inr ⟨rfl, enter_disturbs another⟩
      · rw [popped, enter_of_ne update] at pause ⊢
        exact .inl ⟨fun same => update (Option.some.inj same), pause, rfl, rfl⟩

end View

namespace Screen

variable {screen : Screen} {status : UInt16}

/-- `ota_status` is set from outside the display. -/
def Event.Reports : Event → Prop
  | .updateControl _ => True
  | .otaTimeout => True
  | _ => False

/-- The step does not draw the update screen again and does not clear the stack. -/
def KeepsDownload (screen : Screen) : Event → Prop
  | .refreshDisplay => screen.guiGetTopWin ≠ some userMain31Win
  | .lcdRefresh => screen.display.screenReload = false
  | .guiWinDisplay =>
      (screen.guiGetTopWin = some .userMain3Win → ¬screen.Leaves ∧
        (State.recognised screen.display.moto.jumpEvent = some .exit → screen.display.below ≠ some userMain31Win)) ∧
      (screen.guiGetTopWin = some .userMain25Win → screen.clicked .up = true →
        screen.display.below ≠ some userMain31Win)
  | .wifiCloseExpires =>
      screen.wifiConnectCloseTimer.active = true → screen.guiGetTopWin = some .winWifiConnect →
        screen.display.below ≠ some userMain31Win
  | _ => True

/-- One step: the download goes on as the condition says. -/
def Settles (screen : Screen) (status : UInt16) (event : Event) : Prop :=
  screen.KeepsDownload event ∧ screen.view.SameUpdate (screen.viewAfter event) ∨
    ¬screen.KeepsDownload event ∧ ¬(screen.viewAfter event).Undisturbed status

theorem backwash_settles (kept : screen.view.Kept) (another : status ≠ 1)
    (top : screen.guiGetTopWin = some .userMain3Win) : screen.Settles status .guiWinDisplay := by
  have after : screen.viewAfter .guiWinDisplay = screen.backwashView := by
    rw [viewAfter, pollView, top]
  have plain : screen.view.stack.head? ≠ some userMain31Win := by
    rw [top_of_stack top]
    decide
  have reminder : screen.guiGetTopWin ≠ some .userMain25Win := by
    rw [top]
    decide
  rw [Settles, after, backwashView]
  by_cases leaves : screen.Leaves
  · rw [if_pos leaves]
    exact .inr ⟨fun keeps => (keeps.1 top).1 leaves, View.home_disturbs⟩
  · rw [if_neg leaves, receivedView]
    by_cases exits : State.recognised screen.display.moto.jumpEvent = some .exit
    · rw [if_pos exits]
      rcases View.pop_update kept plain another with ⟨clear, same⟩ | ⟨under, disturbed⟩
      · exact .inl ⟨⟨fun _ => ⟨leaves, fun _ => clear⟩, fun other => absurd other reminder⟩, same⟩
      · exact .inr ⟨fun keeps => (keeps.1 top).2 exits under, disturbed⟩
    · rw [if_neg exits]
      exact .inl ⟨⟨fun _ => ⟨leaves, fun exit => absurd exit exits⟩, fun other => absurd other reminder⟩, .refl⟩

/-- Enter in the reminder begins nothing: the motor is paused. -/
theorem reminder_settles (kept : screen.view.Kept) (updating : screen.view.Updating) (another : status ≠ 1)
    (top : screen.guiGetTopWin = some .userMain25Win) : screen.Settles status .guiWinDisplay := by
  have after : screen.viewAfter .guiWinDisplay = screen.reminderView := by
    rw [viewAfter, pollView, top]
  have plain : screen.view.stack.head? ≠ some userMain31Win := by
    rw [top_of_stack top]
    decide
  have backwash : screen.guiGetTopWin ≠ some .userMain3Win := by
    rw [top]
    decide
  have refused : screen.reminderView = screen.closedView := by
    have paused : screen.closedView.workStatus = 1 := by
      rw [closedView]
      split
      · exact (View.pop_same kept plain).workStatus.trans (kept.paused updating)
      · exact kept.paused updating
    refine if_neg fun both => ?_
    have free : screen.closedView.workStatus = 0 := both.2.2.2.1
    rw [paused] at free
    exact absurd free (by decide)
  rw [Settles, after, refused, closedView]
  by_cases up : screen.clicked .up = true
  · rw [if_pos up]
    rcases View.pop_update kept plain another with ⟨clear, same⟩ | ⟨under, disturbed⟩
    · exact .inl ⟨⟨fun other => absurd other backwash, fun _ _ => clear⟩, same⟩
    · exact .inr ⟨fun keeps => keeps.2 top up under, disturbed⟩
  · rw [if_neg up]
    exact .inl ⟨⟨fun other => absurd other backwash, fun _ click => absurd click up⟩, .refl⟩

/-- The poll of the update screen itself: Enter is refused and there is nothing to show. -/
theorem update_same (shows : screen.view.Shows status) (downloads : Downloads status) :
    screen.updateView = screen.view := by
  have now : screen.nowStatus = status := shows.now
  have left : screen.leftView = screen.view := by
    refine if_neg fun both => downloads.guarded.1 ?_
    rw [← now]
    exact both.2
  rw [updateView, left, View.catchUp, shows.now, shows.ota]
  exact if_neg (not_not.mpr rfl)

theorem poll_settles (kept : screen.view.Kept) (shows : screen.view.Shows status) (downloads : Downloads status) :
    screen.Settles status .guiWinDisplay := by
  have another := downloads.guarded.2
  have quiet : screen.guiGetTopWin ≠ some .userMain25Win ∧ screen.guiGetTopWin ≠ some .userMain3Win →
      screen.KeepsDownload .guiWinDisplay := by
    rintro ⟨reminder, backwash⟩
    exact ⟨fun top => absurd top backwash, fun top => absurd top reminder⟩
  cases top : screen.guiGetTopWin with
  | none =>
      refine .inl ⟨quiet (by simp [top]), ?_⟩
      rw [viewAfter, pollView, top]
      exact .refl
  | some window =>
      cases window with
      | userMain3Win => exact backwash_settles kept another top
      | userMain25Win => exact reminder_settles kept shows.updating another top
      | winWifiConnect =>
          refine .inl ⟨quiet (by simp [top]), ?_⟩
          rw [viewAfter, pollView, top]
          exact .refl
      | menuWin number =>
          refine .inl ⟨quiet (by simp [top]), ?_⟩
          rw [viewAfter, pollView, top]
          dsimp only
          split
          · rw [update_same shows downloads]
            exact .refl
          · exact .refl

/-- No other menu window is at work while the update screen is open. -/
theorem menuView_same (kept : screen.view.Kept) (updating : screen.view.Updating) (made : MenuCall) :
    screen.menuView made = screen.view := by
  rw [menuView]
  split
  · rename_i number top
    split
    · rfl
    · rename_i other
      obtain ⟨rest, stack⟩ := List.head?_eq_some_iff.mp (top_of_stack top)
      have stacked := kept.stacked
      rw [View.Updating, stack] at updating
      rw [stack] at stacked
      exact absurd updating (stacked.not_mem_of_menu other)
  · rfl

theorem step_settles (kept : screen.view.Kept) (shows : screen.view.Shows status) (downloads : Downloads status)
    (event : Event) (silent : ¬event.Reports) : screen.Settles status event := by
  have another := downloads.guarded.2
  cases event with
  | push thread => exact .inl ⟨trivial, View.push_ite_sameUpdate (by decide) _⟩
  | rtcReminder => exact .inl ⟨trivial, View.push_ite_sameUpdate (by decide) _⟩
  | wifiConnectStart => exact .inl ⟨trivial, View.push_ite_sameUpdate (by decide) _⟩
  | refreshDisplay =>
      rw [Settles, viewAfter, View.redraw]
      change screen.guiGetTopWin ≠ some userMain31Win ∧ _ ∨ ¬screen.guiGetTopWin ≠ some userMain31Win ∧ _
      cases top : screen.view.stack.head? with
      | none =>
          have closed : screen.view.stack.head? ≠ some userMain31Win := by simp [top]
          exact .inl ⟨closed, .refl⟩
      | some window =>
          by_cases update : window = userMain31Win
          · subst update
            exact .inr ⟨not_not.mpr top, View.enter_disturbs another⟩
          · dsimp only
            rw [View.enter_of_ne update]
            exact .inl ⟨fun same => update (Option.some.inj (top.symm.trans same)), .refl⟩
  | lcdRefresh =>
      rw [Settles, viewAfter, KeepsDownload]
      cases screen.display.screenReload with
      | false => exact .inl ⟨rfl, .refl⟩
      | true => exact .inr ⟨by simp, View.home_disturbs⟩
  | guiWinDisplay => exact poll_settles kept shows downloads
  | menu made =>
      refine .inl ⟨trivial, ?_⟩
      rw [viewAfter, menuView_same kept shows.updating made]
      exact .refl
  | wifiCloseExpires =>
      rw [Settles, viewAfter]
      by_cases active : screen.wifiConnectCloseTimer.active = true
      · rw [if_pos active]
        by_cases top : screen.guiGetTopWin = some .winWifiConnect
        · have plain : screen.view.stack.head? ≠ some userMain31Win := by
            rw [top_of_stack top]
            decide
          rw [if_pos top]
          rcases View.pop_update kept plain another with ⟨clear, same⟩ | ⟨under, disturbed⟩
          · exact .inl ⟨fun _ _ => clear, same⟩
          · exact .inr ⟨fun keeps => keeps active top under, disturbed⟩
        · rw [if_neg top]
          exact .inl ⟨fun _ same => absurd same top, .refl⟩
      · rw [if_neg active]
        exact .inl ⟨fun same => absurd same active, .refl⟩
  | updateControl value => exact absurd trivial silent
  | otaTimeout => exact absurd trivial silent
  | _ => exact .inl ⟨trivial, .refl⟩

/-- From every reachable state that shows a download, and until the WiFi module
or the time-out sets the status, the update screen stays open with the motor
paused and the status as it was exactly when no step draws it again or clears
the stack. -/
theorem download_undisturbed_iff (left right : Bool) (inputs : Moto.Inputs) (history events : List Event)
    (status : UInt16) (downloads : Downloads status)
    (shows : (run step (boot left right inputs) history).view.Shows status)
    (silent : ∀ event ∈ events, ¬event.Reports) :
    Throughout step (fun screen => screen.view.Undisturbed status) (run step (boot left right inputs) history)
        events ↔
      EachStep step KeepsDownload (run step (boot left right inputs) history) events := by
  have kept : (run step (boot left right inputs) history).view.Kept := by
    refine (throughout_of_step (boot_kept left right inputs) ?_ : Throughout step
      (fun screen : Screen => screen.view.Kept) (boot left right inputs) history).last
    exact fun screen event kept => step_kept kept event
  have fine : EachStep step (fun _ event => ¬event.Reports) (run step (boot left right inputs) history) events :=
    fun count event found => silent event (List.mem_of_getElem? found)
  have undisturbed : (run step (boot left right inputs) history).view.Undisturbed status :=
    ⟨shows.updating, kept.paused shows.updating, shows.ota⟩
  refine (and_iff_left fine).symm.trans ?_
  refine Iff.trans ?_ (eachStep_and_iff.trans (and_iff_left fine))
  apply throughout_and_eachStep_iff (fun screen : Screen => screen.view.Kept ∧ screen.view.nowStatus = status)
    ⟨kept, shows.now⟩ undisturbed
  · rintro screen event ⟨kept, now⟩ undisturbed ⟨keeps, quiet⟩
    refine ⟨step_kept kept event, ?_⟩
    rw [view_step]
    rcases step_settles kept ⟨undisturbed.updating, undisturbed.ota, now⟩ downloads event quiet with
      ⟨-, same⟩ | ⟨breaks, -⟩
    · exact same.now.trans now
    · exact absurd keeps breaks
  · rintro screen event ⟨kept, now⟩ undisturbed
    refine and_congr_left fun quiet => ?_
    rw [view_step]
    rcases step_settles kept ⟨undisturbed.updating, undisturbed.ota, now⟩ downloads event quiet with
      ⟨keeps, same⟩ | ⟨breaks, disturbed⟩
    · exact iff_of_true (same.undisturbed undisturbed) keeps
    · exact iff_of_false disturbed breaks

/-- The user opens the update screen online, the search is shown, the WiFi
module reports a download and that is shown. -/
def downloadShown : List Event :=
  [.wifiStatusChange 4, .menu (.guiWinAdd 14), .menu (.guiWinAdd 31), .guiWinDisplay, .updateControl 2,
    .guiWinDisplay]

/-- Enter is refused, and a reminder over the screen does no harm while it is open. -/
theorem download_undisturbed_by_enter :
    (run step (boot false true ⟨0, 30, 100, 0, 0⟩) downloadShown).view.Shows 2 ∧
      Throughout step (fun screen => screen.view.Undisturbed 2)
        (run step (boot false true ⟨0, 30, 100, 0, 0⟩) downloadShown)
        [.press .enter, .guiWinDisplay, .rtcReminder, .press .enter, .guiWinDisplay] := by
  have shows : (run step (boot false true ⟨0, 30, 100, 0, 0⟩) downloadShown).view.Shows 2 :=
    ⟨by decide +kernel, by decide +kernel, by decide +kernel⟩
  have silent : ∀ event ∈ [Event.press .enter, .guiWinDisplay, .rtcReminder, .press .enter, .guiWinDisplay],
      ¬event.Reports := by
    intro event member
    simp only [List.mem_cons, List.not_mem_nil, or_false] at member
    rcases member with rfl | rfl | rfl | rfl | rfl <;> exact False.elim
  refine ⟨shows, (download_undisturbed_iff false true ⟨0, 30, 100, 0, 0⟩ downloadShown _ 2 (.inl rfl) shows
    silent).mpr ?_⟩
  simp only [eachStep_cons, eachStep_nil, KeepsDownload]
  decide +kernel

/-- A remote setting redraws the screen and the search starts again. -/
theorem download_restarted :
    (run step (boot false true ⟨0, 30, 100, 0, 0⟩) downloadShown).view.Shows 2 ∧
      ¬Throughout step (fun screen => screen.view.Undisturbed 2)
        (run step (boot false true ⟨0, 30, 100, 0, 0⟩) downloadShown) [.refreshDisplay] := by
  refine ⟨⟨by decide +kernel, by decide +kernel, by decide +kernel⟩, fun holds => ?_⟩
  have undisturbed := holds 1
  revert undisturbed
  decide +kernel

end Screen

end SyrFilter.Display
