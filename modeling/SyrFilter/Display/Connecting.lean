import SyrFilter.Display.Stack

namespace SyrFilter.Display

open SyrFilter.Lib

/-! # Closing the WiFi window

`wifi_connect_close_timer` closes the WiFi window once, and only when it is the
top window at that moment.  A window that lies over it then and is closed later
uncovers a window that no timer and no key will close.
-/

namespace Screen

variable {screen : Screen}

def TimersRun (screen : Screen) : Prop :=
  screen.wifiConnectTimer.active = true ∨ screen.wifiConnectCloseTimer.active = true

instance : Decidable screen.TimersRun := inferInstanceAs (Decidable (_ ∨ _))

/-- On the WiFi window one of its timers is active. -/
def WillClose (screen : Screen) : Prop := screen.guiGetTopWin = some .winWifiConnect → screen.TimersRun

instance : Decidable screen.WillClose := inferInstanceAs (Decidable (_ → _))

/-- The poll closes the window that lies directly over the WiFi window: the
reminder by Up, unless Enter begins a backwash in the same poll, or the backwash
screen by `EXIT`, unless Enter leads home. -/
def Uncovers (screen : Screen) : Event → Prop
  | .guiWinDisplay =>
      screen.display.below = some .winWifiConnect ∧
        (screen.guiGetTopWin = some .userMain25Win ∧ screen.clicked .up = true ∧
            ¬(screen.clicked .enter = true ∧ screen.display.moto.cycleAccepted) ∨
          screen.guiGetTopWin = some .userMain3Win ∧
            State.recognised screen.display.moto.jumpEvent = some .exit ∧ ¬screen.clicked .enter = true)
  | _ => False

/-- The WiFi window is uncovered only while one of its timers is active. -/
def KeepsClosing (screen : Screen) (event : Event) : Prop := screen.Uncovers event → screen.TimersRun

/-! ## What comes to the top -/

theorem push_top (view : View) (window : Window) :
    (view.push window).stack.head? = some window ∨ (view.push window).stack = view.stack := by
  rw [View.push]
  split
  · rw [View.enter_stack]
    exact .inl rfl
  · exact .inr rfl

theorem push_not_connecting {view : View} (other : view.stack.head? ≠ some .winWifiConnect) {window : Window}
    (another : window ≠ .winWifiConnect) : (view.push window).stack.head? ≠ some .winWifiConnect := by
  rcases push_top view window with top | same
  · rw [top]
    exact fun same => another (Option.some.inj same)
  · rw [same]
    exact other

theorem push_ite_not_connecting {view : View} (other : view.stack.head? ≠ some .winWifiConnect) {window : Window}
    (another : window ≠ .winWifiConnect) (opens : Prop) [Decidable opens] :
    (if opens then view.push window else view).stack.head? ≠ some .winWifiConnect := by
  split
  · exact push_not_connecting other another
  · exact other

theorem pop_top (view : View) : view.pop.stack.head? = view.stack[1]?.or view.stack.head? := by
  rw [View.pop]
  cases under : view.stack[1]? with
  | none => rfl
  | some below =>
      dsimp only
      rw [View.enter_stack, Option.some_or, ← under]
      exact List.head?_tail

theorem pop_connecting_iff {view : View} (plain : view.stack.head? ≠ some .winWifiConnect) :
    view.pop.stack.head? = some .winWifiConnect ↔ view.stack[1]? = some .winWifiConnect := by
  rw [pop_top]
  cases view.stack[1]? with
  | none => exact iff_of_false plain (by simp)
  | some below => exact Iff.rfl

/-- No menu window lies on the WiFi window. -/
theorem below_menu {view : View} (kept : view.Kept) {number : Nat}
    (top : view.stack.head? = some (.menuWin number)) : view.stack[1]? ≠ some .winWifiConnect := by
  obtain ⟨under, stack⟩ := List.head?_eq_some_iff.mp top
  have stacked := kept.stacked
  rw [stack] at stacked ⊢
  cases under with
  | nil => simp
  | cons below rest =>
      have lies := stacked.lies
      rintro same
      cases same
      exact lies

theorem backwash_connecting_iff (top : screen.guiGetTopWin = some .userMain3Win) :
    screen.backwashView.stack.head? = some .winWifiConnect ↔ screen.Uncovers .guiWinDisplay := by
  have plain : screen.view.stack.head? ≠ some .winWifiConnect := by
    rw [top_of_stack top]
    decide
  have reminder : screen.guiGetTopWin ≠ some .userMain25Win := by
    rw [top]
    decide
  rw [backwashView]
  by_cases exits : State.recognised screen.display.moto.jumpEvent = some .exit
  · have done : screen.display.motoDoneReceived = true := by rw [State.motoDoneReceived, exits]
    by_cases enter : screen.clicked .enter = true
    · have leaves : screen.Leaves := ⟨enter, done⟩
      rw [if_pos leaves]
      refine iff_of_false (by change some userMain1Win ≠ _; decide) fun uncovers => ?_
      rcases uncovers.2 with ⟨other, -⟩ | ⟨-, -, idle⟩
      · exact reminder other
      · exact idle enter
    · have stays : ¬screen.Leaves := fun leaves => enter leaves.1
      rw [if_neg stays, receivedView, if_pos exits, pop_connecting_iff plain]
      constructor
      · exact fun under => ⟨under, .inr ⟨top, exits, enter⟩⟩
      · exact fun uncovers => uncovers.1
  · refine iff_of_false ?_ fun uncovers => ?_
    · rw [receivedView, if_neg exits]
      split
      · change some userMain1Win ≠ _
        decide
      · exact plain
    · rcases uncovers.2 with ⟨other, -⟩ | ⟨-, seen, -⟩
      · exact reminder other
      · exact exits seen

/-- Up uncovers the WiFi window, and Enter may cover it again. -/
theorem reminder_uncovered_iff (up : screen.clicked .up = true)
    (under : screen.display.below = some .winWifiConnect) :
    screen.reminderView.stack.head? = some .winWifiConnect ↔
      ¬(screen.clicked .enter = true ∧ screen.display.moto.cycleAccepted) := by
  have second : screen.view.stack[1]? = some .winWifiConnect := under
  have closed : screen.closedView = { screen.view with stack := screen.view.stack.tail } := by
    rw [closedView, if_pos up, View.pop, second]
    exact View.enter_of_ne (by decide)
  have head : screen.view.stack.tail.head? = some .winWifiConnect := by
    rw [List.head?_tail]
    exact second
  have accepts : screen.closedView.Accepts screen.display.moto ↔ screen.display.moto.cycleAccepted := by
    rw [closed]
    refine and_iff_right ?_
    change screen.view.stack.tail.head? ≠ _
    rw [head]
    decide
  have room : screen.view.stack.tail.length < guiWinManageNum := by
    have fits : screen.view.stack.length ≤ guiWinManageNum := screen.display.winManage.fits
    have positive : 0 < guiWinManageNum := by decide
    rw [List.length_tail]
    omega
  by_cases begins : screen.clicked .enter = true ∧ screen.display.moto.cycleAccepted
  · have pushed : screen.reminderView.stack.head? = some .userMain3Win := by
      rw [reminderView, if_pos ⟨begins.1, accepts.mpr begins.2⟩, closed, View.push]
      simp only [if_pos room, View.enter_stack, List.head?_cons]
    rw [pushed]
    exact iff_of_false (by decide) (not_not.mpr begins)
  · have stays : screen.reminderView = screen.closedView :=
      if_neg fun both => begins ⟨both.1, accepts.mp both.2⟩
    rw [stays, closed]
    exact iff_of_true head begins

theorem reminder_connecting_iff (top : screen.guiGetTopWin = some .userMain25Win) :
    screen.reminderView.stack.head? = some .winWifiConnect ↔ screen.Uncovers .guiWinDisplay := by
  have plain : screen.view.stack.head? ≠ some .winWifiConnect := by
    rw [top_of_stack top]
    decide
  have backwash : screen.guiGetTopWin ≠ some .userMain3Win := by
    rw [top]
    decide
  by_cases uncovered : screen.clicked .up = true ∧ screen.display.below = some .winWifiConnect
  · obtain ⟨up, under⟩ := uncovered
    rw [reminder_uncovered_iff up under]
    constructor
    · exact fun idle => ⟨under, .inl ⟨top, up, idle⟩⟩
    · rintro ⟨-, ⟨-, -, idle⟩ | ⟨other, -⟩⟩
      · exact idle
      · exact absurd other backwash
  · have other : screen.closedView.stack.head? ≠ some .winWifiConnect := by
      rw [closedView]
      split
      · rename_i up
        rw [Ne, pop_connecting_iff plain]
        exact fun under => uncovered ⟨up, under⟩
      · exact plain
    refine iff_of_false ?_ ?_
    · exact push_ite_not_connecting other (by decide) _
    · rintro ⟨under, ⟨-, up, -⟩ | ⟨shown, -⟩⟩
      · exact uncovered ⟨up, under⟩
      · exact backwash shown

/-- A poll brings the WiFi window to the top only by uncovering it. -/
theorem poll_connecting_iff (kept : screen.view.Kept) (other : screen.guiGetTopWin ≠ some .winWifiConnect) :
    screen.pollView.stack.head? = some .winWifiConnect ↔ screen.Uncovers .guiWinDisplay := by
  have still : screen.guiGetTopWin ≠ some .userMain25Win ∧ screen.guiGetTopWin ≠ some .userMain3Win →
      ¬screen.Uncovers .guiWinDisplay := by
    rintro ⟨reminder, backwash⟩ ⟨-, ⟨shown, -⟩ | ⟨shown, -⟩⟩
    · exact reminder shown
    · exact backwash shown
  rw [pollView]
  cases top : screen.guiGetTopWin with
  | none => exact iff_of_false other (still (by simp [top]))
  | some window =>
      cases window with
      | userMain3Win => exact backwash_connecting_iff top
      | userMain25Win => exact reminder_connecting_iff top
      | winWifiConnect => exact absurd top other
      | menuWin number =>
          refine iff_of_false ?_ (still (by simp [top]))
          dsimp only
          split
          · rename_i update
            subst update
            rw [updateView, (View.catchUp_same _ _).1, leftView]
            split
            · have plain : screen.view.resume.stack.head? ≠ some .winWifiConnect := other
              have second := below_menu kept (top_of_stack top)
              rw [pop_connecting_iff plain]
              exact second
            · exact other
          · exact other

/-! ## The timers -/

/-- The two timers of the WiFi window are as they were. -/
def SameTimers (before after : Screen) : Prop :=
  after.wifiConnectTimer = before.wifiConnectTimer ∧ after.wifiConnectCloseTimer = before.wifiConnectCloseTimer

theorem SameTimers.trans {before middle after : Screen} (first : SameTimers before middle)
    (second : SameTimers middle after) : SameTimers before after :=
  ⟨second.1.trans first.1, second.2.trans first.2⟩

theorem SameTimers.timersRun {before after : Screen} (same : SameTimers before after) :
    after.TimersRun ↔ before.TimersRun := by
  rw [TimersRun, TimersRun, same.1, same.2]

theorem windowFunction_timers (screen : Screen) (window : Window) : SameTimers screen (screen.windowFunction window) := by
  rw [windowFunction]
  split
  · exact ⟨rfl, rfl⟩
  · exact ⟨rfl, rfl⟩

theorem guiWinAdd_timers (screen : Screen) (window : Window) : SameTimers screen (screen.guiWinAdd window) := by
  rw [guiWinAdd]
  split
  · exact windowFunction_timers { screen with display := _ } window
  · exact ⟨rfl, rfl⟩

theorem guiWinDeleteTop_timers (screen : Screen) : SameTimers screen screen.guiWinDeleteTop := by
  rw [guiWinDeleteTop]
  split
  · exact ⟨rfl, rfl⟩
  · exact windowFunction_timers { screen with display := _ } _

theorem userMain3InputFun_timers : SameTimers screen screen.userMain3InputFun := by
  have received : SameTimers screen screen.receiveJumpEvent := by
    rw [receiveJumpEvent]
    split
    · exact guiWinDeleteTop_timers (screen.on _)
    · exact ⟨rfl, rfl⟩
  have entered : ∀ screen : Screen, SameTimers screen screen.userMain3Enter := by
    intro screen
    rw [userMain3Enter]
    split
    · exact guiWinAdd_timers (Screen.on _ State.guiWinInit) userMain1Win
    · exact ⟨rfl, rfl⟩
  exact received.trans (entered ((screen.receiveJumpEvent.tryTake .up).tryTake .down))

theorem userMain25InputFun_timers : SameTimers screen screen.userMain25InputFun := by
  have closed : SameTimers screen screen.userMain25Up := by
    rw [userMain25Up]
    split
    · exact guiWinDeleteTop_timers ((screen.tryTake .up).call _)
    · exact ⟨rfl, rfl⟩
  have entered : ∀ screen : Screen, SameTimers screen screen.userMain25Enter := by
    intro screen
    rw [userMain25Enter]
    split
    · exact ⟨rfl, rfl⟩
    · exact ⟨rfl, rfl⟩
  exact closed.trans (entered (screen.userMain25Up.tryTake .down))

theorem showStatus_timers (screen : Screen) : SameTimers screen screen.showProgress.showStatus := by
  have progress : SameTimers screen screen.showProgress := by
    rw [showProgress]
    split
    · split
      · exact ⟨rfl, rfl⟩
      · exact ⟨rfl, rfl⟩
    split
    · split
      · exact ⟨rfl, rfl⟩
      · exact ⟨rfl, rfl⟩
    · exact ⟨rfl, rfl⟩
  have status : ∀ screen : Screen, SameTimers screen screen.showStatus := by
    intro screen
    rw [showStatus]
    split
    · dsimp only
      split
      · split
        · exact ⟨rfl, rfl⟩
        · exact ⟨rfl, rfl⟩
      split
      · exact ⟨rfl, rfl⟩
      split
      · exact ⟨rfl, rfl⟩
      split
      · exact ⟨rfl, rfl⟩
      split
      · exact ⟨rfl, rfl⟩
      · exact ⟨rfl, rfl⟩
    · exact ⟨rfl, rfl⟩
  exact progress.trans (status screen.showProgress)

theorem userMain31InputFun_timers : SameTimers screen screen.userMain31InputFun := by
  have entered : ∀ screen : Screen, SameTimers screen screen.userMain31Enter := by
    intro screen
    rw [userMain31Enter]
    split
    · split
      · exact guiWinDeleteTop_timers (screen.tryTake .enter).motoResume
      · exact ⟨rfl, rfl⟩
    · exact ⟨rfl, rfl⟩
  exact (entered ((screen.tryTake .up).tryTake .down)).trans
    (showStatus_timers ((((screen.tryTake .up).tryTake .down).userMain31Enter).tryTake .long))

/-- The events of the WiFi window itself. -/
def Event.Connects : Event → Prop
  | .wifiConnectStart => True
  | .wifiStatusChange _ => True
  | .wifiConnectExpires => True
  | .wifiCloseExpires => True
  | _ => False

theorem ask_timers (thread : Thread) : SameTimers screen (screen.ask thread) := by
  have approached : SameTimers screen (screen.approach thread) := by
    cases thread with
    | rtc => exact ⟨rfl, rfl⟩
    | key => exact ⟨rfl, rfl⟩
    | uart => exact ⟨rfl, rfl⟩
  rw [ask]
  split
  · split
    · exact approached
    · exact approached
  · exact ⟨rfl, rfl⟩

theorem menuCall_timers (made : MenuCall) : SameTimers screen (screen.menuCall made) := by
  rw [menuCall]
  split
  · split
    · exact ⟨rfl, rfl⟩
    · cases made with
      | guiWinAdd opened =>
          dsimp only
          split
          · exact ⟨rfl, rfl⟩
          · exact guiWinAdd_timers screen _
      | guiWinReload => exact windowFunction_timers screen _
      | guiWinDeleteTop => exact guiWinDeleteTop_timers screen
      | lcdtoBackwash => exact ⟨rfl, rfl⟩
  · exact ⟨rfl, rfl⟩

theorem step_timers {event : Event} (other : ¬event.Connects) : SameTimers screen (step screen event) := by
  cases event with
  | wifiConnectStart => exact absurd trivial other
  | wifiStatusChange state => exact absurd trivial other
  | wifiConnectExpires => exact absurd trivial other
  | wifiCloseExpires => exact absurd trivial other
  | ask thread => exact ask_timers thread
  | cycle thread =>
      rw [step, cycle]
      split
      · exact ⟨rfl, rfl⟩
      · exact ⟨rfl, rfl⟩
  | push thread =>
      rw [step, push]
      split
      · exact guiWinAdd_timers screen .userMain3Win
      · exact ⟨rfl, rfl⟩
  | refreshDisplay =>
      rw [step, refreshDisplay]
      split
      · exact ⟨rfl, rfl⟩
      · exact windowFunction_timers screen _
  | lcdRefresh =>
      rw [step, lcdRefreshFromSleep]
      split
      · exact guiWinAdd_timers (screen.on State.guiWinInit) userMain1Win
      · exact ⟨rfl, rfl⟩
  | guiWinDisplay =>
      rw [step, guiWinDisplay]
      split
      · exact ⟨rfl, rfl⟩
      · exact userMain3InputFun_timers
      · exact userMain25InputFun_timers
      · exact ⟨rfl, rfl⟩
      · split
        · exact userMain31InputFun_timers
        · exact ⟨rfl, rfl⟩
  | menu made => exact menuCall_timers made
  | otaTimeout =>
      rw [step]
      split
      · exact ⟨rfl, rfl⟩
      · exact ⟨rfl, rfl⟩
  | _ => exact ⟨rfl, rfl⟩

/-! ## Runs -/

theorem menuView_not_connecting (kept : screen.view.Kept) (other : screen.guiGetTopWin ≠ some .winWifiConnect)
    (made : MenuCall) : (screen.menuView made).stack.head? ≠ some .winWifiConnect := by
  have shown : screen.view.stack.head? ≠ some .winWifiConnect := other
  rw [menuView]
  split
  · rename_i number top
    split
    · exact other
    · cases made with
      | guiWinAdd opened =>
          dsimp only
          split
          · exact other
          · exact push_not_connecting shown (by simp)
      | guiWinReload => exact other
      | guiWinDeleteTop =>
          dsimp only
          rw [Ne, pop_connecting_iff shown]
          exact below_menu kept (top_of_stack top)
      | lcdtoBackwash =>
          exact push_ite_not_connecting shown (by decide) _
  · exact other

theorem viewAfter_connecting_iff (kept : screen.view.Kept) (other : screen.guiGetTopWin ≠ some .winWifiConnect)
    {event : Event} (plain : ¬event.Connects) :
    (screen.viewAfter event).stack.head? = some .winWifiConnect ↔ screen.Uncovers event := by
  have top : screen.view.stack.head? ≠ some .winWifiConnect := other
  cases event with
  | wifiConnectStart => exact absurd trivial plain
  | wifiStatusChange state => exact absurd trivial plain
  | wifiConnectExpires => exact absurd trivial plain
  | wifiCloseExpires => exact absurd trivial plain
  | guiWinDisplay => exact poll_connecting_iff kept other
  | menu made => exact iff_of_false (menuView_not_connecting kept other made) id
  | push thread => exact iff_of_false (push_ite_not_connecting top (by decide) _) id
  | rtcReminder => exact iff_of_false (push_ite_not_connecting top (by decide) _) id
  | refreshDisplay =>
      refine iff_of_false ?_ id
      rw [viewAfter, View.redraw]
      split
      · exact top
      · rw [View.enter_stack]
        exact top
  | lcdRefresh =>
      refine iff_of_false ?_ id
      rw [viewAfter]
      split
      · change some userMain1Win ≠ _
        decide
      · exact top
  | otaTimeout =>
      refine iff_of_false ?_ id
      rw [viewAfter]
      split
      · exact top
      · exact top
  | _ => exact iff_of_false top id

theorem willClose_of_same {before after : Screen} (willClose : before.WillClose) (timers : SameTimers before after)
    (top : after.guiGetTopWin = before.guiGetTopWin) : after.WillClose := by
  intro shown
  rw [top] at shown
  exact timers.timersRun.mpr (willClose shown)

/-- The close timer takes the WiFi window away when it is on top; no second one lies below. -/
theorem wifiConnectWinDel_top (screen : Screen) (kept : screen.view.Kept) :
    screen.wifiConnectWinDel.guiGetTopWin ≠ some .winWifiConnect := by
  change screen.wifiConnectWinDel.view.stack.head? ≠ _
  rw [view_wifiConnectWinDel]
  split
  · rename_i top
    obtain ⟨under, stack⟩ := List.head?_eq_some_iff.mp (top_of_stack top)
    have stacked := kept.stacked
    rw [stack] at stacked
    obtain ⟨below, rest, rfl⟩ := stacked.below_of_ne (by decide)
    have lies := stacked.lies
    rw [View.pop_of_cons stack, View.enter_stack]
    exact fun same => lies (Option.some.inj same)
  · rename_i other
    exact other

theorem step_willClose_iff (kept : screen.view.Kept) (willClose : screen.WillClose) (event : Event) :
    (step screen event).WillClose ↔ screen.KeepsClosing event := by
  by_cases plain : event.Connects
  · refine iff_of_true ?_ ?_
    · cases event with
      | wifiConnectStart => exact fun _ => .inl rfl
      | wifiStatusChange state =>
          rw [step, wifiStatusChange]
          dsimp only
          split
          · exact fun _ => .inr rfl
          split
          · exact willClose_of_same willClose ⟨rfl, rfl⟩ rfl
          · exact willClose_of_same willClose ⟨rfl, rfl⟩ rfl
      | wifiConnectExpires =>
          rw [step]
          split
          · exact fun _ => .inr rfl
          · exact willClose
      | wifiCloseExpires =>
          rw [step]
          split
          · intro shown
            exact absurd shown (wifiConnectWinDel_top
              { screen with wifiConnectCloseTimer := screen.wifiConnectCloseTimer.stop } kept)
          · exact willClose
      | _ => exact plain.elim
    · cases event with
      | guiWinDisplay => exact plain.elim
      | _ => exact False.elim
  · have same : SameTimers screen (step screen event) := step_timers plain
    change ((step screen event).view.stack.head? = some .winWifiConnect → _) ↔ (_ → _)
    rw [view_step, same.timersRun]
    by_cases running : screen.TimersRun
    · exact iff_of_true (fun _ => running) fun _ => running
    · have other : screen.guiGetTopWin ≠ some .winWifiConnect := fun shown => running (willClose shown)
      rw [viewAfter_connecting_iff kept other plain]

/-- In every run from the start, the WiFi window on top has a timer that will
close it, in every state, exactly when it is uncovered only while one of its
timers is active. -/
theorem connecting_will_close_iff (left right : Bool) (inputs : Moto.Inputs) (events : List Event) :
    Throughout step WillClose (boot left right inputs) events ↔
      EachStep step KeepsClosing (boot left right inputs) events := by
  have initial : (boot left right inputs).WillClose := fun shown => nomatch shown
  apply throughout_iff_eachStep (fun screen : Screen => screen.view.Kept) (boot_kept left right inputs) initial
  · exact fun screen event kept _ _ => step_kept kept event
  · exact fun screen event kept willClose => step_willClose_iff kept willClose event

/-- The reminder covers the WiFi window until both timers have run out. -/
def reminderOverConnecting : List Event :=
  [.wifiConnectStart, .rtcReminder, .wifiConnectExpires, .wifiCloseExpires, .press .up, .guiWinDisplay]

theorem connecting_left_open :
    ¬Throughout step WillClose (boot false true ⟨0, 30, 100, 0, 0⟩) reminderOverConnecting := by
  intro holds
  have willClose := holds 6
  revert willClose
  decide +kernel

end Screen

end SyrFilter.Display
