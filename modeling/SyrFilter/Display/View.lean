import SyrFilter.Display.Screen

namespace SyrFilter.Display

open SyrFilter.Lib

/-! # The view of the update screen

What the window manager, the pause of the motor and the two statuses of the
update come to: a stack of windows with three numbers, on which every step of
the screen is a push, a pop, a redraw of the top or a fresh start.
-/

/-- The window stack, `MotoWorkStatus`, `now_status` and `ota_status`. -/
structure View where
  stack : List Window
  workStatus : Nat
  nowStatus : UInt16
  otaStatus : UInt16
deriving DecidableEq, Repr

namespace View

variable (view : View)

/-- The top window has been drawn. -/
def enter (window : Window) : View :=
  if window = userMain31Win then { view with workStatus := 1, nowStatus := 0, otaStatus := 1 } else view

def push (window : Window) : View :=
  if view.stack.length < guiWinManageNum then { view with stack := window :: view.stack }.enter window else view

def pop : View :=
  match view.stack[1]? with
  | none => view
  | some window => { view with stack := view.stack.tail }.enter window

def home : View := { view with stack := [userMain1Win] }

def redraw : View :=
  match view.stack.head? with
  | none => view
  | some window => view.enter window

def resume : View := { view with workStatus := 0 }

/-- `now_status` catches up with `ota_status`; a search without a cloud fails at once. -/
def catchUp (wifiStatus : UInt8) : View :=
  if view.nowStatus ≠ view.otaStatus then
    if view.otaStatus = 1 ∧ wifiStatus ≠ 4 then { view with nowStatus := 1, otaStatus := 1024 }
    else { view with nowStatus := view.otaStatus }
  else view

/-- `LcdtoBackwash` comes to an accepted `Moto_Cycle`. -/
def Accepts (moto : Moto.State) : Prop :=
  view.stack.head? ≠ some .userMain3Win ∧ moto.inputs.lowVoltageFlag = 0 ∧ view.workStatus = 0 ∧
    (moto.workFlag = .stop ∨ moto.workFlag = .reset)

instance (moto : Moto.State) : Decidable (view.Accepts moto) :=
  inferInstanceAs (Decidable (_ ∧ _ ∧ _ ∧ (_ ∨ _)))

end View

/-- `moto_done` once the pending event has been received. -/
def State.motoDoneReceived (state : State) : Bool :=
  match State.recognised state.moto.jumpEvent with
  | none => state.motoDone
  | some .back => state.motoDone
  | some _ => true

namespace Screen

variable (screen : Screen)

def view : View where
  stack := screen.display.winManage.winStack
  workStatus := screen.display.moto.workStatus
  nowStatus := screen.nowStatus
  otaStatus := screen.otaStatus

/-- The backwash screen is left for the main window. -/
def Leaves : Prop := screen.clicked .enter = true ∧ screen.display.motoDoneReceived = true

instance : Decidable screen.Leaves := inferInstanceAs (Decidable (_ ∧ _))

/-- The backwash screen has received its event. -/
def receivedView : View :=
  if State.recognised screen.display.moto.jumpEvent = some .exit then screen.view.pop else screen.view

def backwashView : View := if screen.Leaves then screen.receivedView.home else screen.receivedView

/-- The reminder has taken Up. -/
def closedView : View := if screen.clicked .up then screen.view.pop else screen.view

def reminderView : View :=
  if screen.clicked .enter = true ∧ screen.closedView.Accepts screen.display.moto then
    screen.closedView.push .userMain3Win
  else screen.closedView

/-- The update screen has taken Enter. -/
def leftView : View :=
  if screen.clicked .enter = true ∧ screen.nowStatus &&& downloading = 0 then screen.view.resume.pop
  else screen.view

def updateView : View := screen.leftView.catchUp screen.wifiStatus

def pollView : View :=
  match screen.guiGetTopWin with
  | some .userMain3Win => screen.backwashView
  | some .userMain25Win => screen.reminderView
  | some (.menuWin number) => if number = 31 then screen.updateView else screen.view
  | _ => screen.view

def menuView (made : MenuCall) : View :=
  match screen.guiGetTopWin with
  | some (.menuWin number) =>
      if number = 31 then screen.view
      else
        match made with
        | .guiWinAdd other => if other = 31 ∧ number ≠ 14 then screen.view else screen.view.push (.menuWin other)
        | .guiWinReload => screen.view
        | .guiWinDeleteTop => screen.view.pop
        | .lcdtoBackwash =>
            if screen.view.Accepts screen.display.moto then screen.view.push .userMain3Win else screen.view
  | _ => screen.view

/-- The view after a step. -/
def viewAfter : Event → View
  | .push thread => if screen.phases thread = .accepted then screen.view.push .userMain3Win else screen.view
  | .rtcReminder =>
      if screen.guiGetTopWin ≠ some .userMain25Win then screen.view.push .userMain25Win else screen.view
  | .refreshDisplay => screen.view.redraw
  | .lcdRefresh => if screen.display.screenReload then screen.view.home else screen.view
  | .guiWinDisplay => screen.pollView
  | .menu made => screen.menuView made
  | .wifiConnectStart =>
      if screen.guiGetTopWin ≠ some .winWifiConnect then screen.view.push .winWifiConnect else screen.view
  | .wifiCloseExpires =>
      if screen.wifiConnectCloseTimer.active then
        if screen.guiGetTopWin = some .winWifiConnect then screen.view.pop else screen.view
      else screen.view
  | .updateControl value => { screen.view with otaStatus := value }
  | .otaTimeout =>
      if screen.otaTimeoutTimer.active then { screen.view with otaStatus := 1024 } else screen.view
  | _ => screen.view

end Screen

/-! ## Calls on the view -/

namespace Screen

variable {screen : Screen}

theorem view_on {change : State → State} (stack : (change screen.display).winManage = screen.display.winManage)
    (pause : (change screen.display).moto.workStatus = screen.display.moto.workStatus) :
    (screen.on change).view = screen.view := by
  simp only [view, on, stack, pause]

theorem view_windowFunction (window : Window) : (screen.windowFunction window).view = screen.view.enter window := by
  rw [windowFunction, View.enter]
  split
  · rfl
  · refine view_on (windowFunction_winManage window) ?_
    cases window <;> rfl

theorem view_guiWinAdd (window : Window) : (screen.guiWinAdd window).view = screen.view.push window := by
  rw [guiWinAdd, View.push]
  by_cases room : screen.display.winManage.winStack.length < guiWinManageNum
  · rw [dif_pos room]
    refine (view_windowFunction window).trans ?_
    exact (if_pos room).symm
  · rw [dif_neg room]
    exact (if_neg room).symm

theorem view_guiWinDeleteTop : screen.guiWinDeleteTop.view = screen.view.pop := by
  change _ = match screen.display.below with
    | none => screen.view
    | some window => { screen.view with stack := screen.view.stack.tail }.enter window
  rw [guiWinDeleteTop]
  cases screen.display.below with
  | none => rfl
  | some window => exact view_windowFunction window

theorem view_home : screen.home.view = screen.view.home := view_guiWinAdd userMain1Win

theorem view_refreshDisplay : screen.refreshDisplay.view = screen.view.redraw := by
  change _ = match screen.guiGetTopWin with
    | none => screen.view
    | some window => screen.view.enter window
  rw [refreshDisplay]
  cases screen.guiGetTopWin with
  | none => rfl
  | some window => exact view_windowFunction window

/-- A call on the display that may add a window other than the update screen. -/
theorem view_on_guiWinAdd (screen : Screen) {window : Window} (other : window ≠ userMain31Win) :
    (screen.on fun display => display.guiWinAdd window).view = screen.view.push window := by
  rw [← view_guiWinAdd, guiWinAdd]
  simp only [on, State.guiWinAdd]
  by_cases room : screen.display.winManage.winStack.length < guiWinManageNum
  · rw [dif_pos room, dif_pos room, windowFunction, if_neg other]
    rfl
  · rw [dif_neg room, dif_neg room]

theorem accepts_iff :
    screen.view.Accepts screen.display.moto ↔
      screen.guiGetTopWin ≠ some .userMain3Win ∧ screen.display.moto.cycleAccepted := Iff.rfl

theorem view_lcdtoBackwash (screen : Screen) :
    (screen.on State.lcdtoBackwash).view =
      if screen.view.Accepts screen.display.moto then screen.view.push .userMain3Win else screen.view := by
  have begun : (screen.on fun display => { display with moto := display.moto.motoCycle.1 }).view = screen.view :=
    view_on rfl Moto.State.motoCycle_workStatus
  by_cases other : screen.guiGetTopWin ≠ some .userMain3Win
  · by_cases accepted : screen.display.moto.cycleAccepted
    · have ok : screen.display.moto.motoCycle.2 = true := by rw [Moto.State.motoCycle_accepted accepted]
      have plain : Window.userMain3Win ≠ userMain31Win := by decide
      have pushed := view_on_guiWinAdd (screen.on fun display =>
        { display with moto := display.moto.motoCycle.1 }) plain
      rw [if_pos (accepts_iff.mpr ⟨other, accepted⟩), ← begun, ← pushed]
      have same : screen.display.lcdtoBackwash =
          { screen.display with moto := screen.display.moto.motoCycle.1 }.guiWinAdd .userMain3Win :=
        (if_pos other).trans (if_pos ok)
      simp only [on, same]
    · have refused : ¬screen.display.moto.motoCycle.2 = true := by
        rw [Moto.State.motoCycle_refused accepted]
        exact Bool.false_ne_true
      have idle : ¬screen.view.Accepts screen.display.moto := fun accepts => accepted (accepts_iff.mp accepts).2
      have same : screen.display.lcdtoBackwash = { screen.display with moto := screen.display.moto.motoCycle.1 } :=
        (if_pos other).trans (if_neg refused)
      rw [if_neg idle, ← begun]
      simp only [on, same]
  · have idle : ¬screen.view.Accepts screen.display.moto := fun accepts => other (accepts_iff.mp accepts).1
    have same : screen.display.lcdtoBackwash = screen.display := if_neg other
    rw [if_neg idle]
    simp only [on, same]

theorem view_lcdtoReminder :
    screen.lcdtoReminder.view =
      if screen.guiGetTopWin ≠ some .userMain25Win then screen.view.push .userMain25Win else screen.view := by
  by_cases other : screen.guiGetTopWin ≠ some .userMain25Win
  · have opened : screen.display.lcdtoReminder = screen.display.guiWinAdd .userMain25Win := if_pos other
    rw [if_pos other, ← view_on_guiWinAdd screen (by decide)]
    simp only [lcdtoReminder, on, opened]
  · have kept : screen.display.lcdtoReminder = screen.display := if_neg other
    rw [if_neg other]
    simp only [lcdtoReminder, on, kept]

theorem view_wifiConnectWinAdd :
    (screen.on State.wifiConnectWinAdd).view =
      if screen.guiGetTopWin ≠ some .winWifiConnect then screen.view.push .winWifiConnect else screen.view := by
  by_cases other : screen.guiGetTopWin ≠ some .winWifiConnect
  · have opened : screen.display.wifiConnectWinAdd = screen.display.guiWinAdd .winWifiConnect := if_pos other
    rw [if_pos other, ← view_on_guiWinAdd screen (by decide)]
    simp only [on, opened]
  · have kept : screen.display.wifiConnectWinAdd = screen.display := if_neg other
    rw [if_neg other]
    simp only [on, kept]

theorem view_wifiConnectWinDel :
    screen.wifiConnectWinDel.view =
      if screen.guiGetTopWin = some .winWifiConnect then screen.view.pop else screen.view := by
  rw [wifiConnectWinDel]
  split
  · exact view_guiWinDeleteTop
  · rfl

/-! ## Polls on the view -/

/-- What uncovering a window leaves of the display. -/
theorem guiWinDeleteTop_display (screen : Screen) :
    screen.guiWinDeleteTop.display.clicks = screen.display.clicks ∧
      screen.guiWinDeleteTop.display.moto.inputs = screen.display.moto.inputs ∧
      screen.guiWinDeleteTop.display.moto.workFlag = screen.display.moto.workFlag ∧
      screen.guiWinDeleteTop.wifiStatus = screen.wifiStatus := by
  have drawn : ∀ (screen : Screen) (window : Window),
      (screen.windowFunction window).display.clicks = screen.display.clicks ∧
        (screen.windowFunction window).display.moto.inputs = screen.display.moto.inputs ∧
        (screen.windowFunction window).display.moto.workFlag = screen.display.moto.workFlag ∧
        (screen.windowFunction window).wifiStatus = screen.wifiStatus := by
    intro screen window
    rw [windowFunction]
    split
    · exact ⟨rfl, rfl, rfl, rfl⟩
    · cases window <;> exact ⟨rfl, rfl, rfl, rfl⟩
  rw [guiWinDeleteTop]
  cases screen.display.below with
  | none => exact ⟨rfl, rfl, rfl, rfl⟩
  | some window => exact drawn _ window

theorem view_receiveJumpEvent : screen.receiveJumpEvent.view = screen.receivedView := by
  rw [receiveJumpEvent, receivedView]
  split
  · have cleared : (screen.on fun display =>
        { display with moto := { display.moto with jumpEvent := ∅ }, screenReload := true }).view = screen.view :=
      view_on rfl rfl
    rw [← cleared, ← view_guiWinDeleteTop]
    exact view_on rfl rfl
  · rename_i stays
    have kept : screen.display.receiveJumpEvent.winManage = screen.display.winManage ∧
        screen.display.receiveJumpEvent.moto.workStatus = screen.display.moto.workStatus := by
      rw [State.receiveJumpEvent]
      cases seen : State.recognised screen.display.moto.jumpEvent with
      | none => exact ⟨rfl, rfl⟩
      | some bit =>
          cases bit with
          | exit => exact absurd seen stays
          | back => exact ⟨rfl, rfl⟩
          | tds => exact ⟨rfl, rfl⟩
          | stalling => exact ⟨rfl, rfl⟩
          | finish => exact ⟨rfl, rfl⟩
          | nomoto => exact ⟨rfl, rfl⟩
    exact view_on kept.1 kept.2

theorem receiveJumpEvent_display (screen : Screen) :
    screen.receiveJumpEvent.display.clicks = screen.display.clicks ∧
      screen.receiveJumpEvent.display.motoDone = screen.display.motoDoneReceived := by
  rw [receiveJumpEvent, State.motoDoneReceived]
  split
  · rename_i exits
    rw [exits]
    exact ⟨(guiWinDeleteTop_display _).1, rfl⟩
  · rename_i stays
    change screen.display.receiveJumpEvent.clicks = _ ∧ screen.display.receiveJumpEvent.motoDone = _
    rw [State.receiveJumpEvent]
    cases seen : State.recognised screen.display.moto.jumpEvent with
    | none => exact ⟨rfl, rfl⟩
    | some bit =>
        cases bit with
        | exit => exact absurd seen stays
        | back => exact ⟨rfl, rfl⟩
        | tds => exact ⟨rfl, rfl⟩
        | stalling => exact ⟨rfl, rfl⟩
        | finish => exact ⟨rfl, rfl⟩
        | nomoto => exact ⟨rfl, rfl⟩

theorem view_tryTake (key : Key) : (screen.tryTake key).view = screen.view := view_on rfl rfl

theorem view_call (made : List Call) : (screen.call made).view = screen.view := view_on rfl rfl

theorem tryTake_clicked {key other : Key} (different : other ≠ key) :
    (screen.tryTake key).clicked other = screen.clicked other := clicked_tryTake different

theorem view_userMain3InputFun : screen.userMain3InputFun.view = screen.backwashView := by
  obtain ⟨clicks, done⟩ := receiveJumpEvent_display screen
  have enter : ((screen.receiveJumpEvent.tryTake .up).tryTake .down).clicked .enter = screen.clicked .enter := by
    rw [tryTake_clicked (by decide), tryTake_clicked (by decide), clicked, State.clicked, clicks]
    rfl
  have leaves : (((screen.receiveJumpEvent.tryTake .up).tryTake .down).clicked .enter &&
      screen.receiveJumpEvent.display.motoDone) = true ↔ screen.Leaves := by
    rw [enter, done, Bool.and_eq_true]
    exact Iff.rfl
  rw [userMain3InputFun, backwashView, view_tryTake, ← view_receiveJumpEvent, userMain3Enter]
  by_cases goes : screen.Leaves
  · rw [if_pos goes]
    refine (congrArg Screen.view (if_pos (leaves.mpr goes))).trans (view_home.trans ?_)
    rw [view_call, view_on rfl rfl, view_tryTake, view_tryTake, view_tryTake]
  · rw [if_neg goes]
    refine (congrArg Screen.view (if_neg fun left => goes (leaves.mp left))).trans ?_
    rw [view_tryTake, view_tryTake, view_tryTake]

/-- Up in the reminder window: the view, and what the rest of the poll looks at. -/
theorem userMain25Up_facts (screen : Screen) :
    screen.userMain25Up.view = screen.closedView ∧
      screen.userMain25Up.clicked .enter = screen.clicked .enter ∧
      screen.userMain25Up.display.moto.inputs = screen.display.moto.inputs ∧
      screen.userMain25Up.display.moto.workFlag = screen.display.moto.workFlag := by
  rw [userMain25Up, closedView]
  cases screen.clicked .up with
  | false => exact ⟨view_tryTake .up, tryTake_clicked (by decide), rfl, rfl⟩
  | true =>
      obtain ⟨clicks, inputs, flag, -⟩ :=
        guiWinDeleteTop_display ((screen.tryTake .up).call [.insertNotifyArray 0xff])
      have asked : (screen.tryTake .up).clicked .enter = screen.clicked .enter := tryTake_clicked (by decide)
      refine ⟨?_, ?_, inputs, flag⟩
      · simp only [if_true]
        rw [view_guiWinDeleteTop, view_call, view_tryTake]
      · simp only [if_true]
        rw [clicked, State.clicked, clicks]
        exact asked

theorem view_userMain25Enter :
    screen.userMain25Enter.view =
      if screen.clicked .enter = true ∧ screen.view.Accepts screen.display.moto then
        screen.view.push .userMain3Win
      else screen.view := by
  rw [userMain25Enter]
  by_cases entered : screen.clicked .enter = true
  · have begun := view_lcdtoBackwash
      (((screen.tryTake .enter).call [.insertNotifyArray 0xff]).call [.count 9])
    simp only [view_call, view_tryTake] at begun
    simp only [entered, if_true, true_and]
    exact begun
  · have stays : ¬(screen.clicked .enter = true ∧ screen.view.Accepts screen.display.moto) := fun both =>
      entered both.1
    rw [if_neg stays]
    exact (congrArg Screen.view (if_neg entered)).trans (view_tryTake .enter)

theorem view_userMain25InputFun : screen.userMain25InputFun.view = screen.reminderView := by
  obtain ⟨view, enter, inputs, flag⟩ := userMain25Up_facts screen
  have asked : (screen.userMain25Up.tryTake .down).clicked .enter = screen.clicked .enter :=
    (tryTake_clicked (by decide)).trans enter
  have accepts : screen.userMain25Up.view.Accepts screen.userMain25Up.display.moto ↔
      screen.userMain25Up.view.Accepts screen.display.moto := by
    rw [View.Accepts, View.Accepts, inputs, flag]
  rw [userMain25InputFun, view_tryTake, view_userMain25Enter, asked, view_tryTake, reminderView, ← view]
  exact if_congr (and_congr_right fun _ => accepts) rfl rfl

theorem view_showProgress : screen.showProgress.view = screen.view := by
  rw [showProgress]
  split
  · split <;> rfl
  · split
    · split <;> rfl
    · rfl

theorem view_showStatus : screen.showStatus.view = screen.view.catchUp screen.wifiStatus := by
  rw [showStatus, View.catchUp]
  by_cases behind : screen.nowStatus ≠ screen.otaStatus
  · have same : screen.view.nowStatus ≠ screen.view.otaStatus := behind
    rw [if_pos behind, if_pos same]
    by_cases searching : screen.otaStatus = 1
    · by_cases online : screen.wifiStatus = 4
      · have goes : ¬(screen.view.otaStatus = 1 ∧ screen.wifiStatus ≠ 4) := fun both => both.2 online
        rw [if_pos searching, if_pos online, if_neg goes]
        rfl
      · have fails : screen.view.otaStatus = 1 ∧ screen.wifiStatus ≠ 4 := ⟨searching, online⟩
        rw [if_pos searching, if_neg online, if_pos fails]
        simp only [view, searching]
    · have goes : ¬(screen.view.otaStatus = 1 ∧ screen.wifiStatus ≠ 4) := fun both => searching both.1
      rw [if_neg searching, if_neg goes]
      split
      · rfl
      split
      · rfl
      split
      · rfl
      split
      · rfl
      · rfl
  · have same : ¬screen.view.nowStatus ≠ screen.view.otaStatus := behind
    rw [if_neg behind, if_neg same]

theorem view_userMain31InputFun : screen.userMain31InputFun.view = screen.updateView := by
  have asked : ((screen.tryTake .up).tryTake .down).clicked .enter = screen.clicked .enter := by
    rw [tryTake_clicked (by decide), tryTake_clicked (by decide)]
  have left : ((screen.tryTake .up).tryTake .down).userMain31Enter.view = screen.leftView ∧
      ((screen.tryTake .up).tryTake .down).userMain31Enter.wifiStatus = screen.wifiStatus := by
    rw [userMain31Enter, leftView, asked]
    by_cases entered : screen.clicked .enter = true
    · rw [if_pos entered]
      by_cases free : screen.nowStatus &&& downloading = 0
      · have same : ((screen.tryTake .up).tryTake .down).nowStatus &&& downloading = 0 := free
        have both : screen.clicked .enter = true ∧ screen.nowStatus &&& downloading = 0 := ⟨entered, free⟩
        rw [if_pos same, if_pos both, view_guiWinDeleteTop]
        exact ⟨rfl, (guiWinDeleteTop_display _).2.2.2⟩
      · have same : ¬((screen.tryTake .up).tryTake .down).nowStatus &&& downloading = 0 := free
        have guarded : ¬(screen.clicked .enter = true ∧ screen.nowStatus &&& downloading = 0) := fun both => free both.2
        rw [if_neg same, if_neg guarded]
        exact ⟨view_on rfl rfl, rfl⟩
    · have stays : ¬(screen.clicked .enter = true ∧ screen.nowStatus &&& downloading = 0) := fun both => entered both.1
      rw [if_neg entered, if_neg stays]
      exact ⟨view_on rfl rfl, rfl⟩
  have progress : ∀ screen : Screen, screen.showProgress.wifiStatus = screen.wifiStatus := by
    intro screen
    rw [showProgress]
    split
    · split <;> rfl
    · split
      · split <;> rfl
      · rfl
  rw [userMain31InputFun, view_showStatus, view_showProgress, progress, view_tryTake, left.1, updateView]
  exact congrArg (View.catchUp _) left.2

/-! ## Steps on the view -/

theorem view_guiWinDisplay : screen.guiWinDisplay.view = screen.pollView := by
  rw [guiWinDisplay, pollView]
  cases screen.guiGetTopWin with
  | none => rfl
  | some window =>
      cases window with
      | userMain3Win => exact view_userMain3InputFun
      | userMain25Win => exact view_userMain25InputFun
      | winWifiConnect =>
          have kept : screen.display.winWifiInputCallback.winManage = screen.display.winManage ∧
              screen.display.winWifiInputCallback.moto.workStatus = screen.display.moto.workStatus := by
            rw [State.winWifiInputCallback]
            split
            · exact ⟨rfl, rfl⟩
            split
            · exact ⟨rfl, rfl⟩
            split
            · exact ⟨rfl, rfl⟩
            · exact ⟨rfl, rfl⟩
          exact view_on kept.1 kept.2
      | menuWin number =>
          by_cases update : number = 31
          · simp only [if_pos update]
            exact view_userMain31InputFun
          · simp only [if_neg update]
            exact view_on rfl rfl

theorem view_menuCall (made : MenuCall) : (screen.menuCall made).view = screen.menuView made := by
  rw [menuCall, menuView]
  cases screen.guiGetTopWin with
  | none => rfl
  | some window =>
      cases window with
      | userMain3Win => rfl
      | userMain25Win => rfl
      | winWifiConnect => rfl
      | menuWin number =>
          dsimp only
          split
          · rfl
          · rename_i other
            cases made with
            | guiWinAdd opened =>
                dsimp only
                split
                · rfl
                · exact view_guiWinAdd _
            | guiWinReload =>
                have plain : Window.menuWin number ≠ userMain31Win := fun same => other (Window.menuWin.inj same)
                exact (view_windowFunction _).trans (if_neg plain)
            | guiWinDeleteTop => exact view_guiWinDeleteTop
            | lcdtoBackwash => exact view_lcdtoBackwash (screen.call [.count 8])

theorem view_ask (thread : Thread) : (screen.ask thread).view = screen.view := by
  have approached : (screen.approach thread).view = screen.view := by
    cases thread with
    | rtc => exact view_on rfl rfl
    | key => exact view_on rfl rfl
    | uart => rfl
  rw [ask]
  split
  · split
    · exact approached
    · exact approached
  · rfl

theorem view_cycle (thread : Thread) : (screen.cycle thread).view = screen.view := by
  have begun : (screen.on fun display => { display with moto := display.moto.motoCycle.1 }).view = screen.view :=
    view_on rfl Moto.State.motoCycle_workStatus
  rw [cycle]
  split
  · exact begun
  · rfl

theorem view_wifiStatusChange (state : UInt8) : (screen.wifiStatusChange state).view = screen.view := by
  rw [wifiStatusChange]
  dsimp only
  split
  · rfl
  split
  · rfl
  · rfl

/-- A step of the screen does to the view what `viewAfter` says. -/
theorem view_step (event : Event) : (step screen event).view = screen.viewAfter event := by
  cases event with
  | moto event hardware => exact view_on rfl (Moto.step_workStatus hardware)
  | ask thread => exact view_ask thread
  | cycle thread => exact view_cycle thread
  | push thread =>
      rw [step, push, viewAfter]
      split
      · exact view_guiWinAdd .userMain3Win
      · rfl
  | rtcReminder =>
      rw [step, viewAfter]
      exact (view_call [.insertNotifyArray 0x07]).trans view_lcdtoReminder
  | refreshDisplay => exact view_refreshDisplay
  | lcdRefresh =>
      rw [step, lcdRefreshFromSleep, viewAfter]
      split
      · exact view_home
      · rfl
  | press key => exact view_on rfl rfl
  | doneJumpExpires =>
      have kept : (Display.step screen.display .doneJumpExpires).winManage = screen.display.winManage ∧
          (Display.step screen.display .doneJumpExpires).moto.workStatus = screen.display.moto.workStatus := by
        rw [Display.step]
        split
        · exact ⟨rfl, rfl⟩
        · exact ⟨rfl, rfl⟩
      exact view_on kept.1 kept.2
  | guiWinDisplay => exact view_guiWinDisplay
  | menu made => exact view_menuCall made
  | wifiConnectStart => exact view_wifiConnectWinAdd
  | wifiStatusChange state => exact view_wifiStatusChange state
  | wifiConnectExpires =>
      rw [step]
      split
      · rfl
      · rfl
  | wifiCloseExpires =>
      rw [step, viewAfter]
      split
      · exact view_wifiConnectWinDel
      · rfl
  | updateControl value => rfl
  | otaTimeout =>
      rw [step, viewAfter]
      split
      · rfl
      · rfl
  | wifiProgress value => rfl
  | stProgress value => rfl

end Screen

end SyrFilter.Display
