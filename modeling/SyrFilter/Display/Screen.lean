import Mathlib.Data.List.Chain
import SyrFilter.Display.System

namespace SyrFilter.Display

open SyrFilter.Lib

/-! # The update screen among the others

The display together with `userMain31Win`, the WiFi window and the requests of
the other threads.  Drawing `userMain31Win` pauses the motor and starts the
search for an update; leaving it by Enter resumes the motor.  `LcdtoBackwash`
runs in the RTC, key and UART threads without `lcd_mutex` up to its push, so
each of its three parts is a step.  A poll of the LCD thread is one step.
-/

def userMain31Win : Window := .menuWin 31

/-- The threads besides the LCD thread that ask for a backwash. -/
inductive Thread where
  | rtc
  | key
  | uart
deriving DecidableEq, Repr

/-- How far a thread has come in `LcdtoBackwash`. -/
inductive Phase where
  | idle
  /-- The top window was another one. -/
  | tested
  /-- `Moto_Cycle` returned `RT_EOK`. -/
  | accepted
deriving DecidableEq, Repr

structure Screen where
  display : State
  nowStatus : UInt16
  otaStatus : UInt16
  nowProgress : UInt16
  wifiProgress : UInt8
  stProgress : UInt8
  wifiStatus : UInt8
  wifiOtaUpdateFlag : UInt8
  otaTimeoutTimer : Timer
  wifiConnectTimer : Timer
  wifiConnectCloseTimer : Timer
  phases : Thread → Phase

namespace Screen

variable (screen : Screen)

def on (change : State → State) : Screen := { screen with display := change screen.display }

def guiGetTopWin : Option Window := screen.display.guiGetTopWin

def clicked (key : Key) : Bool := screen.display.clicked key

def tryTake (key : Key) : Screen := screen.on fun display => display.tryTake key

def call (made : List Call) : Screen := screen.on fun display => display.call made

/-! ## The window manager -/

def motoPause : Screen := screen.on fun display => { display with moto := display.moto.motoPause }

def motoResume : Screen := screen.on fun display => { display with moto := display.moto.motoResume }

def userMain31WinFun : Screen := { screen.motoPause with nowStatus := 0, otaStatus := 1 }

def windowFunction (window : Window) : Screen :=
  if window = userMain31Win then screen.userMain31WinFun
  else screen.on fun display => display.windowFunction window

def guiWinAdd (window : Window) : Screen :=
  if room : screen.display.winManage.winStack.length < guiWinManageNum then
    { screen with
      display :=
        { screen.display with
          winManage := ⟨window :: screen.display.winManage.winStack, room⟩ } }.windowFunction window
  else screen

def guiWinDeleteTop : Screen :=
  match screen.display.below with
  | none => screen
  | some window =>
      { screen with
        display :=
          { screen.display with
            winManage :=
              ⟨screen.display.winManage.winStack.tail,
                List.length_tail ▸ (Nat.sub_le ..).trans screen.display.winManage.fits⟩ } }.windowFunction
        window

/-- `GuiWinInit` and the main window. -/
def home : Screen := (screen.on State.guiWinInit).guiWinAdd userMain1Win

def refreshDisplay : Screen :=
  match screen.guiGetTopWin with
  | none => screen
  | some window => screen.windowFunction window

def lcdRefreshFromSleep : Screen := if screen.display.screenReload then screen.home else screen

def lcdtoReminder : Screen := screen.on State.lcdtoReminder

/-! ## The WiFi window -/

def wifiConnectStart : Screen :=
  { screen.on State.wifiConnectWinAdd with wifiConnectTimer := screen.wifiConnectTimer.start }

def wifiConnectSuccess : Screen :=
  { screen with
    wifiConnectCloseTimer := screen.wifiConnectCloseTimer.start
    wifiConnectTimer := screen.wifiConnectTimer.stop }

def wifiConnectFail : Screen :=
  { screen with wifiConnectCloseTimer := screen.wifiConnectCloseTimer.start }

/-- `wifi_connect_stop` -/
def wifiConnectWinDel : Screen :=
  if screen.guiGetTopWin = some .winWifiConnect then screen.guiWinDeleteTop else screen

/-! ## The update -/

def wifiOtaTimerRefresh : Screen := { screen with otaTimeoutTimer := screen.otaTimeoutTimer.start }

def wifiOtaTimerStop : Screen := { screen with otaTimeoutTimer := screen.otaTimeoutTimer.stop }

/-- `wifi_ota_request`, up to the frame it writes. -/
def wifiOtaRequest : Screen := { screen with wifiOtaUpdateFlag := 1 }.wifiOtaTimerRefresh

def wifiStatusChange (state : UInt8) : Screen :=
  let led := { screen with wifiStatus := state }
  if state = 3 then led.wifiConnectSuccess
  else if state = 4 ∧ led.wifiOtaUpdateFlag ≠ 0 then { led.wifiOtaRequest with wifiOtaUpdateFlag := 0 }
  else led

/-- `Murata_Downloading|Murata_Download_Done|Murata_No_Upadate|ST_Downloading` -/
def downloading : UInt16 := 2 ||| 4 ||| 16 ||| 32

/-- The progress bar of `UserMain31InputFun`. -/
def showProgress : Screen :=
  if screen.otaStatus = 2 then
    if screen.nowProgress ≠ screen.wifiProgress.toUInt16 then
      { screen.wifiOtaTimerRefresh with nowProgress := screen.wifiProgress.toUInt16 }
    else screen
  else if screen.otaStatus = 32 then
    if screen.nowProgress ≠ screen.stProgress.toUInt16 then
      { screen.wifiOtaTimerRefresh with nowProgress := screen.stProgress.toUInt16 }
    else screen
  else screen

/-- The status of `UserMain31InputFun`, when it is another than the one shown. -/
def showStatus : Screen :=
  if screen.nowStatus ≠ screen.otaStatus then
    let shown := { screen with nowStatus := screen.otaStatus }
    if screen.otaStatus = 1 then
      if screen.wifiStatus = 4 then shown.wifiOtaRequest.wifiOtaTimerRefresh
      else { shown with otaStatus := 1024 }
    else if screen.otaStatus = 2 then { shown with wifiProgress := 0, nowProgress := 0 }
    else if screen.otaStatus = 16 then shown.wifiOtaRequest
    else if screen.otaStatus = 32 then { shown with stProgress := 0, nowProgress := 0 }
    else if screen.otaStatus = 8 ∨ screen.otaStatus = 64 ∨ screen.otaStatus = 128 ∨
        screen.otaStatus = 256 ∨ screen.otaStatus = 1024 then shown.wifiOtaTimerStop
    else shown
  else screen

/-! ## Input -/

/-- Enter of `UserMain31InputFun`. -/
def userMain31Enter : Screen :=
  let entered := screen.tryTake .enter
  if screen.clicked .enter then
    if screen.nowStatus &&& downloading = 0 then entered.motoResume.guiWinDeleteTop else entered
  else entered

/-- `UserMain31InputFun`.  It goes on to show the status when Enter has closed the window. -/
def userMain31InputFun : Screen :=
  ((((screen.tryTake .up).tryTake .down).userMain31Enter).tryTake .long).showProgress.showStatus

/-- The event part of `UserMain3InputFun`; only `EXIT` closes the window. -/
def receiveJumpEvent : Screen :=
  if State.recognised screen.display.moto.jumpEvent = some .exit then
    let cleared := screen.on fun display =>
      { display with moto := { display.moto with jumpEvent := ∅ }, screenReload := true }
    cleared.guiWinDeleteTop.on fun display => { display.call [.ledSelect 0] with motoDone := true }
  else screen.on State.receiveJumpEvent

/-- Enter of `UserMain3InputFun`. -/
def userMain3Enter : Screen :=
  let entered := screen.tryTake .enter
  if screen.clicked .enter && screen.display.motoDone then
    ((entered.on fun display => { display with screenReload := true }).call [.ledSelect 0]).home
  else entered

def userMain3InputFun : Screen :=
  ((screen.receiveJumpEvent.tryTake .up).tryTake .down).userMain3Enter.tryTake .long

/-- Up of `UserMain25InputFun`. -/
def userMain25Up : Screen :=
  let refused := screen.tryTake .up
  if screen.clicked .up then (refused.call [.insertNotifyArray 0xff]).guiWinDeleteTop else refused

/-- Enter of `UserMain25InputFun`. -/
def userMain25Enter : Screen :=
  let accepted := screen.tryTake .enter
  if screen.clicked .enter then (accepted.call [.insertNotifyArray 0xff]).on State.jumptoAutomatic
  else accepted

def userMain25InputFun : Screen := (screen.userMain25Up.tryTake .down).userMain25Enter.tryTake .long

def guiWinDisplay : Screen :=
  match screen.guiGetTopWin with
  | none => screen
  | some .userMain3Win => screen.userMain3InputFun
  | some .userMain25Win => screen.userMain25InputFun
  | some .winWifiConnect => screen.on State.winWifiInputCallback
  | some (.menuWin number) =>
      if number = 31 then screen.userMain31InputFun else screen.on State.menuInputFun

/-- A menu window other than `userMain31Win` at work; only `userMain14Win` opens that one. -/
def menuCall (made : MenuCall) : Screen :=
  match screen.guiGetTopWin with
  | some (.menuWin number) =>
      if number = 31 then screen
      else
        match made with
        | .guiWinAdd other => if other = 31 ∧ number ≠ 14 then screen else screen.guiWinAdd (.menuWin other)
        | .guiWinReload => screen.windowFunction (.menuWin number)
        | .guiWinDeleteTop => screen.guiWinDeleteTop
        | .lcdtoBackwash => screen.on fun display => (display.call [.count 8]).lcdtoBackwash
  | _ => screen

/-! ## `LcdtoBackwash` in the other threads -/

def setPhase (thread : Thread) (phase : Phase) : Screen :=
  { screen with phases := Function.update screen.phases thread phase }

/-- What the thread does on its way to `LcdtoBackwash`. -/
def approach : Thread → Screen
  | .rtc => screen.on fun display => { display with screenReload := false }.call [.count 9]
  | .key => screen.on fun display => display.call [.count 10]
  | .uart => screen

/-- The test of the top window. -/
def ask (thread : Thread) : Screen :=
  if screen.phases thread = .idle then
    if screen.guiGetTopWin ≠ some .userMain3Win then (screen.approach thread).setPhase thread .tested
    else screen.approach thread
  else screen

/-- `Moto_Cycle` -/
def cycle (thread : Thread) : Screen :=
  if screen.phases thread = .tested then
    (screen.on fun display => { display with moto := display.moto.motoCycle.1 }).setPhase thread
      (if screen.display.moto.motoCycle.2 then .accepted else .idle)
  else screen

/-- The push under `lcd_mutex`. -/
def push (thread : Thread) : Screen :=
  if screen.phases thread = .accepted then (screen.guiWinAdd .userMain3Win).setPhase thread .idle
  else screen

inductive Event where
  /-- A switch, timer or interrupt of the motor. -/
  | moto (event : Moto.Event) (hardware : event ≠ .cycle ∧ event ≠ .pause ∧ event ≠ .resume)
  | ask (thread : Thread)
  | cycle (thread : Thread)
  | push (thread : Thread)
  | rtcReminder
  | refreshDisplay
  | lcdRefresh
  | press (key : Key)
  | doneJumpExpires
  | guiWinDisplay
  | menu (made : MenuCall)
  | wifiConnectStart
  | wifiStatusChange (state : UInt8)
  | wifiConnectExpires
  | wifiCloseExpires
  /-- `update_control_parse`: a status report of the WiFi module. -/
  | updateControl (value : UInt16)
  /-- `OTA_Timeout_Timer` is periodic. -/
  | otaTimeout
  | wifiProgress (value : UInt8)
  | stProgress (value : UInt8)

def step (screen : Screen) : Event → Screen
  | .moto event _ => screen.on fun display => { display with moto := Moto.step display.moto event }
  | .ask thread => screen.ask thread
  | .cycle thread => screen.cycle thread
  | .push thread => screen.push thread
  | .rtcReminder =>
      (screen.on fun display => { display with screenReload := false }).lcdtoReminder.on fun display =>
        display.call [.insertNotifyArray 0x07]
  | .refreshDisplay => screen.refreshDisplay
  | .lcdRefresh => screen.lcdRefreshFromSleep
  | .press key => screen.on fun display => display.release key
  | .doneJumpExpires => screen.on fun display => Display.step display .doneJumpExpires
  | .guiWinDisplay => screen.guiWinDisplay
  | .menu made => screen.menuCall made
  | .wifiConnectStart => screen.wifiConnectStart
  | .wifiStatusChange state => screen.wifiStatusChange state
  | .wifiConnectExpires =>
      if screen.wifiConnectTimer.active then
        { screen with wifiConnectTimer := screen.wifiConnectTimer.stop }.wifiConnectFail
      else screen
  | .wifiCloseExpires =>
      if screen.wifiConnectCloseTimer.active then
        { screen with wifiConnectCloseTimer := screen.wifiConnectCloseTimer.stop }.wifiConnectWinDel
      else screen
  | .updateControl value => { screen with otaStatus := value }
  | .otaTimeout => if screen.otaTimeoutTimer.active then { screen with otaStatus := 1024 } else screen
  | .wifiProgress value => { screen with wifiProgress := value }
  | .stProgress value => { screen with stProgress := value }

def boot (left right : Bool) (inputs : Moto.Inputs) : Screen where
  display := Display.boot left right inputs
  nowStatus := 0
  otaStatus := 0
  nowProgress := 0
  wifiProgress := 0
  stProgress := 0
  wifiStatus := 0
  wifiOtaUpdateFlag := 0
  otaTimeoutTimer := .create 120000
  wifiConnectTimer := .create 60000
  wifiConnectCloseTimer := .create 3000
  phases := fun _ => .idle

end Screen

/-! ## Without the update screen

Away from the update screen the display does what it did alone, and
`LcdtoBackwash` without an interruption is the one step that it was there.
-/

namespace Screen

variable {screen : Screen} {window : Window}

theorem windowFunction_display (other : window ≠ userMain31Win) :
    (screen.windowFunction window).display = screen.display.windowFunction window := by
  rw [windowFunction, if_neg other]
  rfl

theorem guiWinAdd_display (other : window ≠ userMain31Win) :
    (screen.guiWinAdd window).display = screen.display.guiWinAdd window := by
  rw [guiWinAdd, State.guiWinAdd]
  split
  · exact windowFunction_display other
  · rfl

/-- The update screen is not uncovered by closing the top window. -/
def Apart (screen : Screen) : Prop := screen.display.below ≠ some userMain31Win

theorem guiWinDeleteTop_display_eq (screen : Screen) (apart : screen.Apart) :
    screen.guiWinDeleteTop.display = screen.display.guiWinDeleteTop := by
  rw [guiWinDeleteTop, State.guiWinDeleteTop]
  cases under : screen.display.below with
  | none => rfl
  | some window =>
      refine windowFunction_display fun update => apart ?_
      rw [under, update]

theorem home_display : screen.home.display = screen.display.guiWinInit.guiWinAdd userMain1Win :=
  guiWinAdd_display (by decide)

theorem receiveJumpEvent_display_eq (apart : screen.Apart) :
    screen.receiveJumpEvent.display = screen.display.receiveJumpEvent := by
  rw [receiveJumpEvent]
  split
  · rename_i exits
    have closed := guiWinDeleteTop_display_eq (screen.on fun display =>
      { display with moto := { display.moto with jumpEvent := ∅ }, screenReload := true }) apart
    rw [State.receiveJumpEvent, exits]
    exact congrArg (fun display : State => { display.call [.ledSelect 0] with motoDone := true }) closed
  · rfl

theorem userMain3InputFun_display_eq (apart : screen.Apart) :
    screen.userMain3InputFun.display = screen.display.userMain3InputFun := by
  have entered : ∀ screen : Screen, screen.userMain3Enter.display =
      if screen.display.clicked .enter && screen.display.motoDone then
        ({ screen.display.tryTake .enter with screenReload := true }.call [.ledSelect 0]).guiWinInit.guiWinAdd
          userMain1Win
      else screen.display.tryTake .enter := by
    intro screen
    rw [userMain3Enter, clicked]
    split
    · exact home_display
    · rfl
  change (((screen.receiveJumpEvent.tryTake .up).tryTake .down).userMain3Enter.display).tryTake .long = _
  rw [entered, State.userMain3InputFun, ← receiveJumpEvent_display_eq apart]
  rfl

theorem userMain25InputFun_display_eq (apart : screen.Apart) :
    screen.userMain25InputFun.display = screen.display.userMain25InputFun := by
  have closed : screen.userMain25Up.display =
      if screen.display.clicked .up then
        ((screen.display.tryTake .up).call [.insertNotifyArray 0xff]).guiWinDeleteTop
      else screen.display.tryTake .up := by
    rw [userMain25Up, clicked]
    split
    · exact guiWinDeleteTop_display_eq ((screen.tryTake .up).call [.insertNotifyArray 0xff]) apart
    · rfl
  have entered : ∀ screen : Screen, screen.userMain25Enter.display =
      if screen.display.clicked .enter then
        ((screen.display.tryTake .enter).call [.insertNotifyArray 0xff]).jumptoAutomatic
      else screen.display.tryTake .enter := by
    intro screen
    rw [userMain25Enter, clicked]
    split
    · rfl
    · rfl
  change ((screen.userMain25Up.tryTake .down).userMain25Enter.display).tryTake .long = _
  rw [entered, State.userMain25InputFun, ← closed]
  rfl

/-- A poll of any other window is the poll of the display. -/
theorem guiWinDisplay_display (apart : screen.Apart) (other : screen.guiGetTopWin ≠ some userMain31Win) :
    (step screen .guiWinDisplay).display = Display.step screen.display .guiWinDisplay := by
  rw [step, Display.step, guiWinDisplay, State.guiWinDisplay]
  change _ = match screen.guiGetTopWin with
    | none => screen.display
    | some .userMain3Win => screen.display.userMain3InputFun
    | some .userMain25Win => screen.display.userMain25InputFun
    | some .winWifiConnect => screen.display.winWifiInputCallback
    | some (.menuWin _) => screen.display.menuInputFun
  cases top : screen.guiGetTopWin with
  | none => rfl
  | some window =>
      cases window with
      | userMain3Win => exact userMain3InputFun_display_eq apart
      | userMain25Win => exact userMain25InputFun_display_eq apart
      | winWifiConnect => rfl
      | menuWin number =>
          have plain : number ≠ 31 := fun update => other (by rw [top, update]; rfl)
          dsimp only
          rw [if_neg plain]
          rfl

/-- What asks for a backwash in one step on the display alone. -/
def request : Thread → Display.Event
  | .rtc => .rtcAutomatic
  | .key => .deltaRelease
  | .uart => .syrMotoSet

/-- The three parts of `LcdtoBackwash` in a row. -/
theorem lcdtoBackwash_uninterrupted {thread : Thread} (idle : screen.phases thread = .idle) :
    (run step screen [.ask thread, .cycle thread, .push thread]).display =
      Display.step screen.display (request thread) := by
  have approached : Display.step screen.display (request thread) =
      (screen.approach thread).display.lcdtoBackwash := by
    cases thread <;> rfl
  have top : (screen.approach thread).display.guiGetTopWin = screen.guiGetTopWin := by
    cases thread <;> rfl
  have phase : (screen.approach thread).phases = screen.phases := by
    cases thread <;> rfl
  rw [approached, State.lcdtoBackwash, top]
  simp only [run_cons, run_nil, step, ask, if_pos idle]
  by_cases shown : screen.guiGetTopWin ≠ some .userMain3Win
  · have tested : ((screen.approach thread).setPhase thread .tested).phases thread = .tested := by
      simp only [setPhase, Function.update_self]
    rw [if_pos shown, if_pos shown, cycle, if_pos tested]
    by_cases accepted : (screen.approach thread).display.moto.motoCycle.2 = true
    · simp only [accepted, if_true, push, setPhase, Function.update_self]
      exact guiWinAdd_display (by decide)
    · simp only [accepted, push, setPhase, Function.update_self]
      rfl
  · have still : (screen.approach thread).phases thread = .idle := by rw [phase, idle]
    have stays : ¬(screen.approach thread).phases thread = .tested := by
      rw [still]
      decide
    have rests : ¬(screen.approach thread).phases thread = .accepted := by
      rw [still]
      decide
    rw [if_neg shown, if_neg shown, cycle, if_neg stays, push, if_neg rests]

end Screen

end SyrFilter.Display
