import Mathlib.Logic.Function.Basic
import SyrFilter.Moto.Machine

namespace SyrFilter.Display

/-! # The windows of the display

`display/lcd_display.c` and `lcd_win/win_connect.c` on the window stack of
lkdGui, as far as they bear on the backwash screen: the stack, `moto_done`,
`screen_reload`, the clicks waiting in the key semaphores and the motor with
`lcd_jump_event`.  Of the menu windows only what they do to the stack is kept.
-/

inductive Window where
  | userMain3Win
  | userMain25Win
  | winWifiConnect
  /-- The menu window `userMainNWin`. -/
  | menuWin (number : Nat)
deriving DecidableEq, Repr

def userMain1Win : Window := .menuWin 1

inductive Key where
  | up
  | down
  | enter
  | long
deriving DecidableEq, Repr

inductive Call where
  | eventUpload (status : Nat)
  | insertNotifyArray (code : Nat)
  | insertErrorArray (code : Nat)
  | ledSelect (mode : Nat)
  /-- One of the counters in flash goes up. -/
  | count (key : Nat)
deriving DecidableEq, Repr

def guiWinManageNum : Nat := 32

/-- `winManage`, the top window first. -/
structure WinManage where
  winStack : List Window
  fits : winStack.length ≤ guiWinManageNum

structure State where
  moto : Moto.State
  winManage : WinManage
  motoDone : Bool
  screenReload : Bool
  doneJumpTimer : Timer
  /-- The values of the key semaphores. -/
  clicks : Key → Nat
  calls : List Call

namespace State

variable (state : State)

def call (made : List Call) : State := { state with calls := state.calls ++ made }

def release (key : Key) : State :=
  { state with clicks := Function.update state.clicks key (state.clicks key + 1) }

def clicked (key : Key) : Bool := state.clicks key != 0

def tryTake (key : Key) : State :=
  { state with clicks := Function.update state.clicks key (state.clicks key - 1) }

@[simp] theorem call_moto (made : List Call) : (state.call made).moto = state.moto := rfl
@[simp] theorem call_winManage (made : List Call) : (state.call made).winManage = state.winManage := rfl
@[simp] theorem call_motoDone (made : List Call) : (state.call made).motoDone = state.motoDone := rfl
@[simp] theorem tryTake_moto (key : Key) : (state.tryTake key).moto = state.moto := rfl
@[simp] theorem tryTake_winManage (key : Key) : (state.tryTake key).winManage = state.winManage := rfl
@[simp] theorem tryTake_motoDone (key : Key) : (state.tryTake key).motoDone = state.motoDone := rfl

/-! ## The window manager -/

def guiGetTopWin : Option Window := state.winManage.winStack.head?

def userMain3WinFun : State :=
  { state with
    motoDone := false
    screenReload := true
    moto := { state.moto with jumpEvent := ∅ } }

/-- The `WindowFunction` of a window; the others only draw. -/
def windowFunction : Window → State
  | .userMain3Win => state.userMain3WinFun
  | _ => state

/-- `GuiWinAdd`: a full stack is left as it is. -/
def guiWinAdd (window : Window) : State :=
  if room : state.winManage.winStack.length < guiWinManageNum then
    { state with winManage := ⟨window :: state.winManage.winStack, room⟩ }.windowFunction window
  else state

def guiWinReload (window : Window) : State := state.windowFunction window

def below : Option Window := state.winManage.winStack[1]?

/-- `GuiWinDeleteTop`: the last window stays. -/
def guiWinDeleteTop : State :=
  match state.below with
  | none => state
  | some window =>
      { state with
        winManage :=
          ⟨state.winManage.winStack.tail,
            List.length_tail ▸ (Nat.sub_le ..).trans state.winManage.fits⟩ }.windowFunction window

def guiWinInit : State := { state with winManage := ⟨[], Nat.zero_le _⟩ }

/-! ## Requests -/

def lcdtoReminder : State :=
  if state.guiGetTopWin ≠ some .userMain25Win then state.guiWinAdd .userMain25Win else state

def lcdtoBackwash : State :=
  if state.guiGetTopWin ≠ some .userMain3Win then
    if state.moto.motoCycle.2 then
      { state with moto := state.moto.motoCycle.1 }.guiWinAdd .userMain3Win
    else { state with moto := state.moto.motoCycle.1 }
  else state

def jumptoAutomatic : State := (state.call [.count 9]).lcdtoBackwash

def jumptoDelta : State := (state.call [.count 10]).lcdtoBackwash

/-- `Refresh_Display`.  The stack is never empty between two calls. -/
def refreshDisplay : State :=
  match state.guiGetTopWin with
  | none => state
  | some window => state.guiWinReload window

def lcdRefreshFromSleep : State :=
  if state.screenReload then state.guiWinInit.guiWinAdd userMain1Win else state

def wifiConnectWinAdd : State :=
  if state.guiGetTopWin ≠ some .winWifiConnect then state.guiWinAdd .winWifiConnect else state

def wifiConnectWinDel : State :=
  if state.guiGetTopWin = some .winWifiConnect then state.guiWinDeleteTop else state

/-! ## Input -/

/-- The case of `switch(e)` that a set of received bits comes to. -/
def recognised (received : Finset JumpEvent) : Option JumpEvent :=
  [.back, .tds, .stalling, .finish, .nomoto, .exit].find? fun bit => received = {bit}

/-- The event part of `UserMain3InputFun`. -/
def receiveJumpEvent : State :=
  let cleared := { state with moto := { state.moto with jumpEvent := ∅ } }
  match recognised state.moto.jumpEvent with
  | some .tds =>
      { cleared.call [.eventUpload 0, .insertNotifyArray 0x06, .count 11, .ledSelect 1] with
        screenReload := false, motoDone := true }
  | some .stalling =>
      { cleared.call [.eventUpload 0, .insertErrorArray 0xa, .count 11, .ledSelect 1] with
        screenReload := false, motoDone := true }
  | some .finish =>
      { cleared.call [.eventUpload 0, .insertNotifyArray 0xff, .insertErrorArray 0xff] with
        screenReload := true, doneJumpTimer := state.doneJumpTimer.start, motoDone := true }
  | some .nomoto =>
      { cleared.call [.eventUpload 0, .insertErrorArray 0xa, .count 11, .ledSelect 1] with
        screenReload := false, motoDone := true }
  | some .exit =>
      { { cleared with screenReload := true }.guiWinDeleteTop.call [.ledSelect 0] with
        motoDone := true }
  | some .back => cleared
  | none => cleared

def userMain3InputFun : State :=
  let received := (state.receiveJumpEvent.tryTake .up).tryTake .down
  let entered := received.tryTake .enter
  let left :=
    if received.clicked .enter && received.motoDone then
      ({ entered with screenReload := true }.call [.ledSelect 0]).guiWinInit.guiWinAdd userMain1Win
    else entered
  left.tryTake .long

def userMain25InputFun : State :=
  let refused := state.tryTake .up
  let closed :=
    if state.clicked .up then (refused.call [.insertNotifyArray 0xff]).guiWinDeleteTop else refused
  let asked := closed.tryTake .down
  let accepted := asked.tryTake .enter
  let begun :=
    if asked.clicked .enter then (accepted.call [.insertNotifyArray 0xff]).jumptoAutomatic
    else accepted
  begun.tryTake .long

def winWifiInputCallback : State :=
  if state.clicked .up then state.tryTake .up
  else if state.clicked .down then state.tryTake .down
  else if state.clicked .enter then state.tryTake .enter
  else state.tryTake .long

/-- The clicks that the input function of a menu window takes. -/
def menuInputFun : State := (((state.tryTake .up).tryTake .down).tryTake .enter).tryTake .long

/-- `GuiWinDisplay`: the input function of the top window. -/
def guiWinDisplay : State :=
  match state.guiGetTopWin with
  | none => state
  | some .userMain3Win => state.userMain3InputFun
  | some .userMain25Win => state.userMain25InputFun
  | some .winWifiConnect => state.winWifiInputCallback
  | some (.menuWin _) => state.menuInputFun

end State

/-- What the input function of a menu window does to the stack, one call at a time. -/
inductive MenuCall where
  | guiWinAdd (number : Nat)
  | guiWinReload
  | guiWinDeleteTop
  | lcdtoBackwash
deriving DecidableEq, Repr

def State.menuCall (state : State) (made : MenuCall) : State :=
  match state.guiGetTopWin with
  | some (.menuWin number) =>
      match made with
      | .guiWinAdd other => state.guiWinAdd (.menuWin other)
      | .guiWinReload => state.guiWinReload (.menuWin number)
      | .guiWinDeleteTop => state.guiWinDeleteTop
      | .lcdtoBackwash => (state.call [.count 8]).lcdtoBackwash
  | _ => state

inductive Event where
  /-- A switch, timer or interrupt of the motor; a cycle is begun by `LcdtoBackwash` alone. -/
  | moto (event : Moto.Event) (hardware : event ≠ .cycle)
  | syrMotoSet
  | deltaRelease
  | rtcAutomatic
  | rtcReminder
  | refreshDisplay
  | lcdRefresh
  | wifiConnectWinAdd
  | wifiConnectWinDel
  | press (key : Key)
  | doneJumpExpires
  | guiWinDisplay
  | menu (made : MenuCall)

def step (state : State) : Event → State
  | .moto event _ => { state with moto := Moto.step state.moto event }
  | .syrMotoSet => state.lcdtoBackwash
  | .deltaRelease => state.jumptoDelta
  | .rtcAutomatic => { state with screenReload := false }.jumptoAutomatic
  | .rtcReminder =>
      { state with screenReload := false }.lcdtoReminder.call [.insertNotifyArray 0x07]
  | .refreshDisplay => state.refreshDisplay
  | .lcdRefresh => state.lcdRefreshFromSleep
  | .wifiConnectWinAdd => state.wifiConnectWinAdd
  | .wifiConnectWinDel => state.wifiConnectWinDel
  | .press key => state.release key
  | .doneJumpExpires =>
      if state.doneJumpTimer.active then
        { state with doneJumpTimer := state.doneJumpTimer.stop }.release .enter
      else state
  | .guiWinDisplay => state.guiWinDisplay
  | .menu made => state.menuCall made

def boot (left right : Bool) (inputs : Moto.Inputs) : State where
  moto := Moto.State.motoInit left right inputs
  winManage := ⟨[userMain1Win], by decide⟩
  motoDone := false
  screenReload := true
  doneJumpTimer := .create 3000
  clicks := fun _ => 0
  calls := []

end SyrFilter.Display
