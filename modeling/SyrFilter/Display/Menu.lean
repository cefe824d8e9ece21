import SyrFilter.Display.Screen
import SyrFilter.Rtc.Intervals

namespace SyrFilter.Display

open SyrFilter.Lib
open SyrFilter.Storage (Device Op Settings)
open SyrFilter.Rtc (Schedule)

/-! # The menus

The windows of `display/lcd_display.c` with what they share: `NowButtonId`,
`NowSetting`, the two page numbers, `confirmed` and the flags of `tButton`.
A `WindowFunction` runs when its window is opened, uncovered or redrawn, and
sets some of these; an `InputFunction` goes through the four keys in one poll
and carries on with its own code when a key has brought up another window.

A click is a semaphore, so one that arrives during a poll counts as one before
or after it, and a poll is one step.
-/

/-- What the LCD thread did. -/
inductive Mark where
  | windowFunction (window : Window)
  /-- `K2_Sem` taken in `userMainNWin` with a button selected, whoever released it. -/
  | enter (number : Nat) (button : UInt8)
  | operate (op : Op)
  | deviceFactorySet
deriving DecidableEq, Repr

structure Menu where
  screen : Screen
  /-- The settings, the temporaries of the interval windows and `NowSetting`. -/
  windows : Rtc.Windows
  /-- The flags of the buttons. -/
  tButton : UInt8 → UInt8
  nowButtonId : UInt8
  win1PageId : UInt8
  win14PageId : UInt8
  confirmed : UInt8
  deltapressEnableTemp : UInt8
  setHardnessTemp : UInt16
  setBackwashTemp : UInt16
  timeRangeTemp : UInt8
  tdsCndValueTemp : UInt8
  /-- `device_factory_set` waits for the reset. -/
  halted : Bool
  /-- The newest first. -/
  history : List Mark

/-- `!x` -/
def cNot (value : UInt8) : UInt8 := if value = 0 then 1 else 0

namespace Menu

variable (menu : Menu)

def on (change : Screen → Screen) : Menu := { menu with screen := change menu.screen }

def stack : List Window := menu.screen.display.winManage.winStack

def guiGetTopWin : Option Window := menu.stack.head?

def clicked (key : Key) : Bool := menu.screen.clicked key

def tryTake (key : Key) : Menu := menu.on fun screen => screen.tryTake key

/-- `if(Get_Up_Click() == RT_EOK)` and the like. -/
def onClick (key : Key) (handle : Menu → Menu) : Menu :=
  if menu.clicked key then handle (menu.tryTake key) else menu.tryTake key

def mark (made : Mark) : Menu := { menu with history := made :: menu.history }

def settings : Settings := menu.windows.device.ram.settings

def nowSetting : UInt8 := menu.windows.nowSetting

/-- `syr_wifi_ap_enable_get` -/
def wifiApEnable : UInt8 := menu.windows.device.ram.wifiApEnable

/-- An operation on the settings. -/
def store (op : Op) : Menu :=
  { menu with windows := { menu.windows with device := menu.windows.device.step op } }

def operate (op : Op) : Menu := (menu.store op).mark (.operate op)

/-- A counter of backwashes or errors goes up. -/
def count (key : Nat) (op : Op) : Menu := (menu.on fun screen => screen.call [.count key]).operate op

def setNow (button : UInt8) : Menu := { menu with nowButtonId := button }

def setFlag (button value : UInt8) : Menu :=
  { menu with tButton := Function.update menu.tButton button value }

def setFlags (flags : List (UInt8 × UInt8)) : Menu :=
  flags.foldl (fun drawn flag => drawn.setFlag flag.1 flag.2) menu

/-- The flag of the selected button goes down, and that of another up. -/
def select (button : UInt8) : Menu := ((menu.setFlag menu.nowButtonId 0).setNow button).setFlag button 1

/-! ## Window functions -/

def userMain1WinFun : Menu :=
  if menu.win1PageId = 0 then (menu.setNow 0).setFlags [(0, 1), (1, 0), (2, 0), (3, 0), (4, 1)]
  else if menu.win1PageId = 1 then menu.setFlags [(0, 1), (4, 1)]
  else if menu.win1PageId = 2 then (menu.setNow 3).setFlags [(0, 0), (1, 0), (2, 0), (3, 1), (4, 1)]
  else menu

def userMain2WinFun : Menu := menu.setFlags [(0, 1), (1, 0), (2, 1)]

/-- `UserMain4WinFun` and `UserMain5WinFun`. -/
def intervalWinFun (schedule : Schedule) : Menu :=
  { menu with windows := menu.windows.step (.winFun schedule) }.setFlags [(0, 1), (1, 1), (2, 0), (3, 0)]

def userMain4WinFun : Menu := menu.intervalWinFun .reminder

def userMain5WinFun : Menu := menu.intervalWinFun .automatic

/-- Both rows of `userMain6Win`. -/
def showDeltapress : Menu := menu.setFlags [(0, cNot menu.deltapressEnableTemp), (1, menu.deltapressEnableTemp)]

def userMain6WinFun : Menu :=
  { menu with deltapressEnableTemp := menu.settings.deltapressEnable }.showDeltapress.setFlag 3 1

def userMain7WinFun : Menu := (menu.setNow 0).setFlags [(0, 1), (1, 0), (2, 0), (3, 0)]

def userMain8WinFun : Menu := (menu.setNow 0).setFlags [(0, 1), (1, 0), (2, 0), (3, 0)]

/-- A window that shows a counter. -/
def counterWinFun : Menu :=
  { menu.setNow 1 with confirmed := 0 }.setFlags [(0, 0), (1, 1), (2, 0), (3, 1)]

def cut (window : CounterWindow) : Menu :=
  { menu with windows := { menu.windows with device := window.winFun menu.windows.device } }

def userMain9WinFun : Menu := menu.counterWinFun

def userMain10WinFun : Menu := (menu.cut .automatic).counterWinFun

def userMain11WinFun : Menu := (menu.cut .delta).counterWinFun

/-- `Counter_Error` is cut as well. -/
def userMain12WinFun : Menu :=
  let device := menu.windows.device
  let shown :=
    if 9999 < device.ram.settings.counterError then
      { device with
        ram := { device.ram with settings := { device.ram.settings with counterError := 9999 } } }
    else device
  { menu with windows := { menu.windows with device := shown } }.counterWinFun

def userMain13WinFun : Menu := menu.setFlags [(0, 0), (1, 0), (2, 1)]

/-- The first row of a page is selected on the way down, the last one on the way up. -/
def userMain14WinFun : Menu :=
  if menu.win14PageId < 4 then (menu.setNow 0).setFlags [(0, 1), (1, 0), (2, 0), (3, 1)]
  else if menu.win14PageId < 8 then (menu.setNow 2).setFlags [(0, 0), (1, 0), (2, 1), (3, 1)]
  else menu

/-- A window with a value in the first row. -/
def valueWinFun : Menu := menu.setFlags [(0, 1), (1, 0), (2, 0), (3, 1)]

def userMain16WinFun : Menu :=
  ({ menu with setHardnessTemp := menu.settings.settingHardness.toUInt16 }.setNow 0).valueWinFun

def userMain17WinFun : Menu :=
  ({ menu with setBackwashTemp := menu.settings.settingBackwashtime }.setNow 0).valueWinFun

def userMain18WinFun : Menu := menu.setFlag 0 1

def userMain19WinFun : Menu := { menu.setNow 0 with confirmed := 0 }.setFlags [(0, 1), (1, 0), (2, 1)]

def userMain20WinFun : Menu := (menu.setNow 0).setFlags [(0, 1), (1, 0), (2, 0), (3, 1)]

def userMain23WinFun : Menu := menu.setFlag 3 1

def userMain25WinFun : Menu := menu.setFlag 3 1

def userMain26WinFun : Menu := menu.setFlag 0 1

def userMain27WinFun : Menu := menu.setFlag 0 1

def userMain28WinFun : Menu := ({ menu with timeRangeTemp := menu.settings.timeRange }.setNow 0).valueWinFun

/-- The selected button stays as it was. -/
def userMain29WinFun : Menu := { menu with tdsCndValueTemp := menu.settings.tdsCndValue }.valueWinFun

def userMain30WinFun : Menu := menu.setFlag 0 1

def userMain31WinFun : Menu := (menu.on Screen.userMain31WinFun).setFlag 0 1

def userMain32WinFun : Menu :=
  (menu.setNow menu.wifiApEnable).setFlags [(0, cNot menu.wifiApEnable), (1, menu.wifiApEnable), (2, 1)]

/-- The `WindowFunction` of `userMainNWin`. -/
def userMainWinFun : Nat → Menu
  | 1 => menu.userMain1WinFun
  | 2 => menu.userMain2WinFun
  | 4 => menu.userMain4WinFun
  | 5 => menu.userMain5WinFun
  | 6 => menu.userMain6WinFun
  | 7 => menu.userMain7WinFun
  | 8 => menu.userMain8WinFun
  | 9 => menu.userMain9WinFun
  | 10 => menu.userMain10WinFun
  | 11 => menu.userMain11WinFun
  | 12 => menu.userMain12WinFun
  | 13 => menu.userMain13WinFun
  | 14 => menu.userMain14WinFun
  | 16 => menu.userMain16WinFun
  | 17 => menu.userMain17WinFun
  | 18 => menu.userMain18WinFun
  | 19 => menu.userMain19WinFun
  | 20 => menu.userMain20WinFun
  | 23 => menu.userMain23WinFun
  | 26 => menu.userMain26WinFun
  | 27 => menu.userMain27WinFun
  | 28 => menu.userMain28WinFun
  | 29 => menu.userMain29WinFun
  | 30 => menu.userMain30WinFun
  | 31 => menu.userMain31WinFun
  | 32 => menu.userMain32WinFun
  | _ => menu

/-- The `WindowFunction` of a window. -/
def draw : Window → Menu
  | .userMain3Win => menu.on fun screen => screen.windowFunction .userMain3Win
  | .userMain25Win => menu.userMain25WinFun
  | .winWifiConnect => menu
  | .menuWin number => menu.userMainWinFun number

def windowFunction (window : Window) : Menu := (menu.draw window).mark (.windowFunction window)

/-! ## The window manager -/

def restack (stack : List Window) (fits : stack.length ≤ guiWinManageNum) : Menu :=
  menu.on fun screen => { screen with display := { screen.display with winManage := ⟨stack, fits⟩ } }

def guiWinAdd (window : Window) : Menu :=
  if room : menu.stack.length < guiWinManageNum then
    (menu.restack (window :: menu.stack) room).windowFunction window
  else menu

/-- `GuiWinDeleteTop`: the last window stays. -/
def guiWinDeleteTop : Menu :=
  match menu.stack[1]? with
  | none => menu
  | some window =>
      (menu.restack menu.stack.tail
        (List.length_tail ▸ (Nat.sub_le ..).trans menu.screen.display.winManage.fits)).windowFunction window

/-- `GuiWinInit` and the main window. -/
def home : Menu := (menu.restack [] (Nat.zero_le _)).guiWinAdd userMain1Win

def refreshDisplay : Menu :=
  match menu.guiGetTopWin with
  | none => menu
  | some window => menu.windowFunction window

def lcdRefreshFromSleep : Menu :=
  if menu.screen.display.screenReload then
    { menu with windows := menu.windows.step .home, win14PageId := 0 }.home
  else menu

def lcdtoReminder : Menu :=
  if menu.guiGetTopWin ≠ some .userMain25Win then menu.guiWinAdd .userMain25Win else menu

def lcdtoBackwash : Menu :=
  if menu.guiGetTopWin ≠ some .userMain3Win then
    let cycled := (menu.store (.moto true)).on fun screen =>
      screen.on fun display => { display with moto := display.moto.motoCycle.1 }
    if menu.screen.display.moto.motoCycle.2 then cycled.guiWinAdd .userMain3Win else cycled
  else menu

/-- `JumpToBatteryEmpty` and `JumpToBatteryNew`; the error is counted besides. -/
def jumpToBattery (window : Window) : Menu :=
  if menu.guiGetTopWin = some userMain1Win then menu.guiWinAdd window else menu

def reloadMainWin : Menu :=
  if menu.guiGetTopWin = some userMain1Win then menu.windowFunction userMain1Win else menu

def wifiConnectWinAdd : Menu :=
  if menu.guiGetTopWin ≠ some .winWifiConnect then menu.guiWinAdd .winWifiConnect else menu

def wifiConnectWinDel : Menu :=
  if menu.guiGetTopWin = some .winWifiConnect then menu.guiWinDeleteTop else menu

/-! ## Input functions -/

/-- A click of `Enter` on the selected button of `userMainNWin`. -/
def onEnter (number : Nat) (handle : Menu → Menu) : Menu :=
  menu.onClick .enter fun entered => handle (entered.mark (.enter number entered.nowButtonId))

/-- `Up` among the rows from `first` to `last`. -/
def rowUp (first last : UInt8) : Menu :=
  menu.select (if first < menu.nowButtonId then menu.nowButtonId - 1 else last)

/-- `Down` among the rows from `first` to `last`. -/
def rowDown (first last : UInt8) : Menu :=
  menu.select (if menu.nowButtonId + 1 = last + 1 then first else menu.nowButtonId + 1)

/-- `Up` or `Down` between the first two rows. -/
def rowToggle : Menu :=
  if menu.nowButtonId = 0 then ((menu.setNow 1).setFlag 0 0).setFlag 1 1
  else if menu.nowButtonId = 1 then ((menu.setNow 0).setFlag 0 1).setFlag 1 0
  else menu

/-- `Up` or `Down` in a window with a value in the first row: there the value is
edited, and below it are two answers. -/
def valueKey (edit : Menu → Menu) : Menu :=
  if menu.nowButtonId = 0 then edit menu
  else if menu.nowButtonId = 1 then ((menu.setNow 2).setFlag 1 0).setFlag 2 1
  else if menu.nowButtonId = 2 then ((menu.setNow 1).setFlag 1 1).setFlag 2 0
  else menu

/-- `Enter` in such a window. -/
def valueEnter (save : Menu → Menu) : Menu :=
  if menu.nowButtonId = 0 then ((menu.setNow 1).setFlag 0 0).setFlag 1 1
  else if menu.nowButtonId = 1 then (save menu).guiWinDeleteTop
  else if menu.nowButtonId = 2 then menu.guiWinDeleteTop
  else menu

/-- Another page of the main window. -/
def userMain1Page (button page : UInt8) : Menu :=
  { menu with nowButtonId := button, win1PageId := page }.windowFunction userMain1Win

def userMain1Up : Menu :=
  if menu.nowButtonId = 0 then menu.userMain1Page 4 1
  else if menu.nowButtonId = 4 then menu.userMain1Page 3 2
  else menu.select (menu.nowButtonId - 1)

def userMain1Down : Menu :=
  if menu.nowButtonId = 3 then menu.userMain1Page 4 1
  else if menu.nowButtonId = 4 then menu.userMain1Page 5 0
  else menu.select (menu.nowButtonId + 1)

def userMain1Enter : Menu :=
  let entered := { menu with win1PageId := 0 }
  if menu.nowButtonId = 0 then entered.guiWinAdd (.menuWin 2)
  else if menu.nowButtonId = 1 then entered.guiWinAdd (.menuWin 4)
  else if menu.nowButtonId = 2 then entered.guiWinAdd (.menuWin 5)
  else if menu.nowButtonId = 3 then entered.guiWinAdd (.menuWin 6)
  else if menu.nowButtonId = 4 then entered.guiWinAdd (.menuWin 7)
  else entered

def userMain1Long : Menu := { menu.setNow 0 with win1PageId := 0 }.guiWinAdd (.menuWin 14)

/-- The main window with `Up` and `Down` handled. -/
def userMain1Moved : Menu := (menu.onClick .up userMain1Up).onClick .down userMain1Down

def userMain1InputFun : Menu := (menu.userMain1Moved.onEnter 1 userMain1Enter).onClick .long userMain1Long

def userMain2Enter : Menu :=
  if menu.nowButtonId = 0 then (menu.count 8 .manualBackwash).lcdtoBackwash else menu.guiWinDeleteTop

def userMain2InputFun : Menu :=
  (((menu.onClick .up rowToggle).onClick .down rowToggle).onEnter 2 userMain2Enter).tryTake .long

/-- The event part of `UserMain3InputFun`. -/
def receiveJumpEvent : Menu :=
  match State.recognised menu.screen.display.moto.jumpEvent with
  | some .exit =>
      let cleared := menu.on fun screen => screen.on fun display =>
        { display with moto := { display.moto with jumpEvent := ∅ }, screenReload := true }
      cleared.guiWinDeleteTop.on fun screen => screen.on fun display =>
        { display.call [.ledSelect 0] with motoDone := true }
  | some .tds | some .stalling | some .nomoto =>
      (menu.on fun screen => screen.on State.receiveJumpEvent).operate .errorCounted
  | _ => menu.on fun screen => screen.on State.receiveJumpEvent

/-- `Enter` of `UserMain3InputFun`. -/
def userMain3Enter : Menu :=
  if menu.screen.display.motoDone then
    (menu.on fun screen => screen.on fun display =>
      { display with screenReload := true }.call [.ledSelect 0]).home
  else menu

def userMain3InputFun : Menu :=
  (((menu.receiveJumpEvent.tryTake .up).tryTake .down).onClick .enter userMain3Enter).tryTake .long

def intervalClick (schedule : Schedule) (click : Rtc.Click) : Menu :=
  { menu with windows := menu.windows.step (.click schedule click) }

/-- `Enter` on the rows of `userMain4Win` or `userMain5Win`. -/
def intervalEnter (schedule : Schedule) : Menu :=
  let entered := menu.intervalClick schedule .enter
  if menu.nowSetting = 0 then entered.setFlags [(1, 0), (2, 1), (3, 0)]
  else if menu.nowSetting = 1 then entered.setFlags [(1, 0), (2, 0), (3, 1)]
  else if menu.nowSetting = 2 then
    (entered.mark (.operate (schedule.save (menu.windows.temps schedule)))).guiWinDeleteTop
  else entered

/-- The interval windows with `Up` and `Down` handled. -/
def intervalMoved (schedule : Schedule) : Menu :=
  (menu.onClick .up fun menu => menu.intervalClick schedule .up).onClick .down fun menu =>
    menu.intervalClick schedule .down

/-- The choice 2 of the switch leaves, and returns before the last key. -/
def intervalInputFun (schedule : Schedule) : Menu :=
  let moved := menu.intervalMoved schedule
  if moved.clicked .enter && (moved.windows.temps schedule).enable == 2 then
    ((moved.tryTake .enter).intervalClick schedule .enter).guiWinDeleteTop
  else (moved.onClick .enter fun menu => menu.intervalEnter schedule).tryTake .long

def userMain4InputFun : Menu := menu.intervalInputFun .reminder

def userMain5InputFun : Menu := menu.intervalInputFun .automatic

def deltapressKey : Menu := { menu with deltapressEnableTemp := cNot menu.deltapressEnableTemp }.showDeltapress

def userMain6Enter : Menu := (menu.operate (.deltaSave menu.deltapressEnableTemp)).guiWinDeleteTop

def userMain6InputFun : Menu :=
  (((menu.onClick .up deltapressKey).onClick .down deltapressKey).onClick .enter userMain6Enter).tryTake .long

/-- A window with four rows, of which three open a window and the last one closes this one. -/
def listInputFun (number : Nat) (rows : List Nat) : Menu :=
  (((menu.onClick .up fun menu => menu.rowUp 0 3).onClick .down fun menu => menu.rowDown 0 3).onEnter number
    fun menu =>
      if menu.nowButtonId = 3 then menu.guiWinDeleteTop
      else
        match rows[menu.nowButtonId.toNat]? with
        | some opened => menu.guiWinAdd (.menuWin opened)
        | none => menu).tryTake .long

def userMain7InputFun : Menu := menu.listInputFun 7 [8, 12, 13]

def userMain8InputFun : Menu := menu.listInputFun 8 [9, 10, 11]

/-- `Enter` in a window that shows a counter: the first one on `Reset` asks again, the second resets. -/
def counterEnter (reset : Op) : Menu :=
  if menu.nowButtonId = 1 then
    if menu.confirmed = 0 then { menu with confirmed := 1 }.setFlags [(1, 1), (2, 0)]
    else (menu.operate reset).guiWinDeleteTop
  else if menu.nowButtonId = 2 then menu.guiWinDeleteTop
  else menu

def counterInputFun (number : Nat) (reset : Op) : Menu :=
  (((menu.onClick .up fun menu => menu.rowUp 1 2).onClick .down fun menu => menu.rowDown 1 2).onEnter number
    fun menu => menu.counterEnter reset).tryTake .long

def userMain9InputFun : Menu := menu.counterInputFun 9 .manualReset

def userMain10InputFun : Menu := menu.counterInputFun 10 .automaticReset

def userMain11InputFun : Menu := menu.counterInputFun 11 .deltaReset

def userMain12InputFun : Menu := menu.counterInputFun 12 .errorReset

/-- A window that `Enter` closes. -/
def noteInputFun : Menu :=
  (((menu.tryTake .up).tryTake .down).onClick .enter guiWinDeleteTop).tryTake .long

/-- The page above, and the page below. -/
def userMain14Above : List UInt8 := [7, 4, 5, 6, 7, 4, 5, 6]

def userMain14Below : List UInt8 := [1, 2, 3, 0, 1, 2, 3, 0]

def userMain14Page (pages : List UInt8) : Menu :=
  { menu with win14PageId := pages.getD menu.win14PageId.toNat menu.win14PageId }.windowFunction (.menuWin 14)

def userMain14Up : Menu :=
  if menu.nowButtonId = 0 then menu.userMain14Page userMain14Above else menu.select (menu.nowButtonId - 1)

def userMain14Down : Menu :=
  if menu.nowButtonId = 2 then menu.userMain14Page userMain14Below else menu.select (menu.nowButtonId + 1)

/-- The windows that the rows of the four pages open; the last row is the exit.
The pages come twice, for the way down and for the way up. -/
def userMain14Rows : List (List (Option Nat)) :=
  let pages := [[some 30, some 16, some 17], [some 18, some 19, some 20], [some 31, some 32, some 23],
    [some 28, some 29, none]]
  pages ++ pages

/-- The row that is selected. -/
def userMain14Row : Option (Option Nat) :=
  userMain14Rows[menu.win14PageId.toNat]?.bind fun rows => rows[menu.nowButtonId.toNat]?

/-- The page and the button go back after the row has been carried out. -/
def userMain14Enter : Menu :=
  let entered :=
    match menu.userMain14Row with
    | some (some opened) => menu.guiWinAdd (.menuWin opened)
    | some none => menu.guiWinDeleteTop
    | none => menu
  { entered with win14PageId := 0, nowButtonId := 0 }

/-- The settings menu with `Up` and `Down` handled. -/
def userMain14Moved : Menu := (menu.onClick .up userMain14Up).onClick .down userMain14Down

def userMain14InputFun : Menu := (menu.userMain14Moved.onEnter 14 userMain14Enter).tryTake .long

/-- A window with a value in the first row. -/
def valueInputFun (number : Nat) (up down save : Menu → Menu) : Menu :=
  (((menu.onClick .up fun menu => menu.valueKey up).onClick .down fun menu => menu.valueKey down).onEnter number
    fun menu => menu.valueEnter save).tryTake .long

def hardnessUp : Menu :=
  if menu.setHardnessTemp < 2500 ∧ menu.setHardnessTemp ≠ 0 then
    { menu with setHardnessTemp := menu.setHardnessTemp + 10 }
  else if menu.setHardnessTemp = 0 then { menu with setHardnessTemp := 30 }
  else menu

def hardnessDown : Menu :=
  if 30 < menu.setHardnessTemp then { menu with setHardnessTemp := menu.setHardnessTemp - 10 }
  else if menu.setHardnessTemp = 30 then { menu with setHardnessTemp := 0 }
  else menu

def userMain16InputFun : Menu :=
  menu.valueInputFun 16 hardnessUp hardnessDown fun menu => menu.operate (.tdslimit menu.setHardnessTemp)

def backwashUp : Menu :=
  if menu.setBackwashTemp < 100 then { menu with setBackwashTemp := menu.setBackwashTemp + 1 } else menu

def backwashDown : Menu :=
  if 21 < menu.setBackwashTemp then { menu with setBackwashTemp := menu.setBackwashTemp - 1 } else menu

def userMain17InputFun : Menu :=
  menu.valueInputFun 17 backwashUp backwashDown fun menu => menu.operate (.backwashtime menu.setBackwashTemp)

/-- `device_factory_set`, up to the reset that ends it. -/
def factorySet : Menu :=
  { menu with
    windows := { menu.windows with device := menu.windows.device.flashClear }
    halted := true }

/-- `Enter` of `UserMain19InputFun`; nothing after `device_factory_set` is reached. -/
def userMain19Enter : Menu :=
  if menu.nowButtonId = 0 then
    if menu.confirmed = 0 then { menu with confirmed := 1 }.setFlags [(0, 1), (1, 0)]
    else menu.factorySet.mark .deviceFactorySet
  else if menu.nowButtonId = 1 then menu.guiWinDeleteTop
  else menu

def userMain19InputFun : Menu :=
  (((menu.onClick .up rowToggle).onClick .down rowToggle).onEnter 19 userMain19Enter).tryTake .long

/-- `syr_language_set` draws the window again. -/
def userMain20Enter : Menu :=
  if menu.nowButtonId = 0 ∨ menu.nowButtonId = 1 then
    (menu.operate (.language menu.nowButtonId)).refreshDisplay.guiWinDeleteTop
  else if menu.nowButtonId = 2 then menu.guiWinDeleteTop
  else menu

/-- `Down` is asked for before `Up`. -/
def userMain20InputFun : Menu :=
  (((menu.onClick .down fun menu => menu.rowDown 0 2).onClick .up fun menu => menu.rowUp 0 2).onEnter 20
    userMain20Enter).tryTake .long

/-- `Up` of `UserMain25InputFun`. -/
def userMain25Up : Menu := (menu.on fun screen => screen.call [.insertNotifyArray 0xff]).guiWinDeleteTop

/-- `Enter` of `UserMain25InputFun`; it comes after `Up` even when that has closed the window. -/
def userMain25Enter : Menu :=
  ((menu.on fun screen => screen.call [.insertNotifyArray 0xff]).count 9 .automaticBackwash).lcdtoBackwash

def userMain25InputFun : Menu :=
  (((menu.onClick .up userMain25Up).tryTake .down).onClick .enter userMain25Enter).tryTake .long

/-- `UserMain26InputFun` and `UserMain27InputFun`: both keys close. -/
def batteryInputFun : Menu :=
  (((menu.onClick .up guiWinDeleteTop).tryTake .down).onClick .enter guiWinDeleteTop).tryTake .long

def rangeKey : Menu := { menu with timeRangeTemp := cNot menu.timeRangeTemp }

/-- `Enter` of `UserMain28InputFun`, which lowers the third button too. -/
def userMain28Enter : Menu :=
  if menu.nowButtonId = 0 then (((menu.setNow 1).setFlag 0 0).setFlag 1 1).setFlag 2 0
  else menu.valueEnter fun menu => menu.operate (.range menu.timeRangeTemp.toUInt32)

/-- `Down` is asked for before `Up`. -/
def userMain28InputFun : Menu :=
  (((menu.onClick .down fun menu => menu.valueKey rangeKey).onClick .up fun menu => menu.valueKey rangeKey).onEnter 28
    userMain28Enter).tryTake .long

def calibUp : Menu :=
  { menu with tdsCndValueTemp := if 50 ≤ menu.tdsCndValueTemp then 5 else menu.tdsCndValueTemp + 1 }

def calibDown : Menu :=
  { menu with tdsCndValueTemp := if menu.tdsCndValueTemp ≤ 5 then 50 else menu.tdsCndValueTemp - 1 }

def userMain29InputFun : Menu :=
  menu.valueInputFun 29 calibUp calibDown fun menu => menu.operate (.tdscalib menu.tdsCndValueTemp.toUInt16)

/-- `Enter` of `UserMain31InputFun`. -/
def userMain31Enter : Menu :=
  if menu.screen.nowStatus &&& Screen.downloading = 0 then (menu.on Screen.motoResume).guiWinDeleteTop else menu

def userMain31InputFun : Menu :=
  ((((menu.tryTake .up).tryTake .down).onClick .enter userMain31Enter).tryTake .long).on fun screen =>
    screen.showProgress.showStatus

/-- `ap_timeout_control`, up to its timer. -/
def apSwitch (state : UInt8) : Op := .wifiApEnable (if state ≠ 0 then 1 else 0)

def userMain32Key : Menu := menu.select (cNot menu.nowButtonId)

def userMain32Enter : Menu := (menu.operate (apSwitch menu.nowButtonId)).guiWinDeleteTop

def userMain32InputFun : Menu :=
  (((menu.onClick .up userMain32Key).onClick .down userMain32Key).onEnter 32 userMain32Enter).tryTake .long

/-- The `InputFunction` of `userMainNWin`. -/
def userMainInputFun : Nat → Menu
  | 1 => menu.userMain1InputFun
  | 2 => menu.userMain2InputFun
  | 4 => menu.userMain4InputFun
  | 5 => menu.userMain5InputFun
  | 6 => menu.userMain6InputFun
  | 7 => menu.userMain7InputFun
  | 8 => menu.userMain8InputFun
  | 9 => menu.userMain9InputFun
  | 10 => menu.userMain10InputFun
  | 11 => menu.userMain11InputFun
  | 12 => menu.userMain12InputFun
  | 13 => menu.noteInputFun
  | 14 => menu.userMain14InputFun
  | 16 => menu.userMain16InputFun
  | 17 => menu.userMain17InputFun
  | 18 => menu.noteInputFun
  | 19 => menu.userMain19InputFun
  | 20 => menu.userMain20InputFun
  | 23 => menu.noteInputFun
  | 26 => menu.batteryInputFun
  | 27 => menu.batteryInputFun
  | 28 => menu.userMain28InputFun
  | 29 => menu.userMain29InputFun
  | 30 => menu.noteInputFun
  | 31 => menu.userMain31InputFun
  | 32 => menu.userMain32InputFun
  | _ => menu

/-- `GuiWinDisplay`: the input function of the top window. -/
def guiWinDisplay : Menu :=
  match menu.guiGetTopWin with
  | none => menu
  | some .userMain3Win => menu.userMain3InputFun
  | some .userMain25Win => menu.userMain25InputFun
  | some .winWifiConnect => menu.on fun screen => screen.on State.winWifiInputCallback
  | some (.menuWin number) => menu.userMainInputFun number

end Menu

/-! ## Events -/

/-- Events of the screen that leave the window stack alone. -/
def Screen.Event.still : Screen.Event → Bool
  | .moto _ _ | .ask _ | .cycle _ | .press _ | .doneJumpExpires | .wifiStatusChange _ | .wifiConnectExpires
  | .updateControl _ | .otaTimeout | .wifiProgress _ | .stProgress _ => true
  | _ => false

/-- `syr_wifi_ap_enable_set` is called with 0 and 1 alone. -/
def switchesAp : Op → Bool
  | .wifiApEnable _ => true
  | _ => false

inductive Menu.Event where
  | screen (event : Screen.Event) (still : event.still = true)
  /-- An operation of another thread, a remote command for one. -/
  | store (op : Op) (other : switchesAp op = false)
  | apTimeoutControl (state : UInt8)
  | push (thread : Thread)
  | rtcReminder
  | refreshDisplay
  | lcdRefresh
  | reloadMainWin
  | jumpToBatteryEmpty
  | jumpToBatteryNew
  | wifiConnectStart
  | wifiCloseExpires
  | guiWinDisplay
  | factorySet
  /-- A reset with the RAM the start-up code leaves. -/
  | reboot (left right : Bool) (inputs : Moto.Inputs) (ram : Storage.Ram)

namespace Menu

/-- `userAppPortInit` on a device that has loaded its settings. -/
def boot (left right : Bool) (inputs : Moto.Inputs) (device : Device) : Menu :=
  { screen := Screen.boot left right inputs
    windows :=
      { device := { device with ram := { device.ram with wifiApEnable := 0 } }
        temps := fun _ => { week := 0, day := 0, enable := 0 }
        nowSetting := 0 }
    tButton := fun _ => 0
    nowButtonId := 0
    win1PageId := 0
    win14PageId := 0
    confirmed := 0
    deltapressEnableTemp := 0
    setHardnessTemp := 0
    setBackwashTemp := 0
    timeRangeTemp := 0
    tdsCndValueTemp := 0
    halted := false
    history := [] : Menu }.windowFunction userMain1Win

/-- What a running device does on an event. -/
def respond (menu : Menu) : Event → Menu
  | .screen event _ => menu.on fun screen => screen.step event
  | .store op _ => menu.store op
  | .apTimeoutControl state => menu.store (apSwitch state)
  | .push thread =>
      if menu.screen.phases thread = .accepted then
        (menu.guiWinAdd .userMain3Win).on fun screen => screen.setPhase thread .idle
      else menu
  | .rtcReminder =>
      (menu.on fun screen => screen.on fun display =>
        { display with screenReload := false }.call [.insertNotifyArray 0x07]).lcdtoReminder
  | .refreshDisplay => menu.refreshDisplay
  | .lcdRefresh => menu.lcdRefreshFromSleep
  | .reloadMainWin => menu.reloadMainWin
  | .jumpToBatteryEmpty => (menu.store .errorCounted).jumpToBattery (.menuWin 26)
  | .jumpToBatteryNew => (menu.store .errorCounted).jumpToBattery (.menuWin 27)
  | .wifiConnectStart =>
      menu.wifiConnectWinAdd.on fun screen => { screen with wifiConnectTimer := screen.wifiConnectTimer.start }
  | .wifiCloseExpires =>
      if menu.screen.wifiConnectCloseTimer.active then
        (menu.on fun screen =>
          { screen with wifiConnectCloseTimer := screen.wifiConnectCloseTimer.stop }).wifiConnectWinDel
      else menu
  | .guiWinDisplay => menu.guiWinDisplay
  | .factorySet => menu.factorySet
  | .reboot .. => menu

/-- A reset starts anew whatever goes on. -/
def step (menu : Menu) : Event → Menu
  | .reboot left right inputs ram =>
      { boot left right inputs (Storage.flashInit menu.windows.device.flash ram) with
        history := .windowFunction userMain1Win :: menu.history }
  | event => if menu.halted then menu else menu.respond event

/-- A key and the poll that takes it. -/
def pressed (key : Key) : List Event := [.screen (.press key) rfl, .guiWinDisplay]

end Menu

end SyrFilter.Display
