import SyrFilter.Display.Steady
import SyrFilter.Display.Texts
import SyrFilter.Lib.Runs

namespace SyrFilter.Display

open SyrFilter.Lib
open SyrFilter.Storage (Device Op)
open SyrFilter.Rtc (Schedule)

/-! # The sites that a step comes to

What opens, uncovers or redraws a window runs its window function, and some keys
format on their own.  The functions below go through the handlers of `Menu` once
more for the sites alone, each with the state it is reached in.
-/

/-- A site and the state in which it is reached. -/
abbrev Visit := Menu × Site

namespace Menu

variable (menu : Menu)

def drawSites (window : Window) : List Visit := [(menu, .windowFunction window)]

def guiWinAddSites (window : Window) : List Visit :=
  if menu.stack.length < guiWinManageNum then menu.drawSites window else []

def guiWinDeleteTopSites : List Visit :=
  match menu.stack[1]? with
  | none => []
  | some window => menu.drawSites window

def homeSites : List Visit := (menu.restack [] (Nat.zero_le _)).guiWinAddSites userMain1Win

def refreshDisplaySites : List Visit :=
  match menu.guiGetTopWin with
  | none => []
  | some window => menu.drawSites window

def lcdRefreshFromSleepSites : List Visit :=
  if menu.screen.display.screenReload then
    { menu with windows := menu.windows.step .home, win14PageId := 0 }.homeSites
  else []

def lcdtoReminderSites : List Visit :=
  if menu.guiGetTopWin ≠ some .userMain25Win then menu.guiWinAddSites .userMain25Win else []

def lcdtoBackwashSites : List Visit :=
  if menu.guiGetTopWin ≠ some .userMain3Win then
    let cycled := (menu.store (.moto true)).on fun screen =>
      screen.on fun display => { display with moto := display.moto.motoCycle.1 }
    if menu.screen.display.moto.motoCycle.2 then cycled.guiWinAddSites .userMain3Win else []
  else []

def jumpToBatterySites (window : Window) : List Visit :=
  if menu.guiGetTopWin = some userMain1Win then menu.guiWinAddSites window else []

def reloadMainWinSites : List Visit :=
  if menu.guiGetTopWin = some userMain1Win then menu.drawSites userMain1Win else []

def wifiConnectWinAddSites : List Visit :=
  if menu.guiGetTopWin ≠ some .winWifiConnect then menu.guiWinAddSites .winWifiConnect else []

def wifiConnectWinDelSites : List Visit :=
  if menu.guiGetTopWin = some .winWifiConnect then menu.guiWinDeleteTopSites else []

/-! ## Keys -/

def onClickSites (key : Key) (handle : Menu → List Visit) : List Visit :=
  if menu.clicked key then handle (menu.tryTake key) else []

def onEnterSites (number : Nat) (handle : Menu → List Visit) : List Visit :=
  menu.onClickSites .enter fun entered => handle (entered.mark (.enter number entered.nowButtonId))

/-- The value in the first row is formatted again. -/
def valueKeySites (site : Site) : List Visit := if menu.nowButtonId = 0 then [(menu, site)] else []

def valueEnterSites (save : Menu → Menu) : List Visit :=
  if menu.nowButtonId = 1 then (save menu).guiWinDeleteTopSites
  else if menu.nowButtonId = 2 then menu.guiWinDeleteTopSites
  else []

def userMain1PageSites (button page : UInt8) : List Visit :=
  { menu with nowButtonId := button, win1PageId := page }.drawSites userMain1Win

def userMain1UpSites : List Visit :=
  if menu.nowButtonId = 0 then menu.userMain1PageSites 4 1
  else if menu.nowButtonId = 4 then menu.userMain1PageSites 3 2
  else []

def userMain1DownSites : List Visit :=
  if menu.nowButtonId = 3 then menu.userMain1PageSites 4 1
  else if menu.nowButtonId = 4 then menu.userMain1PageSites 5 0
  else []

def userMain1EnterSites : List Visit :=
  let entered := { menu with win1PageId := 0 }
  if menu.nowButtonId = 0 then entered.guiWinAddSites (.menuWin 2)
  else if menu.nowButtonId = 1 then entered.guiWinAddSites (.menuWin 4)
  else if menu.nowButtonId = 2 then entered.guiWinAddSites (.menuWin 5)
  else if menu.nowButtonId = 3 then entered.guiWinAddSites (.menuWin 6)
  else if menu.nowButtonId = 4 then entered.guiWinAddSites (.menuWin 7)
  else []

def userMain1LongSites : List Visit := { menu.setNow 0 with win1PageId := 0 }.guiWinAddSites (.menuWin 14)

def userMain2EnterSites : List Visit :=
  if menu.nowButtonId = 0 then (menu.count 8 .manualBackwash).lcdtoBackwashSites else menu.guiWinDeleteTopSites

/-- `EXIT` closes the backwash window. -/
def receiveJumpEventSites : List Visit :=
  match State.recognised menu.screen.display.moto.jumpEvent with
  | some .exit =>
      (menu.on fun screen => screen.on fun display =>
        { display with moto := { display.moto with jumpEvent := ∅ }, screenReload := true }).guiWinDeleteTopSites
  | _ => []

def userMain3EnterSites : List Visit :=
  if menu.screen.display.motoDone then
    (menu.on fun screen => screen.on fun display =>
      { display with screenReload := true }.call [.ledSelect 0]).homeSites
  else []

def intervalEnterSites (schedule : Schedule) : List Visit :=
  if menu.nowSetting = 2 then
    ((menu.intervalClick schedule .enter).mark
      (.operate (schedule.save (menu.windows.temps schedule)))).guiWinDeleteTopSites
  else []

def userMain6EnterSites : List Visit := (menu.operate (.deltaSave menu.deltapressEnableTemp)).guiWinDeleteTopSites

def listEnterSites (rows : List Nat) : List Visit :=
  if menu.nowButtonId = 3 then menu.guiWinDeleteTopSites
  else
    match rows[menu.nowButtonId.toNat]? with
    | some opened => menu.guiWinAddSites (.menuWin opened)
    | none => []

def counterEnterSites (reset : Op) : List Visit :=
  if menu.nowButtonId = 1 then
    if menu.confirmed = 0 then [] else (menu.operate reset).guiWinDeleteTopSites
  else if menu.nowButtonId = 2 then menu.guiWinDeleteTopSites
  else []

def userMain14PageSites (pages : List UInt8) : List Visit :=
  { menu with win14PageId := pages.getD menu.win14PageId.toNat menu.win14PageId }.drawSites (.menuWin 14)

def userMain14UpSites : List Visit :=
  if menu.nowButtonId = 0 then menu.userMain14PageSites userMain14Above else []

def userMain14DownSites : List Visit :=
  if menu.nowButtonId = 2 then menu.userMain14PageSites userMain14Below else []

def userMain14EnterSites : List Visit :=
  match menu.userMain14Row with
  | some (some opened) => menu.guiWinAddSites (.menuWin opened)
  | some none => menu.guiWinDeleteTopSites
  | none => []

def userMain19EnterSites : List Visit :=
  if menu.nowButtonId = 1 then menu.guiWinDeleteTopSites else []

def userMain20EnterSites : List Visit :=
  if menu.nowButtonId = 0 ∨ menu.nowButtonId = 1 then
    let chosen := menu.operate (.language menu.nowButtonId)
    chosen.refreshDisplaySites ++ chosen.refreshDisplay.guiWinDeleteTopSites
  else if menu.nowButtonId = 2 then menu.guiWinDeleteTopSites
  else []

def userMain25UpSites : List Visit := (menu.on fun screen => screen.call [.insertNotifyArray 0xff]).guiWinDeleteTopSites

def userMain25EnterSites : List Visit :=
  ((menu.on fun screen => screen.call [.insertNotifyArray 0xff]).count 9 .automaticBackwash).lcdtoBackwashSites

def userMain31EnterSites : List Visit :=
  if menu.screen.nowStatus &&& Screen.downloading = 0 then (menu.on Screen.motoResume).guiWinDeleteTopSites else []

def userMain32EnterSites : List Visit := (menu.operate (apSwitch menu.nowButtonId)).guiWinDeleteTopSites

/-! ## Input functions -/

def userMain1InputFunSites : List Visit :=
  menu.onClickSites .up userMain1UpSites ++
    ((menu.onClick .up userMain1Up).onClickSites .down userMain1DownSites ++
      (menu.userMain1Moved.onEnterSites 1 userMain1EnterSites ++
        (menu.userMain1Moved.onEnter 1 userMain1Enter).onClickSites .long userMain1LongSites))

def userMain2InputFunSites : List Visit :=
  ((menu.onClick .up rowToggle).onClick .down rowToggle).onEnterSites 2 userMain2EnterSites

def userMain3InputFunSites : List Visit :=
  menu.receiveJumpEventSites ++
    ((menu.receiveJumpEvent.tryTake .up).tryTake .down).onClickSites .enter userMain3EnterSites

/-- Both keys format, and what leaves the window runs the window function below. -/
def intervalInputFunSites (schedule : Schedule) : List Visit :=
  let moved := menu.intervalMoved schedule
  menu.onClickSites .up (fun menu => [(menu, .intervalUp schedule)]) ++
    ((menu.onClick .up fun menu => menu.intervalClick schedule .up).onClickSites .down
        (fun menu => [(menu, .intervalDown schedule)]) ++
      if moved.clicked .enter && (moved.windows.temps schedule).enable == 2 then
        ((moved.tryTake .enter).intervalClick schedule .enter).guiWinDeleteTopSites
      else moved.onClickSites .enter fun menu => menu.intervalEnterSites schedule)

def userMain6InputFunSites : List Visit :=
  ((menu.onClick .up deltapressKey).onClick .down deltapressKey).onClickSites .enter userMain6EnterSites

def listInputFunSites (number : Nat) (rows : List Nat) : List Visit :=
  ((menu.onClick .up fun menu => menu.rowUp 0 3).onClick .down fun menu => menu.rowDown 0 3).onEnterSites number
    fun menu => menu.listEnterSites rows

def counterInputFunSites (number : Nat) (reset : Op) : List Visit :=
  ((menu.onClick .up fun menu => menu.rowUp 1 2).onClick .down fun menu => menu.rowDown 1 2).onEnterSites number
    fun menu => menu.counterEnterSites reset

def noteInputFunSites : List Visit :=
  ((menu.tryTake .up).tryTake .down).onClickSites .enter guiWinDeleteTopSites

def userMain14InputFunSites : List Visit :=
  menu.onClickSites .up userMain14UpSites ++
    ((menu.onClick .up userMain14Up).onClickSites .down userMain14DownSites ++
      menu.userMain14Moved.onEnterSites 14 userMain14EnterSites)

/-- A window with a value that both keys format again. -/
def valueInputFunSites (number : Nat) (up down save : Menu → Menu) (above below : Site) : List Visit :=
  let moved := menu.onClick .up fun menu => menu.valueKey up
  menu.onClickSites .up (fun menu => menu.valueKeySites above) ++
    (moved.onClickSites .down (fun menu => menu.valueKeySites below) ++
      (moved.onClick .down fun menu => menu.valueKey down).onEnterSites number fun menu => menu.valueEnterSites save)

def userMain16InputFunSites : List Visit :=
  menu.valueInputFunSites 16 hardnessUp hardnessDown (fun menu => menu.operate (.tdslimit menu.setHardnessTemp))
    .hardnessUp .hardnessDown

def userMain17InputFunSites : List Visit :=
  menu.valueInputFunSites 17 backwashUp backwashDown (fun menu => menu.operate (.backwashtime menu.setBackwashTemp))
    .backwashUp .backwashDown

def userMain19InputFunSites : List Visit :=
  ((menu.onClick .up rowToggle).onClick .down rowToggle).onEnterSites 19 userMain19EnterSites

def userMain20InputFunSites : List Visit :=
  ((menu.onClick .down fun menu => menu.rowDown 0 2).onClick .up fun menu => menu.rowUp 0 2).onEnterSites 20
    userMain20EnterSites

def userMain25InputFunSites : List Visit :=
  menu.onClickSites .up userMain25UpSites ++
    ((menu.onClick .up userMain25Up).tryTake .down).onClickSites .enter userMain25EnterSites

def batteryInputFunSites : List Visit :=
  menu.onClickSites .up guiWinDeleteTopSites ++
    ((menu.onClick .up guiWinDeleteTop).tryTake .down).onClickSites .enter guiWinDeleteTopSites

def userMain28InputFunSites : List Visit :=
  ((menu.onClick .down fun menu => menu.valueKey rangeKey).onClick .up fun menu =>
    menu.valueKey rangeKey).onEnterSites 28 fun menu =>
      menu.valueEnterSites fun menu => menu.operate (.range menu.timeRangeTemp.toUInt32)

def userMain29InputFunSites : List Visit :=
  ((menu.onClick .up fun menu => menu.valueKey calibUp).onClick .down fun menu =>
    menu.valueKey calibDown).onEnterSites 29 fun menu =>
      menu.valueEnterSites fun menu => menu.operate (.tdscalib menu.tdsCndValueTemp.toUInt16)

def userMain31InputFunSites : List Visit :=
  ((menu.tryTake .up).tryTake .down).onClickSites .enter userMain31EnterSites

def userMain32InputFunSites : List Visit :=
  ((menu.onClick .up userMain32Key).onClick .down userMain32Key).onEnterSites 32 userMain32EnterSites

/-- `TDS_Work` is asked before the keys. -/
def userMain23InputFunSites (tdsValue : UInt32) : List Visit :=
  (menu, .userMain23InputFun tdsValue) :: menu.noteInputFunSites

def userMainInputFunSites (tdsValue : UInt32) : Nat → List Visit
  | 1 => menu.userMain1InputFunSites
  | 2 => menu.userMain2InputFunSites
  | 4 => menu.intervalInputFunSites .reminder
  | 5 => menu.intervalInputFunSites .automatic
  | 6 => menu.userMain6InputFunSites
  | 7 => menu.listInputFunSites 7 [8, 12, 13]
  | 8 => menu.listInputFunSites 8 [9, 10, 11]
  | 9 => menu.counterInputFunSites 9 .manualReset
  | 10 => menu.counterInputFunSites 10 .automaticReset
  | 11 => menu.counterInputFunSites 11 .deltaReset
  | 12 => menu.counterInputFunSites 12 .errorReset
  | 13 => menu.noteInputFunSites
  | 14 => menu.userMain14InputFunSites
  | 16 => menu.userMain16InputFunSites
  | 17 => menu.userMain17InputFunSites
  | 18 => menu.noteInputFunSites
  | 19 => menu.userMain19InputFunSites
  | 20 => menu.userMain20InputFunSites
  | 23 => menu.userMain23InputFunSites tdsValue
  | 26 => menu.batteryInputFunSites
  | 27 => menu.batteryInputFunSites
  | 28 => menu.userMain28InputFunSites
  | 29 => menu.userMain29InputFunSites
  | 30 => menu.noteInputFunSites
  | 31 => menu.userMain31InputFunSites
  | 32 => menu.userMain32InputFunSites
  | _ => []

def guiWinDisplaySites (tdsValue : UInt32) : List Visit :=
  match menu.guiGetTopWin with
  | none => []
  | some .userMain3Win => menu.userMain3InputFunSites
  | some .userMain25Win => menu.userMain25InputFunSites
  | some .winWifiConnect => []
  | some (.menuWin number) => menu.userMainInputFunSites tdsValue number

/-! ## Events -/

def respondSites (tdsValue : UInt32) : Event → List Visit
  | .push thread =>
      if menu.screen.phases thread = .accepted then menu.guiWinAddSites .userMain3Win else []
  | .rtcReminder =>
      (menu.on fun screen => screen.on fun display =>
        { display with screenReload := false }.call [.insertNotifyArray 0x07]).lcdtoReminderSites
  | .refreshDisplay => menu.refreshDisplaySites
  | .lcdRefresh => menu.lcdRefreshFromSleepSites
  | .reloadMainWin => menu.reloadMainWinSites
  | .jumpToBatteryEmpty => (menu.store .errorCounted).jumpToBatterySites (.menuWin 26)
  | .jumpToBatteryNew => (menu.store .errorCounted).jumpToBatterySites (.menuWin 27)
  | .wifiConnectStart => menu.wifiConnectWinAddSites
  | .wifiCloseExpires =>
      if menu.screen.wifiConnectCloseTimer.active then
        (menu.on fun screen =>
          { screen with wifiConnectCloseTimer := screen.wifiConnectCloseTimer.stop }).wifiConnectWinDelSites
      else []
  | .guiWinDisplay => menu.guiWinDisplaySites tdsValue
  | _ => []

/-- The sites of a step, with what `TDS_Work` returns in it. -/
def stepSites (tdsValue : UInt32) : Event → List Visit
  | .reboot left right inputs ram =>
      (boot left right inputs (Storage.flashInit menu.windows.device.flash ram)).drawSites userMain1Win
  | event => if menu.halted then [] else menu.respondSites tdsValue event

/-! ## The window functions among them

The history records the window functions that have run, so that the sites of a
step can be held against it.
-/

def drawnWindow : Mark → Option Window
  | .windowFunction window => some window
  | _ => none

def drawnBy : Visit → Option Window
  | (_, .windowFunction window) => some window
  | _ => none

/-- The window functions that have run, the newest first. -/
def drawn : List Window := menu.history.filterMap drawnWindow

/-- From the one state to the other the window functions of the visits have run, in their order. -/
def Draws (before after : Menu) (visits : List Visit) : Prop :=
  after.drawn = (visits.filterMap drawnBy).reverse ++ before.drawn

variable {menu} {before middle after : Menu} {first second : List Visit} {window : Window} {key : Key}

theorem Draws.trans (earlier : Draws before middle first) (later : Draws middle after second) :
    Draws before after (first ++ second) := by
  rw [Draws, later, earlier, List.filterMap_append, List.reverse_append, List.append_assoc]

/-- Nothing is drawn before. -/
theorem Draws.behind (silent : Draws before middle []) (later : Draws middle after second) :
    Draws before after second :=
  silent.trans later

/-- Nothing is drawn after. -/
theorem Draws.ahead (earlier : Draws before middle first) (silent : Draws middle after []) :
    Draws before after first :=
  (List.append_nil first) ▸ earlier.trans silent

theorem draws_nothing (same : after.history = before.history) : Draws before after [] :=
  congrArg (List.filterMap drawnWindow) same

theorem on_draws (change : Screen → Screen) : Draws menu (menu.on change) [] := draws_nothing rfl

theorem Quiet.draws (quiet : Quiet before after) : Draws before after [] := draws_nothing quiet.history

theorem mark_draws {made : Mark} (other : drawnWindow made = none) : Draws menu (menu.mark made) [] := by
  rw [Draws, drawn, mark, List.filterMap_cons, other]
  rfl

theorem operate_draws (op : Op) : Draws menu (menu.operate op) [] :=
  (store_quiet op).draws.trans (mark_draws rfl)

theorem count_draws (number : Nat) (op : Op) : Draws menu (menu.count number op) [] :=
  (call_apart _).draws.trans (operate_draws op)

theorem setFlags_draws (flags : List (UInt8 × UInt8)) : Draws menu (menu.setFlags flags) [] :=
  (setFlags_steady flags).draws

theorem windowFunction_draws : Draws menu (menu.windowFunction window) (menu.drawSites window) := by
  rw [Draws, drawn, windowFunction_history]
  rfl

theorem Draws.guarded {condition : Prop} [Decidable condition] (draws : Draws before after first) :
    Draws before (if condition then after else before) (if condition then first else []) := by
  split
  · exact draws
  · exact draws_nothing rfl

/-! ## Opening and closing -/

theorem guiWinAdd_draws : Draws menu (menu.guiWinAdd window) (menu.guiWinAddSites window) := by
  rw [guiWinAdd, guiWinAddSites]
  split
  · exact windowFunction_draws
  · exact draws_nothing rfl

theorem guiWinDeleteTop_draws : Draws menu menu.guiWinDeleteTop menu.guiWinDeleteTopSites := by
  rw [guiWinDeleteTop, guiWinDeleteTopSites]
  cases under : menu.stack[1]? with
  | none => exact draws_nothing rfl
  | some window => exact windowFunction_draws

theorem home_draws : Draws menu menu.home menu.homeSites :=
  (draws_nothing rfl : Draws menu (menu.restack [] (Nat.zero_le _)) []).behind guiWinAdd_draws

theorem refreshDisplay_draws : Draws menu menu.refreshDisplay menu.refreshDisplaySites := by
  rw [refreshDisplay, refreshDisplaySites]
  cases menu.guiGetTopWin with
  | none => exact draws_nothing rfl
  | some window => exact windowFunction_draws

theorem lcdRefreshFromSleep_draws : Draws menu menu.lcdRefreshFromSleep menu.lcdRefreshFromSleepSites :=
  Draws.guarded (Draws.behind (draws_nothing rfl) home_draws)

theorem lcdtoReminder_draws : Draws menu menu.lcdtoReminder menu.lcdtoReminderSites :=
  guiWinAdd_draws.guarded

theorem lcdtoBackwash_draws : Draws menu menu.lcdtoBackwash menu.lcdtoBackwashSites := by
  refine Draws.guarded ?_
  dsimp only
  split
  · exact motoCycle_quiet.draws.behind guiWinAdd_draws
  · exact motoCycle_quiet.draws

theorem jumpToBattery_draws : Draws menu (menu.jumpToBattery window) (menu.jumpToBatterySites window) :=
  guiWinAdd_draws.guarded

theorem reloadMainWin_draws : Draws menu menu.reloadMainWin menu.reloadMainWinSites :=
  windowFunction_draws.guarded

theorem wifiConnectWinAdd_draws : Draws menu menu.wifiConnectWinAdd menu.wifiConnectWinAddSites :=
  guiWinAdd_draws.guarded

theorem wifiConnectWinDel_draws : Draws menu menu.wifiConnectWinDel menu.wifiConnectWinDelSites :=
  guiWinDeleteTop_draws.guarded

/-! ## Keys and input functions -/

theorem tryTake_draws (key : Key) : Draws menu (menu.tryTake key) [] := (tryTake_apart key).draws

section Clicks

variable {handle : Menu → Menu} {handleSites : Menu → List Visit}

theorem onClick_draws (draws : ∀ menu : Menu, Draws menu (handle menu) (handleSites menu)) :
    Draws menu (menu.onClick key handle) (menu.onClickSites key handleSites) := by
  rw [onClick, onClickSites]
  split
  · exact (tryTake_draws key).behind (draws _)
  · exact tryTake_draws key

theorem onEnter_draws {number : Nat} (draws : ∀ menu : Menu, Draws menu (handle menu) (handleSites menu)) :
    Draws menu (menu.onEnter number handle) (menu.onEnterSites number handleSites) :=
  onClick_draws fun _ => (mark_draws rfl).behind (draws _)

/-- A key that opens, closes and redraws nothing. -/
theorem onClick_draws_nothing (silent : ∀ menu : Menu, Draws menu (handle menu) []) :
    Draws menu (menu.onClick key handle) [] := by
  rw [onClick]
  split
  · exact (tryTake_draws key).behind (silent _)
  · exact tryTake_draws key

end Clicks

theorem rowUp_draws (first last : UInt8) : Draws menu (menu.rowUp first last) [] := (rowUp_steady first last).draws

theorem rowDown_draws (first last : UInt8) : Draws menu (menu.rowDown first last) [] :=
  (rowDown_steady first last).draws

theorem rowToggle_draws : Draws menu menu.rowToggle [] := rowToggle_steady.draws

theorem valueEnter_draws {save : Menu → Menu} (saves : ∀ menu : Menu, Draws menu (save menu) []) :
    Draws menu (menu.valueEnter save) (menu.valueEnterSites save) := by
  rw [valueEnter, valueEnterSites]
  by_cases value : menu.nowButtonId = 0
  · rw [if_pos value, value]
    exact draws_nothing rfl
  · rw [if_neg value]
    split
    · exact (saves menu).behind guiWinDeleteTop_draws
    split
    · exact guiWinDeleteTop_draws
    · exact draws_nothing rfl

theorem userMain1Page_draws (button page : UInt8) :
    Draws menu (menu.userMain1Page button page) (menu.userMain1PageSites button page) :=
  (draws_nothing rfl : Draws menu { menu with nowButtonId := button, win1PageId := page } []).behind
    windowFunction_draws

theorem userMain1Up_draws : Draws menu menu.userMain1Up menu.userMain1UpSites := by
  rw [userMain1Up, userMain1UpSites]
  split
  · exact userMain1Page_draws ..
  split
  · exact userMain1Page_draws ..
  · exact draws_nothing rfl

theorem userMain1Down_draws : Draws menu menu.userMain1Down menu.userMain1DownSites := by
  rw [userMain1Down, userMain1DownSites]
  split
  · exact userMain1Page_draws ..
  split
  · exact userMain1Page_draws ..
  · exact draws_nothing rfl

theorem userMain1Enter_draws : Draws menu menu.userMain1Enter menu.userMain1EnterSites := by
  have entered : Draws menu { menu with win1PageId := 0 } [] := draws_nothing rfl
  rw [userMain1Enter, userMain1EnterSites]
  split
  · exact entered.behind guiWinAdd_draws
  split
  · exact entered.behind guiWinAdd_draws
  split
  · exact entered.behind guiWinAdd_draws
  split
  · exact entered.behind guiWinAdd_draws
  split
  · exact entered.behind guiWinAdd_draws
  · exact entered

theorem userMain1Long_draws : Draws menu menu.userMain1Long menu.userMain1LongSites :=
  (draws_nothing rfl : Draws menu { menu.setNow 0 with win1PageId := 0 } []).behind guiWinAdd_draws

theorem userMain1InputFun_draws : Draws menu menu.userMain1InputFun menu.userMain1InputFunSites := by
  have up : Draws menu (menu.onClick .up userMain1Up) _ := onClick_draws fun _ => userMain1Up_draws
  have down : Draws _ menu.userMain1Moved _ := onClick_draws fun _ => userMain1Down_draws
  have enter : Draws _ (menu.userMain1Moved.onEnter 1 userMain1Enter) _ := onEnter_draws fun _ => userMain1Enter_draws
  exact up.trans (down.trans (enter.trans (onClick_draws fun _ => userMain1Long_draws)))

theorem userMain2Enter_draws : Draws menu menu.userMain2Enter menu.userMain2EnterSites := by
  rw [userMain2Enter, userMain2EnterSites]
  split
  · exact (count_draws 8 .manualBackwash).behind lcdtoBackwash_draws
  · exact guiWinDeleteTop_draws

theorem rowToggles_draw :
    Draws menu ((menu.onClick .up rowToggle).onClick .down rowToggle) [] :=
  (onClick_draws_nothing fun _ => rowToggle_draws).behind (onClick_draws_nothing fun _ => rowToggle_draws)

theorem userMain2InputFun_draws : Draws menu menu.userMain2InputFun menu.userMain2InputFunSites :=
  (rowToggles_draw.behind (onEnter_draws fun _ => userMain2Enter_draws)).ahead (tryTake_draws .long)

theorem receiveJumpEvent_draws : Draws menu menu.receiveJumpEvent menu.receiveJumpEventSites := by
  have received : Draws menu (menu.on fun screen => screen.on State.receiveJumpEvent) [] := on_draws _
  unfold receiveJumpEvent receiveJumpEventSites
  cases State.recognised menu.screen.display.moto.jumpEvent with
  | none => exact received
  | some event =>
      cases event with
      | exit =>
          exact ((on_draws _).behind guiWinDeleteTop_draws).ahead (on_draws _)
      | tds | stalling | nomoto => exact received.trans (operate_draws .errorCounted)
      | _ => exact received

theorem userMain3Enter_draws : Draws menu menu.userMain3Enter menu.userMain3EnterSites := by
  rw [userMain3Enter, userMain3EnterSites]
  split
  · exact (on_draws _).behind home_draws
  · exact draws_nothing rfl

theorem userMain3InputFun_draws : Draws menu menu.userMain3InputFun menu.userMain3InputFunSites := by
  have up : Draws _ (menu.receiveJumpEvent.tryTake .up) [] := tryTake_draws .up
  have down : Draws _ ((menu.receiveJumpEvent.tryTake .up).tryTake .down) [] := tryTake_draws .down
  have enter : Draws _ (((menu.receiveJumpEvent.tryTake .up).tryTake .down).onClick .enter userMain3Enter) _ :=
    onClick_draws fun _ => userMain3Enter_draws
  exact receiveJumpEvent_draws.trans ((up.behind (down.behind enter)).ahead (tryTake_draws .long))

theorem intervalEnter_draws (schedule : Schedule) :
    Draws menu (menu.intervalEnter schedule) (menu.intervalEnterSites schedule) := by
  have entered : Draws menu (menu.intervalClick schedule .enter) [] := (intervalClick_quiet schedule .enter).draws
  rw [intervalEnter, intervalEnterSites]
  by_cases week : menu.nowSetting = 0
  · rw [if_pos week, week]
    exact entered.trans (setFlags_draws _)
  rw [if_neg week]
  by_cases day : menu.nowSetting = 1
  · rw [if_pos day, day]
    exact entered.trans (setFlags_draws _)
  rw [if_neg day]
  split
  · exact (entered.trans (mark_draws rfl)).behind guiWinDeleteTop_draws
  · exact entered

/-- A site that is no window function. -/
theorem key_draws {site : Site} (silent : Draws before after []) (key : drawnBy (menu, site) = none) :
    Draws before after [(menu, site)] := by
  rw [Draws, List.filterMap_cons, key]
  exact silent

theorem intervalInputFun_draws (schedule : Schedule) :
    Draws menu (menu.intervalInputFun schedule) (menu.intervalInputFunSites schedule) := by
  have up : ∀ menu : Menu, Draws menu (menu.intervalClick schedule .up) [(menu, .intervalUp schedule)] :=
    fun _ => key_draws (intervalClick_quiet schedule .up).draws rfl
  have down : ∀ menu : Menu, Draws menu (menu.intervalClick schedule .down) [(menu, .intervalDown schedule)] :=
    fun _ => key_draws (intervalClick_quiet schedule .down).draws rfl
  refine (onClick_draws up).trans ((onClick_draws down).trans ?_)
  change Draws (menu.intervalMoved schedule) _ _
  rw [intervalInputFun]
  split
  · exact ((tryTake_draws .enter).trans (intervalClick_quiet schedule .enter).draws).behind guiWinDeleteTop_draws
  · exact (onClick_draws fun _ => intervalEnter_draws schedule).ahead (tryTake_draws .long)

theorem deltapressKey_draws : Draws menu menu.deltapressKey [] := deltapressKey_steady.draws

theorem userMain6InputFun_draws : Draws menu menu.userMain6InputFun menu.userMain6InputFunSites := by
  have moved : Draws menu ((menu.onClick .up deltapressKey).onClick .down deltapressKey) [] :=
    (onClick_draws_nothing fun _ => deltapressKey_draws).behind (onClick_draws_nothing fun _ => deltapressKey_draws)
  have enter : Draws _ (((menu.onClick .up deltapressKey).onClick .down deltapressKey).onClick .enter
      userMain6Enter) _ := onClick_draws fun _ => (operate_draws _).behind guiWinDeleteTop_draws
  exact (moved.behind enter).ahead (tryTake_draws .long)

/-- Both keys move among the rows. -/
theorem rows_draw (first last : UInt8) :
    Draws menu ((menu.onClick .up fun menu => menu.rowUp first last).onClick .down fun menu =>
      menu.rowDown first last) [] :=
  (onClick_draws_nothing fun _ => rowUp_draws first last).behind
    (onClick_draws_nothing fun _ => rowDown_draws first last)

theorem listInputFun_draws (number : Nat) (rows : List Nat) :
    Draws menu (menu.listInputFun number rows) (menu.listInputFunSites number rows) := by
  refine ((rows_draw 0 3).behind (onEnter_draws fun entered => ?_)).ahead (tryTake_draws .long)
  rw [listEnterSites]
  split
  · exact guiWinDeleteTop_draws
  · cases rows[entered.nowButtonId.toNat]? with
    | none => exact draws_nothing rfl
    | some opened => exact guiWinAdd_draws

theorem counterEnter_draws (reset : Op) : Draws menu (menu.counterEnter reset) (menu.counterEnterSites reset) := by
  rw [counterEnter, counterEnterSites]
  split
  · split
    · exact draws_nothing rfl
    · exact (operate_draws reset).behind guiWinDeleteTop_draws
  split
  · exact guiWinDeleteTop_draws
  · exact draws_nothing rfl

theorem counterInputFun_draws (number : Nat) (reset : Op) :
    Draws menu (menu.counterInputFun number reset) (menu.counterInputFunSites number reset) :=
  ((rows_draw 1 2).behind (onEnter_draws fun _ => counterEnter_draws reset)).ahead (tryTake_draws .long)

/-- `Up` and `Down` that nothing is done with. -/
theorem taken_draw : Draws menu ((menu.tryTake .up).tryTake .down) [] :=
  (tryTake_draws .up).behind (tryTake_draws .down)

theorem noteInputFun_draws : Draws menu menu.noteInputFun menu.noteInputFunSites :=
  (taken_draw.behind (onClick_draws fun _ => guiWinDeleteTop_draws)).ahead (tryTake_draws .long)

theorem userMain14Page_draws (pages : List UInt8) :
    Draws menu (menu.userMain14Page pages) (menu.userMain14PageSites pages) :=
  Draws.behind (draws_nothing rfl) windowFunction_draws

theorem userMain14Up_draws : Draws menu menu.userMain14Up menu.userMain14UpSites := by
  rw [userMain14Up, userMain14UpSites]
  split
  · exact userMain14Page_draws _
  · exact (select_steady _).draws

theorem userMain14Down_draws : Draws menu menu.userMain14Down menu.userMain14DownSites := by
  rw [userMain14Down, userMain14DownSites]
  split
  · exact userMain14Page_draws _
  · exact (select_steady _).draws

theorem userMain14Enter_draws : Draws menu menu.userMain14Enter menu.userMain14EnterSites := by
  rw [userMain14Enter, userMain14EnterSites]
  cases menu.userMain14Row with
  | none => exact draws_nothing rfl
  | some row =>
      cases row with
      | none => exact (@guiWinDeleteTop_draws menu).ahead (draws_nothing rfl)
      | some opened => exact (@guiWinAdd_draws menu (.menuWin opened)).ahead (draws_nothing rfl)

theorem userMain14InputFun_draws : Draws menu menu.userMain14InputFun menu.userMain14InputFunSites := by
  have up : Draws menu (menu.onClick .up userMain14Up) _ := onClick_draws fun _ => userMain14Up_draws
  have down : Draws _ menu.userMain14Moved _ := onClick_draws fun _ => userMain14Down_draws
  exact up.trans (down.trans ((onEnter_draws fun _ => userMain14Enter_draws).ahead (tryTake_draws .long)))

theorem valueKey_draws {edit : Menu → Menu} (edits : ∀ menu : Menu, Steady menu (edit menu)) :
    Draws menu (menu.valueKey edit) [] :=
  (valueKey_steady (edits menu)).draws

theorem valueKeySites_draws {edit : Menu → Menu} (edits : ∀ menu : Menu, Steady menu (edit menu)) {site : Site}
    (key : drawnBy (menu, site) = none) : Draws menu (menu.valueKey edit) (menu.valueKeySites site) := by
  rw [valueKeySites]
  split
  · exact key_draws (valueKey_draws edits) key
  · exact valueKey_draws edits

/-- Both keys edit, and no other window comes up. -/
theorem valueKeys_draw {up down : Menu → Menu} (above : ∀ menu : Menu, Steady menu (up menu))
    (below : ∀ menu : Menu, Steady menu (down menu)) :
    Draws menu ((menu.onClick .up fun menu => menu.valueKey up).onClick .down fun menu => menu.valueKey down) [] :=
  (onClick_draws_nothing fun _ => valueKey_draws above).behind (onClick_draws_nothing fun _ => valueKey_draws below)

theorem valueInputFun_draws (number : Nat) {up down save : Menu → Menu} {above below : Site}
    (raises : ∀ menu : Menu, Draws menu (menu.valueKey up) (menu.valueKeySites above))
    (lowers : ∀ menu : Menu, Draws menu (menu.valueKey down) (menu.valueKeySites below))
    (saves : ∀ menu : Menu, Draws menu (save menu) []) :
    Draws menu (menu.valueInputFun number up down save)
      (menu.valueInputFunSites number up down save above below) := by
  refine (onClick_draws raises).trans ((onClick_draws lowers).trans ?_)
  exact (onEnter_draws fun _ => valueEnter_draws saves).ahead (tryTake_draws .long)

theorem userMain16InputFun_draws : Draws menu menu.userMain16InputFun menu.userMain16InputFunSites := by
  apply valueInputFun_draws
  · exact fun _ => valueKeySites_draws (fun _ => hardnessUp_apart.toSteady) rfl
  · exact fun _ => valueKeySites_draws (fun _ => hardnessDown_apart.toSteady) rfl
  · exact fun _ => operate_draws _

theorem userMain17InputFun_draws : Draws menu menu.userMain17InputFun menu.userMain17InputFunSites := by
  apply valueInputFun_draws
  · exact fun _ => valueKeySites_draws (fun _ => backwashUp_apart.toSteady) rfl
  · exact fun _ => valueKeySites_draws (fun _ => backwashDown_apart.toSteady) rfl
  · exact fun _ => operate_draws _

theorem userMain19Enter_draws : Draws menu menu.userMain19Enter menu.userMain19EnterSites := by
  rw [userMain19Enter, userMain19EnterSites]
  by_cases reset : menu.nowButtonId = 0
  · rw [if_pos reset, reset]
    split
    · exact draws_nothing rfl
    · exact mark_draws rfl
  · rw [if_neg reset]
    split
    · exact guiWinDeleteTop_draws
    · exact draws_nothing rfl

theorem userMain19InputFun_draws : Draws menu menu.userMain19InputFun menu.userMain19InputFunSites :=
  (rowToggles_draw.behind (onEnter_draws fun _ => userMain19Enter_draws)).ahead (tryTake_draws .long)

theorem userMain20Enter_draws : Draws menu menu.userMain20Enter menu.userMain20EnterSites := by
  rw [userMain20Enter, userMain20EnterSites]
  split
  · exact (operate_draws _).behind (refreshDisplay_draws.trans guiWinDeleteTop_draws)
  split
  · exact guiWinDeleteTop_draws
  · exact draws_nothing rfl

theorem userMain20InputFun_draws : Draws menu menu.userMain20InputFun menu.userMain20InputFunSites := by
  have moved : Draws menu ((menu.onClick .down fun menu => menu.rowDown 0 2).onClick .up fun menu => menu.rowUp 0 2) [] :=
    (onClick_draws_nothing fun _ => rowDown_draws 0 2).behind (onClick_draws_nothing fun _ => rowUp_draws 0 2)
  exact (moved.behind (onEnter_draws fun _ => userMain20Enter_draws)).ahead (tryTake_draws .long)

theorem userMain25Enter_draws : Draws menu menu.userMain25Enter menu.userMain25EnterSites :=
  ((on_draws _).trans (count_draws 9 .automaticBackwash)).behind lcdtoBackwash_draws

theorem userMain25InputFun_draws : Draws menu menu.userMain25InputFun menu.userMain25InputFunSites := by
  have up : Draws menu (menu.onClick .up userMain25Up) (menu.onClickSites .up userMain25UpSites) :=
    onClick_draws fun _ => (on_draws _).behind guiWinDeleteTop_draws
  have down : Draws _ ((menu.onClick .up userMain25Up).tryTake .down) [] := tryTake_draws .down
  exact up.trans ((down.behind (onClick_draws fun _ => userMain25Enter_draws)).ahead (tryTake_draws .long))

theorem batteryInputFun_draws : Draws menu menu.batteryInputFun menu.batteryInputFunSites := by
  have up : Draws menu (menu.onClick .up guiWinDeleteTop) (menu.onClickSites .up guiWinDeleteTopSites) :=
    onClick_draws fun _ => guiWinDeleteTop_draws
  have down : Draws _ ((menu.onClick .up guiWinDeleteTop).tryTake .down) [] := tryTake_draws .down
  exact up.trans ((down.behind (onClick_draws fun _ => guiWinDeleteTop_draws)).ahead (tryTake_draws .long))

theorem userMain28Enter_draws : Draws menu menu.userMain28Enter
    (menu.valueEnterSites fun menu => menu.operate (.range menu.timeRangeTemp.toUInt32)) := by
  rw [userMain28Enter]
  split
  · rename_i value
    rw [valueEnterSites, value]
    exact draws_nothing rfl
  · exact valueEnter_draws fun _ => operate_draws _

theorem userMain28InputFun_draws : Draws menu menu.userMain28InputFun menu.userMain28InputFunSites := by
  have key : ∀ menu : Menu, Draws menu (menu.valueKey rangeKey) [] := fun _ => valueKey_draws fun _ => rangeKey_steady
  have moved : Draws menu ((menu.onClick .down fun menu => menu.valueKey rangeKey).onClick .up fun menu =>
      menu.valueKey rangeKey) [] := (onClick_draws_nothing key).behind (onClick_draws_nothing key)
  exact (moved.behind (onEnter_draws fun _ => userMain28Enter_draws)).ahead (tryTake_draws .long)

theorem userMain29InputFun_draws : Draws menu menu.userMain29InputFun menu.userMain29InputFunSites := by
  refine ((valueKeys_draw (fun _ => calibUp_steady) fun _ => calibDown_steady).behind
    (onEnter_draws fun _ => ?_)).ahead (tryTake_draws .long)
  exact valueEnter_draws fun _ => operate_draws _

theorem userMain31Enter_draws : Draws menu menu.userMain31Enter menu.userMain31EnterSites := by
  rw [userMain31Enter, userMain31EnterSites]
  split
  · exact (on_draws _).behind guiWinDeleteTop_draws
  · exact draws_nothing rfl

theorem userMain31InputFun_draws : Draws menu menu.userMain31InputFun menu.userMain31InputFunSites :=
  ((taken_draw.behind (onClick_draws fun _ => userMain31Enter_draws)).ahead (tryTake_draws .long)).ahead (on_draws _)

theorem userMain32InputFun_draws : Draws menu menu.userMain32InputFun menu.userMain32InputFunSites := by
  have key : ∀ menu : Menu, Draws menu menu.userMain32Key [] := fun _ => (select_steady _).draws
  have moved : Draws menu ((menu.onClick .up userMain32Key).onClick .down userMain32Key) [] :=
    (onClick_draws_nothing key).behind (onClick_draws_nothing key)
  refine (moved.behind (onEnter_draws fun _ => ?_)).ahead (tryTake_draws .long)
  exact (operate_draws _).behind guiWinDeleteTop_draws

theorem userMain23InputFun_draws (tdsValue : UInt32) :
    Draws menu menu.noteInputFun (menu.userMain23InputFunSites tdsValue) := by
  have polled : Draws menu menu [(menu, .userMain23InputFun tdsValue)] := key_draws (draws_nothing rfl) rfl
  exact polled.trans noteInputFun_draws

theorem userMainInputFun_draws (tdsValue : UInt32) (number : Nat) :
    Draws menu (menu.userMainInputFun number) (menu.userMainInputFunSites tdsValue number) := by
  unfold userMainInputFun userMainInputFunSites
  split
  · exact userMain1InputFun_draws
  · exact userMain2InputFun_draws
  · exact intervalInputFun_draws .reminder
  · exact intervalInputFun_draws .automatic
  · exact userMain6InputFun_draws
  · exact listInputFun_draws 7 [8, 12, 13]
  · exact listInputFun_draws 8 [9, 10, 11]
  · exact counterInputFun_draws 9 .manualReset
  · exact counterInputFun_draws 10 .automaticReset
  · exact counterInputFun_draws 11 .deltaReset
  · exact counterInputFun_draws 12 .errorReset
  · exact noteInputFun_draws
  · exact userMain14InputFun_draws
  · exact userMain16InputFun_draws
  · exact userMain17InputFun_draws
  · exact noteInputFun_draws
  · exact userMain19InputFun_draws
  · exact userMain20InputFun_draws
  · exact userMain23InputFun_draws tdsValue
  · exact batteryInputFun_draws
  · exact batteryInputFun_draws
  · exact userMain28InputFun_draws
  · exact userMain29InputFun_draws
  · exact noteInputFun_draws
  · exact userMain31InputFun_draws
  · exact userMain32InputFun_draws
  · have nothing : Draws menu menu [] := draws_nothing rfl
    simpa only using nothing

theorem guiWinDisplay_draws (tdsValue : UInt32) :
    Draws menu menu.guiWinDisplay (menu.guiWinDisplaySites tdsValue) := by
  unfold guiWinDisplay guiWinDisplaySites
  cases menu.guiGetTopWin with
  | none => exact draws_nothing rfl
  | some top =>
      cases top with
      | userMain3Win => exact userMain3InputFun_draws
      | userMain25Win => exact userMain25InputFun_draws
      | winWifiConnect => exact on_draws _
      | menuWin number => exact userMainInputFun_draws tdsValue number

theorem respond_draws (tdsValue : UInt32) (event : Event) :
    Draws menu (menu.respond event) (menu.respondSites tdsValue event) := by
  cases event with
  | screen event still => exact on_draws _
  | store op other => exact (store_quiet op).draws
  | apTimeoutControl state => exact (store_quiet _).draws
  | push thread =>
      rw [respond, respondSites]
      split
      · exact guiWinAdd_draws.ahead (on_draws _)
      · exact draws_nothing rfl
  | rtcReminder => exact (on_draws _).behind lcdtoReminder_draws
  | refreshDisplay => exact refreshDisplay_draws
  | lcdRefresh => exact lcdRefreshFromSleep_draws
  | reloadMainWin => exact reloadMainWin_draws
  | jumpToBatteryEmpty => exact (store_quiet .errorCounted).draws.behind jumpToBattery_draws
  | jumpToBatteryNew => exact (store_quiet .errorCounted).draws.behind jumpToBattery_draws
  | wifiConnectStart => exact wifiConnectWinAdd_draws.ahead (on_draws _)
  | wifiCloseExpires =>
      rw [respond, respondSites]
      split
      · exact (on_draws _).behind wifiConnectWinDel_draws
      · exact draws_nothing rfl
  | guiWinDisplay => exact guiWinDisplay_draws tdsValue
  | factorySet => exact draws_nothing rfl
  | reboot left right inputs ram => exact draws_nothing rfl

/-- The sites of a step name the window functions that it runs, every one and no other. -/
theorem step_draws (tdsValue : UInt32) (event : Event) :
    Draws menu (menu.step event) (menu.stepSites tdsValue event) := by
  cases event with
  | reboot left right inputs ram => rfl
  | _ =>
      simp only [step, stepSites]
      split
      · exact draws_nothing rfl
      · exact respond_draws tdsValue _

end Menu

/-! ## Runs -/

/-- The menus together with everything they have formatted. -/
structure Formatted where
  menu : Menu
  written : List Write

namespace Formatted

variable {state : Formatted} {event : Menu.Event × UInt32}

/-- An event comes with what `TDS_Work` returns in it. -/
def step (state : Formatted) (event : Menu.Event × UInt32) : Formatted where
  menu := state.menu.step event.1
  written := state.written ++ (state.menu.stepSites event.2 event.1).flatMap fun visit => visit.1.writes visit.2

def AllFit (state : Formatted) : Prop := ∀ write ∈ state.written, write.Fits

/-- Every site of the step is reached in a state that bounds it. -/
def Bounded (state : Formatted) (event : Menu.Event × UInt32) : Prop :=
  ∀ visit ∈ state.menu.stepSites event.2 event.1, visit.1.Bounded visit.2

theorem step_allFit_iff : (state.step event).AllFit ↔ state.AllFit ∧ state.Bounded event := by
  constructor
  · intro fit
    constructor
    · exact fun write member => fit write (List.mem_append_left _ member)
    · intro visit reached
      apply Menu.writes_fit_iff visit.2 |>.mp
      exact fun write member => fit write (List.mem_append_right _ (List.mem_flatMap.mpr ⟨visit, reached, member⟩))
  · rintro ⟨fit, bounded⟩ write member
    rcases List.mem_append.mp member with earlier | now
    · exact fit write earlier
    · obtain ⟨visit, reached, written⟩ := List.mem_flatMap.mp now
      exact (Menu.writes_fit_iff visit.2).mpr (bounded visit reached) write written

theorem texts_fit_iff_sites_bounded (menu : Menu) (events : List (Menu.Event × UInt32)) :
    Throughout step AllFit ⟨menu, []⟩ events ↔ EachStep step Bounded ⟨menu, []⟩ events := by
  have nothing : AllFit ⟨menu, []⟩ := fun write member => absurd member List.not_mem_nil
  apply throughout_iff_eachStep (fun _ => True) trivial nothing
  · exact fun _ _ _ _ _ => trivial
  · exact fun state event _ fit => step_allFit_iff.trans (and_iff_right fit)

/-- A controller that has never been set. -/
def fresh : Formatted :=
  ⟨Menu.boot true false ⟨0, 21, 30, 0, 0⟩ (Storage.flashInit Storage.emptyStore Storage.blankRam), []⟩

theorem press_still (key : Key) : (Screen.Event.press key).still = true := rfl

def press (key : Key) : Menu.Event × UInt32 := (.screen (.press key) (press_still key), 0)

def poll : Menu.Event × UInt32 := (.guiWinDisplay, 0)

/-- `Long` opens the settings, and the next `Enter` shows the hours that remain. -/
def untilEnter : List (Menu.Event × UInt32) := [press .long, poll, press .enter]

theorem remaining_hours_overflow : ¬∀ events, Throughout step AllFit fresh events := by
  intro claim
  have fit : (run step fresh (untilEnter ++ [poll])).AllFit := (claim _).last
  rw [run, List.foldl_concat] at fit
  obtain ⟨-, bounded⟩ := step_allFit_iff.mp fit
  have drawn : ((run step fresh untilEnter).menu.stepSites 0 .guiWinDisplay).filterMap Menu.drawnBy =
      [.menuWin 30] := by decide +kernel
  have listed : Window.menuWin 30 ∈ ((run step fresh untilEnter).menu.stepSites 0 .guiWinDisplay).filterMap
      Menu.drawnBy := by simp [drawn]
  obtain ⟨⟨menu, site⟩, reached, drawnHere⟩ := List.mem_filterMap.mp listed
  have boundedHere : menu.Bounded site := bounded (menu, site) reached
  cases site with
  | windowFunction window =>
      obtain rfl := Option.some.inj drawnHere
      exact boundedHere
  | _ => cases drawnHere

end Formatted

end SyrFilter.Display
