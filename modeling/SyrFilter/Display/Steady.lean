import SyrFilter.Display.Menu
import SyrFilter.Display.Stack

namespace SyrFilter.Display

open SyrFilter.Lib
open SyrFilter.Storage (Device Op Ram)
open SyrFilter.Rtc (Schedule)

/-! # What the handlers of a key leave alone

A key that opens, closes and redraws no window changes neither the stack nor
`confirmed`, and most keys leave `NowSetting`, the page of the settings menu and
the access point as they are, too.  A window function leaves all of them alone
except `confirmed`.
-/

namespace Menu

variable {menu before middle after : Menu} {window : Window}

structure Quiet (before after : Menu) : Prop where
  stack : after.stack = before.stack
  confirmed : after.confirmed = before.confirmed
  history : after.history = before.history

structure Steady (before after : Menu) : Prop extends Quiet before after where
  win14PageId : after.win14PageId = before.win14PageId
  wifiApEnable : after.wifiApEnable = before.wifiApEnable
  nowSetting : after.nowSetting = before.nowSetting

/-- The selection and the flags stay, too. -/
structure Apart (before after : Menu) : Prop extends Steady before after where
  nowButtonId : after.nowButtonId = before.nowButtonId
  tButton : after.tButton = before.tButton

theorem Quiet.refl : Quiet menu menu := ⟨rfl, rfl, rfl⟩

theorem Quiet.trans (first : Quiet before middle) (second : Quiet middle after) : Quiet before after :=
  ⟨second.stack.trans first.stack, second.confirmed.trans first.confirmed,
    second.history.trans first.history⟩

theorem Steady.refl : Steady menu menu := ⟨.refl, rfl, rfl, rfl⟩

theorem Apart.refl : Apart menu menu := ⟨.refl, rfl, rfl⟩

theorem Steady.trans (first : Steady before middle) (second : Steady middle after) : Steady before after :=
  ⟨first.toQuiet.trans second.toQuiet, second.win14PageId.trans first.win14PageId,
    second.wifiApEnable.trans first.wifiApEnable, second.nowSetting.trans first.nowSetting⟩

theorem Quiet.guiGetTopWin (quiet : Quiet before after) : after.guiGetTopWin = before.guiGetTopWin :=
  congrArg List.head? quiet.stack

/-! ## Small changes -/

theorem on_apart {change : Screen → Screen} (stack : (change menu.screen).view.stack = menu.stack) :
    Apart menu (menu.on change) :=
  ⟨⟨⟨stack, rfl, rfl⟩, rfl, rfl, rfl⟩, rfl, rfl⟩

theorem tryTake_apart (key : Key) : Apart menu (menu.tryTake key) :=
  on_apart (congrArg View.stack (Screen.view_tryTake key))

theorem call_apart (made : List Call) : Apart menu (menu.on fun screen => screen.call made) :=
  on_apart (congrArg View.stack (Screen.view_call made))

theorem setNow_steady (button : UInt8) : Steady menu (menu.setNow button) := ⟨⟨rfl, rfl, rfl⟩, rfl, rfl, rfl⟩

theorem setFlag_steady (button value : UInt8) : Steady menu (menu.setFlag button value) :=
  ⟨⟨rfl, rfl, rfl⟩, rfl, rfl, rfl⟩

theorem setFlags_steady (flags : List (UInt8 × UInt8)) : Steady menu (menu.setFlags flags) := by
  induction flags generalizing menu with
  | nil => exact .refl
  | cons flag rest ih => exact (setFlag_steady flag.1 flag.2).trans ih

theorem select_steady (button : UInt8) : Steady menu (menu.select button) := ⟨⟨rfl, rfl, rfl⟩, rfl, rfl, rfl⟩

theorem store_quiet (op : Op) : Quiet menu (menu.store op) := ⟨rfl, rfl, rfl⟩

/-- Only `syr_wifi_ap_enable_set` switches the access point. -/
theorem wifiApEnable_effect {op : Op} (other : switchesAp op = false) (ram : Ram) :
    (op.effect ram).1.wifiApEnable = ram.wifiApEnable := by
  cases op with
  | wifiApEnable value => cases other
  | moto reachesCycle => cases reachesCycle <;> rfl
  | range value =>
      simp only [Op.effect, Ram.syrRangeSet, Ram.clampAutomatic, Ram.clampReminder]
      split <;> split <;> rfl
  | power value =>
      simp only [Op.effect, Ram.powerSet]
      split <;> rfl
  | reminderSave week day enable =>
      simp only [Op.effect, Ram.userMain4Save, Ram.reminderInterval, Ram.reminderSwitch]
      split
      · rfl
      · split <;> split <;> rfl
  | automaticSave week day enable =>
      simp only [Op.effect, Ram.userMain5Save, Ram.automaticInterval, Ram.automaticSwitch]
      split
      · rfl
      · split <;> split <;> rfl
  | deltaSave enable =>
      simp only [Op.effect, Ram.userMain6Save]
      split <;> rfl
  | _ => rfl

theorem store_apart {op : Op} (other : switchesAp op = false) : Apart menu (menu.store op) :=
  ⟨⟨store_quiet op, rfl, wifiApEnable_effect other menu.windows.device.ram, rfl⟩, rfl, rfl⟩

/-! ## Window functions -/

structure Drawn (before after : Menu) : Prop where
  stack : after.stack = before.stack
  history : after.history = before.history
  win14PageId : after.win14PageId = before.win14PageId
  wifiApEnable : after.wifiApEnable = before.wifiApEnable
  nowSetting : after.nowSetting = before.nowSetting

theorem Steady.drawn (steady : Steady before after) : Drawn before after :=
  ⟨steady.stack, steady.history, steady.win14PageId, steady.wifiApEnable, steady.nowSetting⟩

theorem Drawn.trans (first : Drawn before middle) (second : Drawn middle after) : Drawn before after :=
  ⟨second.stack.trans first.stack, second.history.trans first.history,
    second.win14PageId.trans first.win14PageId, second.wifiApEnable.trans first.wifiApEnable,
    second.nowSetting.trans first.nowSetting⟩

theorem setFlags_drawn (flags : List (UInt8 × UInt8)) (drawn : Drawn before after) :
    Drawn before (after.setFlags flags) :=
  drawn.trans (setFlags_steady flags).drawn

theorem setNow_setFlags_drawn (button : UInt8) (flags : List (UInt8 × UInt8)) :
    Drawn menu ((menu.setNow button).setFlags flags) :=
  setFlags_drawn flags (setNow_steady button).drawn

theorem userMain1WinFun_drawn : Drawn menu menu.userMain1WinFun := by
  rw [userMain1WinFun]
  split
  · exact setNow_setFlags_drawn ..
  split
  · exact (setFlags_steady _).drawn
  split
  · exact setNow_setFlags_drawn ..
  · exact Steady.refl.drawn

theorem userMain14WinFun_drawn : Drawn menu menu.userMain14WinFun := by
  rw [userMain14WinFun]
  split
  · exact setNow_setFlags_drawn ..
  split
  · exact setNow_setFlags_drawn ..
  · exact Steady.refl.drawn

theorem cut_steady (window : CounterWindow) : Steady menu (menu.cut window) := by
  have ap : (window.winFun menu.windows.device).ram.wifiApEnable = menu.windows.device.ram.wifiApEnable := by
    cases window with
    | automatic =>
        rw [CounterWindow.winFun]
        split <;> rfl
    | delta =>
        rw [CounterWindow.winFun]
        split <;> rfl
  exact ⟨⟨rfl, rfl, rfl⟩, rfl, ap, rfl⟩

theorem counterWinFun_drawn : Drawn menu menu.counterWinFun := ⟨rfl, rfl, rfl, rfl, rfl⟩

theorem userMain12WinFun_drawn : Drawn menu menu.userMain12WinFun := by
  refine ⟨rfl, rfl, rfl, ?_, rfl⟩
  simp only [userMain12WinFun, wifiApEnable]
  split <;> rfl

theorem draw_drawn (window : Window) : Drawn menu (menu.draw window) := by
  cases window with
  | userMain3Win =>
      have stack := congrArg View.stack (@Screen.view_windowFunction menu.screen .userMain3Win)
      have apart : Apart menu (menu.on fun screen => screen.windowFunction .userMain3Win) :=
        on_apart (stack.trans (View.enter_stack _))
      exact apart.drawn
  | userMain25Win => exact (setFlag_steady 3 1).drawn
  | winWifiConnect => exact Steady.refl.drawn
  | menuWin number =>
      simp only [draw, userMainWinFun]
      split
      case h_1 => exact userMain1WinFun_drawn
      case h_9 => exact (cut_steady .automatic).drawn.trans counterWinFun_drawn
      case h_10 => exact (cut_steady .delta).drawn.trans counterWinFun_drawn
      case h_11 => exact userMain12WinFun_drawn
      case h_13 => exact userMain14WinFun_drawn
      all_goals first
        | exact setFlags_drawn _ ⟨rfl, rfl, rfl, rfl, rfl⟩
        | exact ⟨rfl, rfl, rfl, rfl, rfl⟩

theorem windowFunction_stack (window : Window) : (menu.windowFunction window).stack = menu.stack :=
  (draw_drawn window).stack

theorem windowFunction_history (window : Window) :
    (menu.windowFunction window).history = .windowFunction window :: menu.history :=
  congrArg (List.cons _) (draw_drawn window).history

/-! ## Keys -/

theorem rowUp_steady (first last : UInt8) : Steady menu (menu.rowUp first last) := select_steady _

theorem rowDown_steady (first last : UInt8) : Steady menu (menu.rowDown first last) := select_steady _

theorem rowToggle_steady : Steady menu menu.rowToggle := by
  rw [rowToggle]
  split
  · exact ⟨⟨rfl, rfl, rfl⟩, rfl, rfl, rfl⟩
  split
  · exact ⟨⟨rfl, rfl, rfl⟩, rfl, rfl, rfl⟩
  · exact .refl

theorem valueKey_steady {edit : Menu → Menu} (edits : Steady menu (edit menu)) :
    Steady menu (menu.valueKey edit) := by
  rw [valueKey]
  split
  · exact edits
  split
  · exact ⟨⟨rfl, rfl, rfl⟩, rfl, rfl, rfl⟩
  split
  · exact ⟨⟨rfl, rfl, rfl⟩, rfl, rfl, rfl⟩
  · exact .refl

theorem hardnessUp_apart : Apart menu menu.hardnessUp := by
  rw [hardnessUp]
  split
  · exact ⟨⟨⟨rfl, rfl, rfl⟩, rfl, rfl, rfl⟩, rfl, rfl⟩
  split
  · exact ⟨⟨⟨rfl, rfl, rfl⟩, rfl, rfl, rfl⟩, rfl, rfl⟩
  · exact .refl

theorem hardnessDown_apart : Apart menu menu.hardnessDown := by
  rw [hardnessDown]
  split
  · exact ⟨⟨⟨rfl, rfl, rfl⟩, rfl, rfl, rfl⟩, rfl, rfl⟩
  split
  · exact ⟨⟨⟨rfl, rfl, rfl⟩, rfl, rfl, rfl⟩, rfl, rfl⟩
  · exact .refl

theorem backwashUp_apart : Apart menu menu.backwashUp := by
  rw [backwashUp]
  split
  · exact ⟨⟨⟨rfl, rfl, rfl⟩, rfl, rfl, rfl⟩, rfl, rfl⟩
  · exact .refl

theorem backwashDown_apart : Apart menu menu.backwashDown := by
  rw [backwashDown]
  split
  · exact ⟨⟨⟨rfl, rfl, rfl⟩, rfl, rfl, rfl⟩, rfl, rfl⟩
  · exact .refl

theorem rangeKey_steady : Steady menu menu.rangeKey := ⟨⟨rfl, rfl, rfl⟩, rfl, rfl, rfl⟩

theorem calibUp_steady : Steady menu menu.calibUp := ⟨⟨rfl, rfl, rfl⟩, rfl, rfl, rfl⟩

theorem calibDown_steady : Steady menu menu.calibDown := ⟨⟨rfl, rfl, rfl⟩, rfl, rfl, rfl⟩

theorem deltapressKey_steady : Steady menu menu.deltapressKey := ⟨⟨rfl, rfl, rfl⟩, rfl, rfl, rfl⟩

theorem intervalUp_apart (schedule : Schedule) : Apart menu (menu.intervalClick schedule .up) :=
  ⟨⟨⟨rfl, rfl, rfl⟩, rfl, rfl, rfl⟩, rfl, rfl⟩

theorem intervalDown_apart (schedule : Schedule) : Apart menu (menu.intervalClick schedule .down) :=
  ⟨⟨⟨rfl, rfl, rfl⟩, rfl, rfl, rfl⟩, rfl, rfl⟩

theorem intervalClick_quiet (schedule : Schedule) (click : Rtc.Click) :
    Quiet menu (menu.intervalClick schedule click) := ⟨rfl, rfl, rfl⟩

/-! ## Other threads -/

theorem screen_apart {event : Screen.Event} (still : event.still = true) :
    Apart menu (menu.on fun screen => screen.step event) := by
  have view := congrArg View.stack (@Screen.view_step menu.screen event)
  refine on_apart (view.trans ?_)
  cases event with
  | otaTimeout =>
      rw [Screen.viewAfter]
      split <;> rfl
  | push | rtcReminder | refreshDisplay | lcdRefresh | guiWinDisplay | menu | wifiConnectStart
  | wifiCloseExpires => cases still
  | _ => rfl

/-- Of the jump events only `EXIT` closes the backwash window. -/
theorem receiveJumpEvent_apart
    (stays : State.recognised menu.screen.display.moto.jumpEvent ≠ some .exit) :
    Apart menu (menu.on fun screen => screen.on State.receiveJumpEvent) := by
  have view := congrArg View.stack (@Screen.view_receiveJumpEvent menu.screen)
  rw [Screen.receiveJumpEvent, if_neg stays, Screen.receivedView, if_neg stays] at view
  exact on_apart view

theorem winWifiInputCallback_apart :
    Apart menu (menu.on fun screen => screen.on State.winWifiInputCallback) := by
  have winManage : menu.screen.display.winWifiInputCallback.winManage = menu.screen.display.winManage := by
    rw [State.winWifiInputCallback]
    split
    · rfl
    split
    · rfl
    split <;> rfl
  exact on_apart (congrArg WinManage.winStack winManage)

theorem showStatus_apart : Apart menu (menu.on fun screen => screen.showProgress.showStatus) := by
  have shown := congrArg View.stack (@Screen.view_showStatus menu.screen.showProgress)
  have progress := congrArg View.stack (@Screen.view_showProgress menu.screen)
  exact on_apart (shown.trans ((View.catchUp_same _ _).1.trans progress))

theorem motoCycle_quiet :
    Quiet menu ((menu.store (.moto true)).on fun screen =>
      screen.on fun display => { display with moto := display.moto.motoCycle.1 }) := ⟨rfl, rfl, rfl⟩

/-! ## Steps -/

/-- A step is a reset, or what a device that is not halted does. -/
theorem step_cases (menu : Menu) (event : Event) :
    (∃ left right inputs ram, event = .reboot left right inputs ram) ∨
      menu.step event = if menu.halted then menu else menu.respond event := by
  cases event with
  | reboot left right inputs ram => exact .inl ⟨left, right, inputs, ram, rfl⟩
  | _ => exact .inr rfl

end Menu

end SyrFilter.Display
