import SyrFilter.Display.Steady
import SyrFilter.Lib.History
import SyrFilter.Lib.Runs

namespace SyrFilter.Display

open SyrFilter.Lib
open SyrFilter.Storage (Device Op)
open SyrFilter.Rtc (Schedule)

/-! # Two confirmations

`confirmed` is shared by the four counter windows and the factory reset.  It is
set by `Enter` in one of them and taken back by their window functions, so with
one of them on top it can only stem from an `Enter` in that window, given since
the window was drawn last.

A click of `Enter` need not be a press.  `DoneJump_Timer`, which the end of a
backwash starts and nothing stops, releases `K2_Sem` as well, to leave the
backwash screen; by then another window may be on top.
-/

/-- The button on which a window asks for a second `Enter`. -/
def asks : Nat → Option UInt8
  | 9 | 10 | 11 | 12 => some 1
  | 19 => some 0
  | _ => none

/-- The window and the button that an action belongs to, if it destroys something. -/
def destroys : Mark → Option (Nat × UInt8)
  | .operate .manualReset => some (9, 1)
  | .operate .automaticReset => some (10, 1)
  | .operate .deltaReset => some (11, 1)
  | .operate .errorReset => some (12, 1)
  | .deviceFactorySet => some (19, 0)
  | _ => none

/-- Who released a click of `K2_Sem`: `K2_Sem_Release` or `K2_Setjump_Sem_Release`. -/
inductive Origin where
  | key2
  | doneJump
deriving DecidableEq, Repr

/-- What the LCD thread did, and the origin of the click that waited longest at `K2_Sem` then. -/
abbrev Entry := Mark × Option Origin

/-- `Enter` was pressed on the button before, and the window has not been drawn since. -/
def Asked (number : Nat) (button : UInt8) (history : List Entry) : Prop :=
  RecordedSince (fun entry => entry.1 = .windowFunction (.menuWin number)) (.enter number button, some .key2) history

/-- What destroys something is done on a press of `Enter` that is the second one. -/
def Confirmed (entry : Entry) (earlier : List Entry) : Prop :=
  ∀ number button, destroys entry.1 = some (number, button) →
    ∃ before, earlier = (.enter number button, some .key2) :: before ∧ Asked number button before

/-- What had been done before a step, and the origin of the click that a poll would take. -/
structure Past where
  origin : Option Origin
  entries : List Entry

theorem confirmed_of_harmless {entry : Entry} (harmless : destroys entry.1 = none) (earlier : List Entry) :
    Confirmed entry earlier := by
  intro number button destructive
  rw [harmless] at destructive
  cases destructive

namespace Menu

variable {menu after : Menu} {window : Window} {number : Nat} {button : UInt8} {key : Key}
  {handle edit save : Menu → Menu} {past : Past}

/-- The history in the midst of a step. -/
def entries (menu : Menu) (past : Past) : List Entry :=
  (menu.history.take (menu.history.length - past.entries.length)).map (fun mark => (mark, past.origin)) ++
    past.entries

theorem entries_of_unchanged (known : past.entries.length = menu.history.length) :
    menu.entries past = past.entries := by
  rw [entries, known, Nat.sub_self, List.take_zero, List.map_nil, List.nil_append]

theorem entries_cons {made : Mark} (cons : after.history = made :: menu.history)
    (reach : past.entries.length ≤ menu.history.length) :
    after.entries past = (made, past.origin) :: menu.entries past := by
  rw [entries, cons, List.length_cons, Nat.succ_sub reach, List.take_succ_cons, List.map_cons, List.cons_append,
    entries]

theorem entries_length (reach : past.entries.length ≤ menu.history.length) :
    (menu.entries past).length = menu.history.length := by
  rw [entries, List.length_append, List.length_map, List.length_take]
  omega

structure Careful (menu : Menu) (past : Past) : Prop where
  reach : past.entries.length ≤ menu.history.length
  armed : ∀ number button, menu.guiGetTopWin = some (.menuWin number) → asks number = some button →
    menu.confirmed ≠ 0 → Asked number button (menu.entries past)
  each : EachEntry Confirmed (menu.entries past)

/-! ## Single changes -/

theorem Quiet.entries (quiet : Quiet menu after) : after.entries past = menu.entries past := by
  rw [Menu.entries, quiet.history, Menu.entries]

theorem Careful.quiet (careful : menu.Careful past) (quiet : Quiet menu after) : after.Careful past := by
  refine ⟨quiet.history ▸ careful.reach, ?_, quiet.entries ▸ careful.each⟩
  rw [quiet.guiGetTopWin, quiet.confirmed, quiet.entries]
  exact careful.armed

/-- One more entry that destroys nothing and draws no window that asks. -/
theorem Careful.mark {made : Mark} (careful : menu.Careful past) (harmless : destroys made = none)
    (drawing : ∀ window, made ≠ .windowFunction window) : (menu.mark made).Careful past := by
  have cons : (menu.mark made).entries past = (made, past.origin) :: menu.entries past :=
    entries_cons rfl careful.reach
  refine ⟨careful.reach.trans (Nat.le_succ _), fun number button top asked set => ?_, ?_⟩
  · rw [cons]
    exact (careful.armed number button top asked set).cons (drawing _)
  · rw [cons]
    exact eachEntry_cons.mpr ⟨confirmed_of_harmless harmless _, careful.each⟩

theorem Careful.operate (careful : menu.Careful past) (op : Op) (harmless : destroys (.operate op) = none) :
    (menu.operate op).Careful past :=
  (careful.quiet (store_quiet op)).mark harmless fun _ same => Mark.noConfusion same

theorem Careful.enter (careful : menu.Careful past) (number : Nat) (button : UInt8) :
    (menu.mark (.enter number button)).Careful past :=
  careful.mark rfl fun _ same => Mark.noConfusion same

theorem draw_confirmed_of_asks (asked : asks number = some button) :
    (menu.draw (.menuWin number)).confirmed = 0 := by
  unfold asks at asked
  split at asked
  case h_6 => cases asked
  all_goals rfl

theorem setFlags_confirmed (flags : List (UInt8 × UInt8)) : (menu.setFlags flags).confirmed = menu.confirmed :=
  (setFlags_steady flags).confirmed

theorem draw_confirmed (window : Window) :
    (menu.draw window).confirmed = 0 ∨ (menu.draw window).confirmed = menu.confirmed := by
  cases window with
  | userMain3Win => exact .inr rfl
  | userMain25Win => exact .inr rfl
  | winWifiConnect => exact .inr rfl
  | menuWin number =>
      simp only [draw, userMainWinFun]
      split
      case h_1 =>
        rw [userMain1WinFun]
        split
        · exact .inr (setFlags_confirmed _)
        split
        · exact .inr (setFlags_confirmed _)
        split
        · exact .inr (setFlags_confirmed _)
        · exact .inr rfl
      case h_13 =>
        rw [userMain14WinFun]
        split
        · exact .inr (setFlags_confirmed _)
        split
        · exact .inr (setFlags_confirmed _)
        · exact .inr rfl
      -- The windows that ask twice begin anew.
      case h_8 | h_9 | h_10 | h_11 | h_17 => exact .inl (setFlags_confirmed _)
      all_goals first | exact .inr (setFlags_confirmed _) | exact .inr rfl

/-- A window that has come to the top is drawn. -/
theorem shown_careful (top : menu.guiGetTopWin = some window) (reach : past.entries.length ≤ menu.history.length)
    (each : EachEntry Confirmed (menu.entries past)) : (menu.windowFunction window).Careful past := by
  have cons := entries_cons (@windowFunction_history menu window) reach
  refine ⟨?_, fun number button shown asked set => ?_, ?_⟩
  · rw [windowFunction_history]
    exact reach.trans (Nat.le_succ _)
  · rw [guiGetTopWin, windowFunction_stack, ← guiGetTopWin, top] at shown
    cases shown
    exact absurd (draw_confirmed_of_asks asked) set
  · rw [cons]
    exact eachEntry_cons.mpr ⟨confirmed_of_harmless rfl _, each⟩

theorem Careful.windowFunction (careful : menu.Careful past) (window : Window) :
    (menu.windowFunction window).Careful past := by
  have cons := entries_cons (@windowFunction_history menu window) careful.reach
  refine ⟨?_, fun number button top asked set => ?_, ?_⟩
  · rw [windowFunction_history]
    exact careful.reach.trans (Nat.le_succ _)
  · rw [guiGetTopWin, windowFunction_stack] at top
    rw [cons]
    have other : window ≠ .menuWin number := by
      rintro rfl
      exact set (draw_confirmed_of_asks asked)
    have kept := (@draw_confirmed menu window).resolve_left set
    have asked := careful.armed number button top asked (kept ▸ set)
    exact asked.cons fun same => other (Mark.windowFunction.inj same)
  · rw [cons]
    exact eachEntry_cons.mpr ⟨confirmed_of_harmless rfl _, careful.each⟩

/-! ## The window manager -/

theorem guiWinAdd_careful (careful : menu.Careful past) (window : Window) : (menu.guiWinAdd window).Careful past := by
  rw [guiWinAdd]
  split
  · exact shown_careful rfl careful.reach careful.each
  · exact careful

theorem guiWinDeleteTop_careful (careful : menu.Careful past) : menu.guiWinDeleteTop.Careful past := by
  rw [guiWinDeleteTop]
  split
  · exact careful
  · rename_i window below
    exact shown_careful (List.head?_tail.trans below) careful.reach careful.each

theorem home_careful (careful : menu.Careful past) : menu.home.Careful past := by
  have empty : (menu.restack [] (Nat.zero_le _)).Careful past := ⟨careful.reach, nofun, careful.each⟩
  exact guiWinAdd_careful empty userMain1Win

theorem refreshDisplay_careful (careful : menu.Careful past) : menu.refreshDisplay.Careful past := by
  rw [refreshDisplay]
  split
  · exact careful
  · exact careful.windowFunction _

theorem lcdtoBackwash_careful (careful : menu.Careful past) : menu.lcdtoBackwash.Careful past := by
  have cycled := careful.quiet (@motoCycle_quiet menu)
  rw [lcdtoBackwash]
  split
  · split
    · exact guiWinAdd_careful cycled _
    · exact cycled
  · exact careful

/-! ## Keys -/

theorem onClick_careful (careful : menu.Careful past) (key : Key)
    (handles : ∀ {taken : Menu}, taken.Careful past → (handle taken).Careful past) :
    (menu.onClick key handle).Careful past := by
  have taken := careful.quiet (tryTake_apart key).toQuiet
  rw [onClick]
  split
  · exact handles taken
  · exact taken

theorem tryTake_careful (careful : menu.Careful past) (key : Key) : (menu.tryTake key).Careful past :=
  careful.quiet (tryTake_apart key).toQuiet

theorem onEnter_careful (careful : menu.Careful past) (number : Nat)
    (handles : ∀ {entered : Menu}, entered.Careful past → (handle entered).Careful past) :
    (menu.onEnter number handle).Careful past :=
  onClick_careful careful .enter fun taken => handles (taken.enter number _)

/-- Keys that change nothing that matters here. -/
theorem onClick_quiet (key : Key) (quiet : ∀ {taken : Menu}, Quiet taken (handle taken)) :
    Quiet menu (menu.onClick key handle) := by
  have taken : Quiet menu (menu.tryTake key) := (tryTake_apart key).toQuiet
  rw [onClick]
  split
  · exact taken.trans quiet
  · exact taken

theorem keys_quiet {up down : Menu → Menu} (first second : Key) (ups : ∀ {taken : Menu}, Steady taken (up taken))
    (downs : ∀ {taken : Menu}, Steady taken (down taken)) :
    Quiet menu ((menu.onClick first up).onClick second down) :=
  (onClick_quiet first ups.toQuiet).trans (onClick_quiet second downs.toQuiet)

/-- A menu in which only `Enter` does something that matters. -/
theorem input_careful {first second : Key} {up down enter : Menu → Menu} (careful : menu.Careful past)
    (ups : ∀ {taken : Menu}, Steady taken (up taken)) (downs : ∀ {taken : Menu}, Steady taken (down taken))
    (enters : ∀ {entered : Menu}, entered.Careful past → (enter entered).Careful past) :
    ((((menu.onClick first up).onClick second down).onEnter number enter).tryTake .long).Careful past := by
  have moved := careful.quiet (@keys_quiet menu _ _ first second ups downs)
  exact tryTake_careful (onEnter_careful moved number enters) .long

theorem valueEnter_careful (careful : menu.Careful past) (saves : (save menu).Careful past) :
    (menu.valueEnter save).Careful past := by
  rw [valueEnter]
  split
  · exact careful.quiet ⟨rfl, rfl, rfl⟩
  split
  · exact guiWinDeleteTop_careful saves
  split
  · exact guiWinDeleteTop_careful careful
  · exact careful

/-! ## Windows that destroy nothing -/

theorem userMain1Moved_careful (careful : menu.Careful past) : menu.userMain1Moved.Careful past := by
  have page : ∀ {menu : Menu} {button page : UInt8}, menu.Careful past → (menu.userMain1Page button page).Careful past := by
    intro menu button page careful
    have turned : { menu with nowButtonId := button, win1PageId := page }.Careful past :=
      careful.quiet ⟨rfl, rfl, rfl⟩
    exact turned.windowFunction userMain1Win
  have up : ∀ {menu : Menu}, menu.Careful past → menu.userMain1Up.Careful past := by
    intro menu careful
    rw [userMain1Up]
    split
    · exact page careful
    split
    · exact page careful
    · exact careful.quiet (select_steady _).toQuiet
  have down : ∀ {menu : Menu}, menu.Careful past → menu.userMain1Down.Careful past := by
    intro menu careful
    rw [userMain1Down]
    split
    · exact page careful
    split
    · exact page careful
    · exact careful.quiet (select_steady _).toQuiet
  exact onClick_careful (onClick_careful careful .up up) .down down

theorem userMain1Enter_careful (careful : menu.Careful past) : menu.userMain1Enter.Careful past := by
  have entered : { menu with win1PageId := 0 }.Careful past := careful.quiet ⟨rfl, rfl, rfl⟩
  rw [userMain1Enter]
  split
  · exact guiWinAdd_careful entered _
  split
  · exact guiWinAdd_careful entered _
  split
  · exact guiWinAdd_careful entered _
  split
  · exact guiWinAdd_careful entered _
  split
  · exact guiWinAdd_careful entered _
  · exact entered

theorem userMain1InputFun_careful (careful : menu.Careful past) : menu.userMain1InputFun.Careful past := by
  have long : ∀ {menu : Menu}, menu.Careful past → menu.userMain1Long.Careful past := by
    intro menu careful
    have home : { menu.setNow 0 with win1PageId := 0 }.Careful past := careful.quiet ⟨rfl, rfl, rfl⟩
    exact guiWinAdd_careful home _
  exact onClick_careful (onEnter_careful (userMain1Moved_careful careful) 1 userMain1Enter_careful) .long long

theorem userMain2InputFun_careful (careful : menu.Careful past) : menu.userMain2InputFun.Careful past := by
  have enter : ∀ {menu : Menu}, menu.Careful past → menu.userMain2Enter.Careful past := by
    intro menu careful
    rw [userMain2Enter]
    split
    · have counted := (careful.quiet (call_apart [.count 8]).toQuiet).operate .manualBackwash rfl
      exact lcdtoBackwash_careful counted
    · exact guiWinDeleteTop_careful careful
  exact input_careful careful rowToggle_steady rowToggle_steady enter

theorem receiveJumpEvent_careful (careful : menu.Careful past) : menu.receiveJumpEvent.Careful past := by
  have stays : State.recognised menu.screen.display.moto.jumpEvent ≠ some .exit →
      (menu.on fun screen => screen.on State.receiveJumpEvent).Careful past :=
    fun other => careful.quiet (receiveJumpEvent_apart other).toQuiet
  rw [receiveJumpEvent]
  split
  · have cleared : (menu.on fun screen => screen.on fun display =>
        { display with moto := { display.moto with jumpEvent := ∅ }, screenReload := true }).Careful past :=
      careful.quiet ⟨rfl, rfl, rfl⟩
    exact Careful.quiet (guiWinDeleteTop_careful cleared) ⟨rfl, rfl, rfl⟩
  · rename_i received
    exact (stays (by simp [received])).operate .errorCounted rfl
  · rename_i received
    exact (stays (by simp [received])).operate .errorCounted rfl
  · rename_i received
    exact (stays (by simp [received])).operate .errorCounted rfl
  · rename_i exits _ _ _
    exact stays exits

theorem userMain3InputFun_careful (careful : menu.Careful past) : menu.userMain3InputFun.Careful past := by
  have enter : ∀ {menu : Menu}, menu.Careful past → menu.userMain3Enter.Careful past := by
    intro menu careful
    rw [userMain3Enter]
    split
    · exact home_careful (careful.quiet ⟨rfl, rfl, rfl⟩)
    · exact careful
  have received := tryTake_careful (tryTake_careful (receiveJumpEvent_careful careful) .up) .down
  exact tryTake_careful (onClick_careful received .enter enter) .long

theorem save_harmless (schedule : Schedule) (temps : Rtc.Temps) :
    destroys (.operate (schedule.save temps)) = none := by
  cases schedule <;> rfl

theorem intervalInputFun_careful (careful : menu.Careful past) (schedule : Schedule) :
    (menu.intervalInputFun schedule).Careful past := by
  have enter : ∀ {menu : Menu}, menu.Careful past → (menu.intervalEnter schedule).Careful past := by
    intro menu careful
    have entered := careful.quiet (intervalClick_quiet schedule .enter)
    rw [intervalEnter]
    split
    · exact entered.quiet (setFlags_steady _).toQuiet
    split
    · exact entered.quiet (setFlags_steady _).toQuiet
    split
    · exact guiWinDeleteTop_careful (entered.mark (save_harmless _ _) fun _ same => Mark.noConfusion same)
    · exact entered
  have up : Quiet menu (menu.onClick .up fun menu => menu.intervalClick schedule .up) :=
    onClick_quiet .up (intervalClick_quiet schedule .up)
  have moved := careful.quiet (up.trans (onClick_quiet .down (intervalClick_quiet schedule .down)))
  rw [intervalInputFun]
  split
  · have taken := tryTake_careful moved .enter
    exact guiWinDeleteTop_careful (taken.quiet (intervalClick_quiet schedule .enter))
  · exact tryTake_careful (onClick_careful moved .enter enter) .long

theorem userMain6InputFun_careful (careful : menu.Careful past) : menu.userMain6InputFun.Careful past := by
  have moved := careful.quiet (@keys_quiet menu _ _ .up .down deltapressKey_steady deltapressKey_steady)
  have entered : ((menu.onClick .up deltapressKey).onClick .down deltapressKey |>.onClick .enter
      userMain6Enter).Careful past :=
    onClick_careful moved .enter fun taken => guiWinDeleteTop_careful (taken.operate (.deltaSave _) rfl)
  exact tryTake_careful entered .long

theorem listInputFun_careful (careful : menu.Careful past) (number : Nat) (rows : List Nat) :
    (menu.listInputFun number rows).Careful past := by
  refine input_careful careful (rowUp_steady 0 3) (rowDown_steady 0 3) fun entered => ?_
  split
  · exact guiWinDeleteTop_careful entered
  split
  · exact guiWinAdd_careful entered _
  · exact entered

theorem noteInputFun_careful (careful : menu.Careful past) : menu.noteInputFun.Careful past := by
  have taken := tryTake_careful (tryTake_careful careful .up) .down
  exact tryTake_careful (onClick_careful taken .enter guiWinDeleteTop_careful) .long

theorem userMain14InputFun_careful (careful : menu.Careful past) : menu.userMain14InputFun.Careful past := by
  have page : ∀ {menu : Menu}, menu.Careful past → ∀ pages, (menu.userMain14Page pages).Careful past := by
    intro menu careful pages
    have turned :
        { menu with win14PageId := pages.getD menu.win14PageId.toNat menu.win14PageId }.Careful past :=
      careful.quiet ⟨rfl, rfl, rfl⟩
    exact turned.windowFunction _
  have up : ∀ {menu : Menu}, menu.Careful past → menu.userMain14Up.Careful past := by
    intro menu careful
    rw [userMain14Up]
    split
    · exact page careful _
    · exact careful.quiet (select_steady _).toQuiet
  have down : ∀ {menu : Menu}, menu.Careful past → menu.userMain14Down.Careful past := by
    intro menu careful
    rw [userMain14Down]
    split
    · exact page careful _
    · exact careful.quiet (select_steady _).toQuiet
  have enter : ∀ {menu : Menu}, menu.Careful past → menu.userMain14Enter.Careful past := by
    intro menu careful
    rw [userMain14Enter]
    split
    · exact Careful.quiet (guiWinAdd_careful careful _) ⟨rfl, rfl, rfl⟩
    · exact Careful.quiet (guiWinDeleteTop_careful careful) ⟨rfl, rfl, rfl⟩
    · exact careful.quiet ⟨rfl, rfl, rfl⟩
  have moved := onClick_careful (onClick_careful careful .up up) .down down
  exact tryTake_careful (onEnter_careful moved 14 enter) .long

theorem valueInputFun_careful {up down : Menu → Menu} (careful : menu.Careful past)
    (ups : ∀ {menu : Menu}, Steady menu (up menu)) (downs : ∀ {menu : Menu}, Steady menu (down menu))
    (saves : ∀ {menu : Menu}, menu.Careful past → (save menu).Careful past) :
    (menu.valueInputFun number up down save).Careful past :=
  input_careful careful (valueKey_steady ups) (valueKey_steady downs) fun entered =>
    valueEnter_careful entered (saves entered)

theorem userMain20InputFun_careful (careful : menu.Careful past) : menu.userMain20InputFun.Careful past := by
  have enter : ∀ {menu : Menu}, menu.Careful past → menu.userMain20Enter.Careful past := by
    intro menu careful
    rw [userMain20Enter]
    split
    · exact guiWinDeleteTop_careful (refreshDisplay_careful (careful.operate (.language _) rfl))
    split
    · exact guiWinDeleteTop_careful careful
    · exact careful
  exact input_careful careful (rowDown_steady 0 2) (rowUp_steady 0 2) enter

theorem userMain25InputFun_careful (careful : menu.Careful past) : menu.userMain25InputFun.Careful past := by
  have called : ∀ {menu : Menu}, menu.Careful past →
      (menu.on fun screen => screen.call [.insertNotifyArray 0xff]).Careful past :=
    fun careful => careful.quiet (call_apart _).toQuiet
  have up : ∀ {menu : Menu}, menu.Careful past → menu.userMain25Up.Careful past :=
    fun careful => guiWinDeleteTop_careful (called careful)
  have enter : ∀ {menu : Menu}, menu.Careful past → menu.userMain25Enter.Careful past := by
    intro menu careful
    have counted := ((called careful).quiet (call_apart [.count 9]).toQuiet).operate .automaticBackwash rfl
    exact lcdtoBackwash_careful counted
  have taken := tryTake_careful (onClick_careful careful .up up) .down
  exact tryTake_careful (onClick_careful taken .enter enter) .long

theorem batteryInputFun_careful (careful : menu.Careful past) : menu.batteryInputFun.Careful past := by
  have taken := tryTake_careful (onClick_careful careful .up guiWinDeleteTop_careful) .down
  exact tryTake_careful (onClick_careful taken .enter guiWinDeleteTop_careful) .long

theorem userMain28InputFun_careful (careful : menu.Careful past) : menu.userMain28InputFun.Careful past := by
  have enter : ∀ {menu : Menu}, menu.Careful past → menu.userMain28Enter.Careful past := by
    intro menu careful
    rw [userMain28Enter]
    split
    · exact careful.quiet ⟨rfl, rfl, rfl⟩
    · exact valueEnter_careful careful (careful.operate (.range _) rfl)
  exact input_careful careful (valueKey_steady rangeKey_steady) (valueKey_steady rangeKey_steady) enter

theorem userMain31InputFun_careful (careful : menu.Careful past) : menu.userMain31InputFun.Careful past := by
  have enter : ∀ {menu : Menu}, menu.Careful past → menu.userMain31Enter.Careful past := by
    intro menu careful
    rw [userMain31Enter]
    split
    · exact guiWinDeleteTop_careful (careful.quiet ⟨rfl, rfl, rfl⟩)
    · exact careful
  have taken := tryTake_careful (tryTake_careful careful .up) .down
  exact (tryTake_careful (onClick_careful taken .enter enter) .long).quiet showStatus_apart.toQuiet

theorem userMain32InputFun_careful (careful : menu.Careful past) : menu.userMain32InputFun.Careful past := by
  have enter : ∀ {menu : Menu}, menu.Careful past → menu.userMain32Enter.Careful past :=
    fun careful => guiWinDeleteTop_careful (careful.operate (apSwitch _) rfl)
  exact input_careful careful (select_steady _) (select_steady _) enter

/-! ## Windows that destroy something -/

/-- `Up` and `Down` of a window that asks. -/
def asksMoved (menu : Menu) : Menu :=
  if menu.guiGetTopWin = some (.menuWin 19) then (menu.onClick .up rowToggle).onClick .down rowToggle
  else (menu.onClick .up fun menu => menu.rowUp 1 2).onClick .down fun menu => menu.rowDown 1 2

/-- The button on which the top window asks. -/
def asking (menu : Menu) : Option UInt8 :=
  match menu.guiGetTopWin with
  | some (.menuWin number) => asks number
  | _ => none

/-- A poll takes a click of `Enter` on the button that asks. -/
def AsksEnter (menu : Menu) : Prop :=
  menu.clicked .enter = true ∧ menu.asking = some menu.asksMoved.nowButtonId

instance (menu : Menu) : Decidable menu.AsksEnter := inferInstanceAs (Decidable (_ ∧ _))

theorem onClick_enter (handle : Menu → Menu) {other : Key} (different : other ≠ .enter)
    (keeps : ∀ menu : Menu, (handle menu).screen = menu.screen) :
    (menu.onClick other handle).clicked .enter = menu.clicked .enter := by
  have taken : (menu.tryTake other).clicked .enter = menu.clicked .enter :=
    Screen.tryTake_clicked different.symm
  rw [onClick]
  split
  · rw [clicked, keeps]
    exact taken
  · exact taken

theorem keys_enter (up down : Menu → Menu) (ups : ∀ menu : Menu, (up menu).screen = menu.screen)
    (downs : ∀ menu : Menu, (down menu).screen = menu.screen) :
    ((menu.onClick .up up).onClick .down down).clicked .enter = menu.clicked .enter :=
  (onClick_enter down (by decide) downs).trans (onClick_enter up (by decide) ups)

theorem rowToggle_screen (menu : Menu) : menu.rowToggle.screen = menu.screen := by
  rw [rowToggle]
  split
  · rfl
  split <;> rfl

/-- `Enter` with the window itself in view. -/
theorem askedEnter_careful (careful : menu.Careful past) (top : menu.guiGetTopWin = some (.menuWin number))
    (handles : ∀ {entered : Menu}, entered.Careful past → entered.guiGetTopWin = some (.menuWin number) →
      menu.clicked .enter = true → entered.nowButtonId = menu.nowButtonId →
      (handle (entered.mark (.enter number entered.nowButtonId))).Careful past) :
    (menu.onEnter number handle).Careful past := by
  have taken := (@tryTake_apart menu .enter).toQuiet
  rw [onEnter, onClick]
  split
  · rename_i clicked
    exact handles (careful.quiet taken) (taken.guiGetTopWin.trans top) clicked rfl
  · exact careful.quiet taken

theorem enter_entries {row : UInt8} (careful : menu.Careful past) (pressed : past.origin = some .key2) :
    (menu.mark (.enter number row)).entries past = (.enter number row, some .key2) :: menu.entries past :=
  pressed ▸ entries_cons rfl careful.reach

/-- The first `Enter` asks. -/
theorem first_careful (careful : menu.Careful past) (top : menu.guiGetTopWin = some (.menuWin number))
    (asked : asks number = some button) (pressed : past.origin = some .key2) :
    { menu.mark (.enter number button) with confirmed := 1 }.Careful past := by
  have entered := careful.enter number button
  refine ⟨entered.reach, fun other row shown asking _ => ?_, entered.each⟩
  have same : number = other := Window.menuWin.inj (Option.some.inj (top.symm.trans shown))
  subst same
  have row : button = row := Option.some.inj (asked.symm.trans asking)
  subst row
  change Asked number button ((menu.mark (.enter number button)).entries past)
  rw [enter_entries careful pressed]
  exact .head

/-- The second `Enter` destroys. -/
theorem second_careful {made : Mark} (careful : menu.Careful past)
    (top : menu.guiGetTopWin = some (.menuWin number)) (asked : asks number = some button)
    (pressed : past.origin = some .key2) (set : menu.confirmed ≠ 0)
    (destroyed : destroys made = some (number, button)) :
    ((menu.mark (.enter number button)).mark made).Careful past := by
  have entered := careful.enter number button
  have cons : ((menu.mark (.enter number button)).mark made).entries past = (made, past.origin) ::
      (menu.mark (.enter number button)).entries past := entries_cons rfl entered.reach
  refine ⟨entered.reach.trans (Nat.le_succ _), fun other row shown asking set => ?_, ?_⟩
  · rw [cons]
    refine (entered.armed other row shown asking set).cons ?_
    rintro rfl
    cases destroyed
  · rw [cons]
    refine eachEntry_cons.mpr ⟨?_, entered.each⟩
    intro other row destroying
    obtain ⟨rfl, rfl⟩ : number = other ∧ button = row := by
      simpa using destroyed.symm.trans destroying
    exact ⟨menu.entries past, enter_entries careful pressed, careful.armed number button top asked set⟩

theorem counterInputFun_careful {reset : Op} (careful : menu.Careful past)
    (top : menu.guiGetTopWin = some (.menuWin number)) (asked : asks number = some 1) (other : number ≠ 19)
    (destroyed : destroys (.operate reset) = some (number, 1))
    (pressed : menu.AsksEnter → past.origin = some .key2) :
    (menu.counterInputFun number reset).Careful past := by
  have moved := @keys_quiet menu _ _ .up .down (rowUp_steady 1 2) (rowDown_steady 1 2)
  have shown : menu.asking = asks number := by rw [asking, top]
  have same : menu.asksMoved = (menu.onClick .up fun menu => menu.rowUp 1 2).onClick .down fun menu =>
      menu.rowDown 1 2 :=
    if_neg fun reset => other (Window.menuWin.inj (Option.some.inj (top.symm.trans reset)))
  refine tryTake_careful (askedEnter_careful (careful.quiet moved) (moved.guiGetTopWin.trans top) ?_) .long
  intro entered careful top clicked kept
  rw [keys_enter (fun menu => menu.rowUp 1 2) (fun menu => menu.rowDown 1 2) (fun _ => rfl) fun _ => rfl] at clicked
  rw [counterEnter]
  split
  · rename_i row
    change entered.nowButtonId = 1 at row
    have pressed := pressed ⟨clicked, by rw [shown, asked, same, ← kept, row]⟩
    rw [row]
    split
    · exact (first_careful careful top asked pressed).quiet (setFlags_steady _).toQuiet
    · rename_i set
      have stored := careful.quiet (store_quiet reset)
      exact guiWinDeleteTop_careful (second_careful stored top asked pressed set destroyed)
  split
  · exact guiWinDeleteTop_careful (careful.enter number _)
  · exact careful.enter number _

theorem userMain19InputFun_careful (careful : menu.Careful past) (top : menu.guiGetTopWin = some (.menuWin 19))
    (pressed : menu.AsksEnter → past.origin = some .key2) : menu.userMain19InputFun.Careful past := by
  have moved := @keys_quiet menu _ _ .up .down rowToggle_steady rowToggle_steady
  have shown : menu.asking = some 0 := by
    rw [asking, top]
    rfl
  have same : menu.asksMoved = (menu.onClick .up rowToggle).onClick .down rowToggle := if_pos top
  refine tryTake_careful (askedEnter_careful (careful.quiet moved) (moved.guiGetTopWin.trans top) ?_) .long
  intro entered careful top clicked kept
  rw [keys_enter rowToggle rowToggle rowToggle_screen rowToggle_screen] at clicked
  rw [userMain19Enter]
  split
  · rename_i row
    change entered.nowButtonId = 0 at row
    have pressed := pressed ⟨clicked, by rw [shown, same, ← kept, row]⟩
    rw [row]
    split
    · exact (first_careful careful top rfl pressed).quiet (setFlags_steady _).toQuiet
    · rename_i set
      have reset : entered.factorySet.Careful past := careful.quiet ⟨rfl, rfl, rfl⟩
      exact second_careful reset top rfl pressed set rfl
  split
  · exact guiWinDeleteTop_careful (careful.enter 19 _)
  · exact careful.enter 19 _

/-! ## A poll and the other events -/

theorem userMainInputFun_careful (careful : menu.Careful past) (top : menu.guiGetTopWin = some (.menuWin number))
    (pressed : menu.AsksEnter → past.origin = some .key2) :
    (menu.userMainInputFun number).Careful past := by
  unfold userMainInputFun
  split
  · exact userMain1InputFun_careful careful
  · exact userMain2InputFun_careful careful
  · exact intervalInputFun_careful careful .reminder
  · exact intervalInputFun_careful careful .automatic
  · exact userMain6InputFun_careful careful
  · exact listInputFun_careful careful 7 _
  · exact listInputFun_careful careful 8 _
  · exact counterInputFun_careful careful top rfl (by decide) rfl pressed
  · exact counterInputFun_careful careful top rfl (by decide) rfl pressed
  · exact counterInputFun_careful careful top rfl (by decide) rfl pressed
  · exact counterInputFun_careful careful top rfl (by decide) rfl pressed
  · exact noteInputFun_careful careful
  · exact userMain14InputFun_careful careful
  · exact valueInputFun_careful careful hardnessUp_apart.toSteady hardnessDown_apart.toSteady
      fun careful => careful.operate (.tdslimit _) rfl
  · exact valueInputFun_careful careful backwashUp_apart.toSteady backwashDown_apart.toSteady
      fun careful => careful.operate (.backwashtime _) rfl
  · exact noteInputFun_careful careful
  · exact userMain19InputFun_careful careful top pressed
  · exact userMain20InputFun_careful careful
  · exact noteInputFun_careful careful
  · exact batteryInputFun_careful careful
  · exact batteryInputFun_careful careful
  · exact userMain28InputFun_careful careful
  · exact valueInputFun_careful careful calibUp_steady calibDown_steady
      fun careful => careful.operate (.tdscalib _) rfl
  · exact noteInputFun_careful careful
  · exact userMain31InputFun_careful careful
  · exact userMain32InputFun_careful careful
  · exact careful

theorem guiWinDisplay_careful (careful : menu.Careful past) (pressed : menu.AsksEnter → past.origin = some .key2) :
    menu.guiWinDisplay.Careful past := by
  rw [guiWinDisplay]
  split
  · exact careful
  · exact userMain3InputFun_careful careful
  · exact userMain25InputFun_careful careful
  · exact careful.quiet winWifiInputCallback_apart.toQuiet
  · rename_i top
    exact userMainInputFun_careful careful top pressed

theorem jumpToBattery_careful (careful : menu.Careful past) (window : Window) : (menu.jumpToBattery window).Careful past := by
  rw [jumpToBattery]
  split
  · exact guiWinAdd_careful careful _
  · exact careful

theorem wifiConnectWinAdd_careful (careful : menu.Careful past) : menu.wifiConnectWinAdd.Careful past := by
  rw [wifiConnectWinAdd]
  split
  · exact guiWinAdd_careful careful _
  · exact careful

theorem respond_careful (careful : menu.Careful past) (event : Event)
    (pressed : event = .guiWinDisplay → menu.AsksEnter → past.origin = some .key2) : (menu.respond event).Careful past := by
  cases event with
  | screen event still => exact careful.quiet (screen_apart still).toQuiet
  | store op other => exact careful.quiet (store_quiet op)
  | apTimeoutControl state => exact careful.quiet (store_quiet (apSwitch state))
  | push thread =>
      rw [respond]
      split
      · exact Careful.quiet (guiWinAdd_careful careful _) ⟨rfl, rfl, rfl⟩
      · exact careful
  | rtcReminder =>
      have noted : (menu.on fun screen => screen.on fun display =>
          { display with screenReload := false }.call [.insertNotifyArray 0x07]).Careful past :=
        careful.quiet ⟨rfl, rfl, rfl⟩
      rw [respond, lcdtoReminder]
      split
      · exact guiWinAdd_careful noted _
      · exact noted
  | refreshDisplay => exact refreshDisplay_careful careful
  | lcdRefresh =>
      rw [respond, lcdRefreshFromSleep]
      split
      · exact home_careful (careful.quiet ⟨rfl, rfl, rfl⟩)
      · exact careful
  | reloadMainWin =>
      rw [respond, reloadMainWin]
      split
      · exact careful.windowFunction _
      · exact careful
  | jumpToBatteryEmpty => exact jumpToBattery_careful (careful.quiet (store_quiet .errorCounted)) _
  | jumpToBatteryNew => exact jumpToBattery_careful (careful.quiet (store_quiet .errorCounted)) _
  | wifiConnectStart => exact (wifiConnectWinAdd_careful careful).quiet ⟨rfl, rfl, rfl⟩
  | wifiCloseExpires =>
      rw [respond]
      split
      · rw [wifiConnectWinDel]
        split
        · exact guiWinDeleteTop_careful (careful.quiet ⟨rfl, rfl, rfl⟩)
        · exact careful.quiet ⟨rfl, rfl, rfl⟩
      · exact careful
  | guiWinDisplay => exact guiWinDisplay_careful careful (pressed rfl)
  | factorySet => exact careful.quiet ⟨rfl, rfl, rfl⟩
  | reboot left right inputs ram => exact careful

end Menu

/-! ## The origin of the clicks -/

/-- The menus with the origins of the clicks that wait at `K2_Sem`, the oldest first. -/
structure Traced where
  menu : Menu
  origins : List Origin
  entries : List Entry

namespace Traced

variable {traced : Traced}

def past (traced : Traced) : Past := ⟨traced.origins.head?, traced.entries⟩

/-- The value of `K2_Sem`. -/
def waiting (menu : Menu) : Nat := menu.screen.display.clicks .enter

/-- Who releases `K2_Sem` on an event. -/
def originOf : Menu.Event → Origin
  | .screen .doneJumpExpires _ => .doneJump
  | _ => .key2

/-- A step of the menus; what it adds to the value of `K2_Sem` waits behind what it has left of it. -/
def step (traced : Traced) (event : Menu.Event) : Traced :=
  let after := traced.menu.step event
  { menu := after
    origins := traced.origins.drop (waiting traced.menu - waiting after) ++
      List.replicate (waiting after - waiting traced.menu) (originOf event)
    entries := after.entries traced.past }

def boot (left right : Bool) (inputs : Moto.Inputs) (device : Device) : Traced where
  menu := Menu.boot left right inputs device
  origins := []
  entries := [(.windowFunction userMain1Win, none)]

/-- A window that asks takes no click of `DoneJump_Timer` on the button on which it asks. -/
def Pressed (traced : Traced) : Menu.Event → Prop
  | .guiWinDisplay =>
      traced.menu.halted = false → traced.menu.AsksEnter → traced.origins.head? ≠ some .doneJump
  | _ => True

instance (event : Menu.Event) : Decidable (traced.Pressed event) := by
  cases event <;> unfold Pressed <;> infer_instance

/-- What is known of the menus between two steps. -/
structure Kept (traced : Traced) : Prop where
  origins : traced.origins.length = waiting traced.menu
  known : traced.entries.length = traced.menu.history.length
  careful : traced.menu.Careful traced.past

theorem boot_kept (left right : Bool) (inputs : Moto.Inputs) (device : Device) :
    (boot left right inputs device).Kept := by
  refine ⟨rfl, rfl, Nat.le_refl _, fun number button top asked set => ?_, ?_⟩
  · cases top
    cases asked
  · exact eachEntry_cons.mpr ⟨confirmed_of_harmless rfl _, eachEntry_nil⟩

theorem waits_of_clicked (kept : traced.Kept) (clicked : traced.menu.clicked .enter = true) :
    ∃ origin, traced.origins.head? = some origin := by
  have waits : waiting traced.menu ≠ 0 := by
    simpa [waiting, Menu.clicked, Screen.clicked, State.clicked] using clicked
  rw [← kept.origins] at waits
  exact Option.isSome_iff_exists.mp (by simpa [List.isSome_head?] using waits)

theorem menuStep_careful (kept : traced.Kept) (event : Menu.Event) (pressed : traced.Pressed event) :
    (traced.menu.step event).Careful traced.past := by
  rcases Menu.step_cases traced.menu event with ⟨left, right, inputs, ram, rfl⟩ | running
  · have cons : (traced.menu.step (.reboot left right inputs ram)).entries traced.past =
        (.windowFunction userMain1Win, traced.origins.head?) :: traced.menu.entries traced.past :=
      Menu.entries_cons rfl kept.careful.reach
    refine ⟨kept.careful.reach.trans (Nat.le_succ _), fun number button top asked set => ?_, ?_⟩
    · cases top
      cases asked
    · rw [cons]
      exact eachEntry_cons.mpr ⟨confirmed_of_harmless rfl _, kept.careful.each⟩
  · rw [running]
    split
    · exact kept.careful
    · rename_i awake
      refine Menu.respond_careful kept.careful event ?_
      rintro rfl asks
      obtain ⟨origin, first⟩ := waits_of_clicked kept asks.1
      cases origin with
      | key2 => exact first
      | doneJump => exact absurd first (pressed (Bool.eq_false_iff.mpr awake) asks)

theorem step_kept (kept : traced.Kept) (event : Menu.Event) (pressed : traced.Pressed event) :
    (traced.step event).Kept := by
  have careful := menuStep_careful kept event pressed
  have known : ((traced.menu.step event).entries traced.past).length = (traced.menu.step event).history.length :=
    Menu.entries_length careful.reach
  have kept' : (traced.menu.step event).entries (traced.step event).past =
      (traced.menu.step event).entries traced.past := Menu.entries_of_unchanged known
  refine ⟨?_, known, known.le, ?_, ?_⟩
  · have before := kept.origins
    simp only [step, List.length_append, List.length_drop, List.length_replicate]
    omega
  · exact kept' ▸ careful.armed
  · exact kept' ▸ careful.each

/-- Over every run in which no window that asks takes a click of `DoneJump_Timer` for an answer, a counter
is reset and the device is set back from the menus only on a press of `Enter` that comes after another one
on the same button, taken by the same window since it was drawn last. -/
theorem destroys_after_second_press (left right : Bool) (inputs : Moto.Inputs) (device : Device)
    (events : List Menu.Event) (pressed : EachStep step Pressed (boot left right inputs device) events) :
    Throughout step (fun traced => EachEntry Confirmed traced.entries) (boot left right inputs device) events := by
  have kept : Throughout step Kept (boot left right inputs device) events :=
    throughout_of_eachStep (boot_kept left right inputs device) (fun _ event kept => step_kept kept event) pressed
  intro count
  have each := (kept count).careful.each
  rwa [Menu.entries_of_unchanged (kept count).known] at each

def presses (keys : List Key) : List Menu.Event := keys.flatMap Menu.pressed

/-- The motor's switches and timers. -/
def hardware (events : List Moto.Event) : List Menu.Event :=
  events.filterMap fun event =>
    if other : event ≠ .cycle ∧ event ≠ .pause ∧ event ≠ .resume then some (.screen (.moto event other) rfl)
    else none

def fresh : Traced :=
  boot false true ⟨0, 30, 100, 0, 0⟩ (Storage.flashInit Storage.emptyStore Storage.blankRam)

/-- `Enter` twice on the counter of the backwashes by hand. -/
theorem destroys_after_second_press_manual :
    (.operate .manualReset, some .key2) ∈ (run step fresh (presses [.up, .enter, .enter, .enter, .enter, .enter])).entries ∧
      Throughout step (fun traced => EachEntry Confirmed traced.entries) fresh
        (presses [.up, .enter, .enter, .enter, .enter, .enter]) :=
  ⟨by decide +kernel, destroys_after_second_press _ _ _ _ _ (by decide +kernel)⟩

/-- A backwash by hand that finishes, and whose screen is left with `Enter`; then one `Enter` on `Reset`, and
`DoneJump_Timer` expires. -/
def leftBeforeDoneJump : List Menu.Event :=
  presses [.enter, .enter] ++ hardware [.rightLevel false] ++ [.guiWinDisplay] ++
    hardware [.cycleExpires, .leftLevel true, .leftLevel false] ++ [.guiWinDisplay] ++
      presses [.enter, .up, .enter, .enter, .enter, .enter] ++ [.screen .doneJumpExpires rfl, .guiWinDisplay]

theorem reset_by_doneJump :
    ¬Throughout step (fun traced => EachEntry Confirmed traced.entries) fresh leftBeforeDoneJump := by
  intro holds
  have done : (run step fresh leftBeforeDoneJump).entries =
      [(.windowFunction (.menuWin 8), some .doneJump)] ++ (.operate .manualReset, some .doneJump) ::
        (run step fresh leftBeforeDoneJump).entries.drop 2 := by decide +kernel
  have answered : ((run step fresh leftBeforeDoneJump).entries.drop 2).head? = some (.enter 9 1, some .doneJump) := by
    decide +kernel
  obtain ⟨before, pressed, -⟩ := holds.last _ _ _ done 9 1 rfl
  rw [pressed] at answered
  cases answered

end Traced

end SyrFilter.Display
