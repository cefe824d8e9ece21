import SyrFilter.Display.Highlight

namespace SyrFilter.Display

open SyrFilter.Lib
open SyrFilter.Storage (Device)
open SyrFilter.Rtc (Schedule)

/-! # Runs of the menus

The main window and the settings menu open the others and set the selection
after or before doing so; the interval windows keep theirs in `NowSetting`,
which stays behind when one of them is left by a way of its own.
-/

namespace Menu

variable {menu after : Menu} {window : Window} {number : Nat} {schedule : Schedule}

/-! ## Interval windows -/

theorem intervalEnter_wifiApEnable : (menu.intervalClick schedule .enter).wifiApEnable = menu.wifiApEnable := by
  change (menu.windows.enter schedule).device.ram.wifiApEnable = _
  rw [Rtc.Windows.enter]
  split
  · rfl
  split
  · rfl
  split
  · refine wifiApEnable_effect ?_ menu.windows.device.ram
    cases schedule <;> rfl
  · rfl

/-- What an interval window does to its row is the business of no other window. -/
theorem At.edited (here : At (.menuWin number) menu) (opened : openers number = [1])
    (stack : after.stack = menu.stack) (page : after.win14PageId = menu.win14PageId)
    (accessPoint : after.wifiApEnable = menu.wifiApEnable) : after.Sound := by
  obtain ⟨rest, stacked⟩ := stack_of_top here.top
  have nested := here.nested
  rw [stacked] at nested
  rw [nested.first opened] at stacked
  refine ⟨stack ▸ here.nested, page ▸ here.page, accessPoint ▸ here.accessPoint, fun settings _ => ?_⟩
  rw [stack, stacked, List.mem_pair] at settings
  rcases settings with same | main
  · obtain rfl := Window.menuWin.inj same
    cases opened
  · cases main

/-- `userMain4Win` and `userMain5Win`. -/
def windowOf : Schedule → Nat
  | .reminder => 4
  | .automatic => 5

theorem openers_windowOf : openers (windowOf schedule) = [1] := by cases schedule <;> rfl

theorem rows_windowOf : rows (.menuWin (windowOf schedule)) = [1, 2, 3] := by cases schedule <;> rfl

theorem chosen_windowOf : menu.chosen (.menuWin (windowOf schedule)) = menu.nowSetting + 1 := by
  cases schedule <;> rfl

theorem windowOf_other : windowOf schedule ≠ 1 ∧ windowOf schedule ≠ 14 := by cases schedule <;> decide

theorem intervalEnter_edited (here : At (.menuWin (windowOf schedule)) menu) :
    (menu.intervalClick schedule .enter).Sound :=
  here.edited openers_windowOf rfl rfl intervalEnter_wifiApEnable

theorem intervalEnter_leaves (here : At (.menuWin (windowOf schedule)) menu) :
    (menu.intervalClick schedule .enter).guiWinDeleteTop.InStep :=
  leave_inStep (intervalEnter_edited here) here.top windowOf_other.1 windowOf_other.2

/-- `Enter` moves on to the next row. -/
theorem intervalEnter_next {flags : List (UInt8 × UInt8)} (here : At (.menuWin (windowOf schedule)) menu)
    (kept : (menu.windows.temps schedule).enable ≠ 2) (first : menu.nowSetting = 0 ∨ menu.nowSetting = 1)
    (highlights : Highlights ((menu.intervalClick schedule .enter).setFlags flags).tButton [1, 2, 3]
      (menu.nowSetting + 1 + 1)) : ((menu.intervalClick schedule .enter).setFlags flags).InStep := by
  have next : (menu.intervalClick schedule .enter).nowSetting = menu.nowSetting + 1 := by
    change (menu.windows.enter schedule).nowSetting = _
    rw [Rtc.Windows.enter, if_neg kept]
    exact congrArg Rtc.Windows.nowSetting (if_pos first)
  have steady := @setFlags_steady (menu.intervalClick schedule .enter) flags
  refine ⟨(intervalEnter_edited here).steady steady, .of_top (steady.guiGetTopWin.trans here.top) fun _ => ?_⟩
  rw [rows_windowOf, chosen_windowOf, steady.nowSetting, next]
  exact highlights

theorem intervalEnter_inStep (here : At (.menuWin (windowOf schedule)) menu)
    (kept : (menu.windows.temps schedule).enable ≠ 2) : (menu.intervalEnter schedule).InStep := by
  have marked : ∀ op, ((menu.intervalClick schedule .enter).mark (.operate op)).Sound :=
    fun op => (intervalEnter_edited here).same rfl rfl rfl rfl
  have highlights := here.shown _ here.top (by rw [rows_windowOf]; exact List.cons_ne_nil _ _)
  have listed := highlights.listed
  rw [rows_windowOf, chosen_windowOf] at listed
  rw [intervalEnter]
  split
  · rename_i week
    refine intervalEnter_next here kept (.inl week) ?_
    rw [week]
    exact highlights_of_flags 2 (by decide) (by simp)
  split
  · rename_i day
    refine intervalEnter_next here kept (.inr day) ?_
    rw [day]
    exact highlights_of_flags 3 (by decide) (by simp)
  split
  · exact leave_inStep (marked _) here.top windowOf_other.1 windowOf_other.2
  · rename_i week day enable
    have row : menu.nowSetting = 0 ∨ menu.nowSetting = 1 ∨ menu.nowSetting = 2 := by
      simp only [List.mem_cons, List.not_mem_nil, or_false] at listed
      grind
    rcases row with first | second | third
    · exact absurd first week
    · exact absurd second day
    · exact absurd third enable

theorem intervalInputFun_inStep (here : At (.menuWin (windowOf schedule)) menu) :
    (menu.intervalInputFun schedule).InStep := by
  have moved : At (.menuWin (windowOf schedule)) (menu.intervalMoved schedule) :=
    (here.click fun taken => taken.apart (intervalUp_apart schedule)).click
      fun taken => taken.apart (intervalDown_apart schedule)
  rw [intervalInputFun]
  split
  · exact intervalEnter_leaves (moved.tryTake .enter)
  · rename_i stays
    refine tryTake_inStep ?_ .long
    rw [onClick]
    split
    · rename_i clicked
      refine intervalEnter_inStep (moved.tryTake .enter) fun leaves => stays ?_
      have left : ((menu.intervalMoved schedule).windows.temps schedule).enable = 2 := leaves
      rw [clicked, left]
      rfl
    · exact (moved.tryTake .enter).toInStep

/-! ## The main window -/

theorem stack_of_main (here : At userMain1Win menu) : menu.stack = [userMain1Win] := by
  obtain ⟨rest, stacked⟩ := stack_of_top here.top
  have nested := here.nested
  rw [stacked] at nested
  rw [stacked, nested.main]

theorem userMain1Page_at (here : At userMain1Win menu) (button page : UInt8) :
    At userMain1Win (menu.userMain1Page button page) := by
  have turned : ({ menu with nowButtonId := button, win1PageId := page } : Menu).Sound :=
    here.toSound.same rfl rfl rfl rfl
  refine ⟨redraw_inStep turned here.top trivial, ?_⟩
  rw [userMain1Page, guiGetTopWin, windowFunction_stack]
  exact here.top

theorem userMain1Up_at (here : At userMain1Win menu) : At userMain1Win menu.userMain1Up := by
  rw [userMain1Up]
  split
  · exact userMain1Page_at here 4 1
  split
  · exact userMain1Page_at here 3 2
  · exact here.unselectable (select_steady _) rfl

theorem userMain1Down_at (here : At userMain1Win menu) : At userMain1Win menu.userMain1Down := by
  rw [userMain1Down]
  split
  · exact userMain1Page_at here 4 1
  split
  · exact userMain1Page_at here 5 0
  · exact here.unselectable (select_steady _) rfl

theorem onClick_kept {β : Type*} {key : Key} {handle : Menu → Menu} (read : Menu → β)
    (takes : ∀ {menu : Menu}, read (menu.tryTake key) = read menu)
    (handles : ∀ {menu}, read (handle menu) = read menu) : read (menu.onClick key handle) = read menu := by
  rw [onClick]
  split
  · exact handles.trans takes
  · exact takes

theorem userMain1Moved_nowSetting : menu.userMain1Moved.nowSetting = menu.nowSetting := by
  have page : ∀ {menu : Menu} button page, (menu.userMain1Page button page).nowSetting = menu.nowSetting :=
    fun _ _ => (draw_drawn userMain1Win).nowSetting
  have up : ∀ {menu : Menu}, menu.userMain1Up.nowSetting = menu.nowSetting := by
    intro menu
    rw [userMain1Up]
    split
    · exact page 4 1
    split
    · exact page 3 2
    · rfl
  have down : ∀ {menu : Menu}, menu.userMain1Down.nowSetting = menu.nowSetting := by
    intro menu
    rw [userMain1Down]
    split
    · exact page 4 1
    split
    · exact page 5 0
    · rfl
  exact (onClick_kept nowSetting rfl down).trans (onClick_kept nowSetting rfl up)

/-- The windows that the rows of the main window open. -/
def userMain1Rows : List Nat := [2, 4, 5, 6, 7]

def userMain1Row (menu : Menu) : Option Nat := userMain1Rows[menu.nowButtonId.toNat]?

theorem firstRow_of_userMain1Row (row : menu.userMain1Row = some number)
    (interval : number = 4 ∨ number = 5 → menu.nowSetting = 0) : menu.FirstRow (.menuWin number) := by
  have manual : ∀ row : Fin userMain1Rows.length, userMain1Rows.get row = 2 → row.val = 0 := by
    decide
  obtain ⟨bound, value⟩ := List.getElem?_eq_some_iff.mp row
  unfold FirstRow
  split
  · have first := manual ⟨_, bound⟩ (value.trans (Window.menuWin.inj ‹_›))
    exact UInt8.toNat_inj.mp first
  · exact interval (.inl (Window.menuWin.inj ‹_›))
  · exact interval (.inr (Window.menuWin.inj ‹_›))
  · trivial

/-- The window that `Enter` opens in a poll of the main window. -/
def userMain1Opens (menu : Menu) : Option Nat :=
  if menu.userMain1Moved.clicked .enter then menu.userMain1Moved.userMain1Row else none

/-- The settings menu can be opened. -/
structure Settled (menu : Menu) : Prop extends InStep menu where
  below : ∃ under, menu.guiGetTopWin = some (.menuWin under) ∧ under ∈ openers 14
  noInterval : .menuWin 4 ∈ menu.stack ∨ .menuWin 5 ∈ menu.stack → menu.nowSetting = 0

theorem settled_of_main (here : At userMain1Win menu) : menu.Settled := by
  refine ⟨here.toInStep, ⟨1, here.top, by decide⟩, fun interval => ?_⟩
  rw [stack_of_main here] at interval
  exact absurd interval (by decide)

theorem Settled.tryTake (settled : menu.Settled) (key : Key) : (menu.tryTake key).Settled := by
  have steady := @tryTake_apart menu key
  obtain ⟨under, top, listed⟩ := settled.below
  refine ⟨tryTake_inStep settled.toInStep key, ⟨under, steady.guiGetTopWin.trans top, listed⟩, ?_⟩
  rw [steady.stack]
  exact settled.noInterval

theorem opened_settled (here : At userMain1Win menu) (listed : number ∈ userMain1Rows)
    (first : menu.FirstRow (.menuWin number)) : (menu.guiWinAdd (.menuWin number)).Settled := by
  have alone := stack_of_main here
  have room := here.room here.top
  have stack : (menu.guiWinAdd (.menuWin number)).stack = [.menuWin number, userMain1Win] := by
    rw [guiWinAdd_of_room room, windowFunction_stack]
    exact congrArg _ alone
  have opener : ∀ row ∈ userMain1Rows, 1 ∈ openers row ∧ row ∈ openers 14 ∧ row ≠ 14 := by decide
  obtain ⟨main, settings, other⟩ := opener number listed
  refine ⟨open_inStep here.toSound here.top main first fun same => absurd same other,
    ⟨number, congrArg List.head? stack, settings⟩, fun interval => ?_⟩
  have setting : (menu.guiWinAdd (.menuWin number)).nowSetting = menu.nowSetting := by
    rw [guiWinAdd_of_room room]
    exact (draw_drawn _).nowSetting
  rw [stack, List.mem_pair, List.mem_pair] at interval
  rw [setting]
  rcases interval with (reminder | main) | (automatic | main)
  · obtain rfl := Window.menuWin.inj reminder
    exact first
  · cases main
  · obtain rfl := Window.menuWin.inj automatic
    exact first
  · cases main

theorem userMain1Enter_settled (here : At userMain1Win menu)
    (first : ∀ opened, menu.userMain1Row = some opened → menu.FirstRow (.menuWin opened)) :
    menu.userMain1Enter.Settled := by
  have paged : At userMain1Win { menu with win1PageId := 0 } :=
    ⟨⟨here.toSound.same rfl rfl rfl rfl, here.shown⟩, here.top⟩
  have opens : ∀ button opened, menu.nowButtonId = button → userMain1Rows[button.toNat]? = some opened →
      ({ menu with win1PageId := 0 }.guiWinAdd (.menuWin opened)).Settled := by
    rintro button opened rfl row
    exact opened_settled paged (List.mem_of_getElem? row) (first opened row)
  rw [userMain1Enter]
  split
  · exact opens 0 2 ‹_› rfl
  split
  · exact opens 1 4 ‹_› rfl
  split
  · exact opens 2 5 ‹_› rfl
  split
  · exact opens 3 6 ‹_› rfl
  split
  · exact opens 4 7 ‹_› rfl
  · exact settled_of_main paged

theorem userMain1Long_inStep (settled : menu.Settled) : menu.userMain1Long.InStep := by
  obtain ⟨under, top, listed⟩ := settled.below
  have moved : ({ menu.setNow 0 with win1PageId := 0 } : Menu).Sound := settled.toSound.same rfl rfl rfl rfl
  exact open_inStep moved top listed trivial fun _ => settled.noInterval

theorem userMain1InputFun_inStep (here : At userMain1Win menu)
    (settled : ∀ opened, menu.userMain1Opens = some opened → opened = 4 ∨ opened = 5 → menu.nowSetting = 0) :
    menu.userMain1InputFun.InStep := by
  have moved : At userMain1Win menu.userMain1Moved := (here.click userMain1Up_at).click userMain1Down_at
  have entered : (menu.userMain1Moved.onEnter 1 userMain1Enter).Settled := by
    rw [onEnter, onClick]
    split
    · rename_i clicked
      refine userMain1Enter_settled ((moved.tryTake .enter).mark _) fun opened row => ?_
      refine firstRow_of_userMain1Row row fun interval => ?_
      have opens : menu.userMain1Opens = some opened := (if_pos clicked).trans row
      exact userMain1Moved_nowSetting.trans (settled opened opens interval)
    · exact settled_of_main (moved.tryTake .enter)
  rw [userMain1InputFun, onClick]
  split
  · exact userMain1Long_inStep (entered.tryTake .long)
  · exact tryTake_inStep entered.toInStep .long

/-! ## The settings menu -/

theorem userMain14Page_at {pages : List UInt8} (here : At (.menuWin 14) menu)
    (listed : ∀ page ∈ pages, page < 8) : At (.menuWin 14) (menu.userMain14Page pages) := by
  have page : pages.getD menu.win14PageId.toNat menu.win14PageId < 8 := by
    rw [List.getD_eq_getElem?_getD]
    cases found : pages[menu.win14PageId.toNat]? with
    | none => exact here.page
    | some page => exact listed page (List.mem_of_getElem? found)
  refine ⟨redraw_inStep ⟨here.nested, page, here.accessPoint, here.settled⟩ here.top trivial, ?_⟩
  rw [userMain14Page, guiGetTopWin, windowFunction_stack]
  exact here.top

theorem userMain14Above_lt : ∀ page ∈ userMain14Above, page < 8 := by simp [userMain14Above]

theorem userMain14Below_lt : ∀ page ∈ userMain14Below, page < 8 := by simp [userMain14Below]

theorem userMain14Up_at (here : At (.menuWin 14) menu) : At (.menuWin 14) menu.userMain14Up := by
  have plain : Plain (.menuWin 14) := fun _ => rfl
  have listed := here.listed plain (List.cons_ne_nil _ _)
  rw [userMain14Up]
  split
  · exact userMain14Page_at here userMain14Above_lt
  · refine here.select plain fun _ => ?_
    simp only [rows, List.mem_cons, List.not_mem_nil, or_false] at listed ⊢
    grind

theorem userMain14Down_at (here : At (.menuWin 14) menu) : At (.menuWin 14) menu.userMain14Down := by
  have plain : Plain (.menuWin 14) := fun _ => rfl
  have listed := here.listed plain (List.cons_ne_nil _ _)
  rw [userMain14Down]
  split
  · exact userMain14Page_at here userMain14Below_lt
  · refine here.select plain fun _ => ?_
    simp only [rows, List.mem_cons, List.not_mem_nil, or_false] at listed ⊢
    grind

/-- Wherever the selection stands in the settings menu, it stands on a row. -/
theorem userMain14Row_found (here : At (.menuWin 14) menu) :
    ∃ rows ∈ userMain14Rows, ∃ row ∈ rows, menu.userMain14Row = some row := by
  have listed := here.listed (fun _ => rfl) (List.cons_ne_nil _ _)
  have button : menu.nowButtonId.toNat < 3 := by
    simp only [rows, List.mem_cons, List.not_mem_nil, or_false] at listed
    rcases listed with first | second | third
    · rw [first]; decide
    · rw [second]; decide
    · rw [third]; decide
  have page : menu.win14PageId.toNat < userMain14Rows.length := UInt8.lt_iff_toNat_lt.mp here.page
  have three : ∀ rows ∈ userMain14Rows, rows.length = 3 := by decide
  have turned := List.getElem_mem page
  have row : menu.nowButtonId.toNat < userMain14Rows[menu.win14PageId.toNat].length := by
    rw [three _ turned]
    exact button
  refine ⟨_, turned, _, List.getElem_mem row, ?_⟩
  rw [userMain14Row, List.getElem?_eq_getElem page, Option.bind_some, List.getElem?_eq_getElem row]

/-- The windows opened from the settings menu. -/
def settingsMenus : List Nat := [30, 16, 17, 18, 19, 20, 31, 32, 23, 28, 29]

theorem settingsMenus_of_row : ∀ rows ∈ userMain14Rows, ∀ row ∈ rows, ∀ opened ∈ row, opened ∈ settingsMenus := by
  decide

theorem settingsMenus_open : ∀ opened ∈ settingsMenus,
    14 ∈ openers opened ∧ opened ≠ 2 ∧ opened ≠ 4 ∧ opened ≠ 5 ∧ opened ≠ 14 := by decide

/-- They select their first button, but for the access point. -/
theorem settingsMenus_select {opened : Nat} (listed : opened ∈ settingsMenus)
    (selectable : rows (.menuWin opened) ≠ []) (disabled : opened = 32 → menu.wifiApEnable = 0) :
    (menu.draw (.menuWin opened)).nowButtonId = 0 := by
  simp only [settingsMenus, List.mem_cons, List.not_mem_nil, or_false] at listed
  rcases listed with rfl | rfl | rfl | rfl | rfl | rfl | rfl | rfl | rfl | rfl | rfl
  case inr.inr.inr.inr.inr.inr.inr.inl => exact disabled rfl
  all_goals first
    | rfl
    | exact absurd rfl selectable

/-- After a row has been carried out the selection is the first button. -/
theorem reset_inStep (sound : menu.Sound) (top : menu.guiGetTopWin = some window)
    (highlights : rows window ≠ [] → Highlights menu.tButton (rows window)
      (chosen { menu with win14PageId := 0, nowButtonId := 0 } window)) :
    ({ menu with win14PageId := 0, nowButtonId := 0 } : Menu).InStep := by
  have page : (0 : UInt8) < 8 := by decide
  exact ⟨⟨sound.nested, page, sound.accessPoint, sound.settled⟩, .of_top top highlights⟩

theorem plain_of_ne (reminder : number ≠ 4) (automatic : number ≠ 5) : Plain (.menuWin number) := by
  intro menu
  unfold chosen
  split
  · rename_i same
    exact absurd (Window.menuWin.inj same) reminder
  · rename_i same
    exact absurd (Window.menuWin.inj same) automatic
  · rfl

theorem settingsMenu_inStep {opened : Nat} (here : At (.menuWin 14) menu) (listed : opened ∈ settingsMenus)
    (disabled : opened = 32 → menu.wifiApEnable = 0) :
    ({ menu.guiWinAdd (.menuWin opened) with win14PageId := 0, nowButtonId := 0 } : Menu).InStep := by
  obtain ⟨opener, manual, reminder, automatic, settings⟩ := settingsMenus_open opened listed
  have plain := plain_of_ne reminder automatic
  have inStep := open_inStep here.toSound here.top opener (firstRow_of_ne manual reminder automatic)
    fun same => absurd same settings
  rw [guiWinAdd_of_room (here.room here.top)] at inStep ⊢
  have top : ((menu.restack (.menuWin opened :: menu.stack) (here.room here.top)).windowFunction
      (.menuWin opened)).guiGetTopWin = some (.menuWin opened) := by
    rw [guiGetTopWin, windowFunction_stack]
    rfl
  refine reset_inStep inStep.toSound top fun selectable => ?_
  have highlights := inStep.shown _ top selectable
  have selected := @settingsMenus_select (menu.restack (.menuWin opened :: menu.stack) (here.room here.top))
    opened listed selectable disabled
  rw [plain] at highlights ⊢
  exact selected ▸ highlights

/-- The exit of the settings menu. -/
theorem settingsExit_inStep (here : At (.menuWin 14) menu) :
    ({ menu.guiWinDeleteTop with win14PageId := 0, nowButtonId := 0 } : Menu).InStep := by
  obtain ⟨rest, stack⟩ := stack_of_top here.top
  have nested := here.nested
  have settled := here.settled
  rw [stack] at nested settled
  obtain ⟨under, deeper, rfl, listed⟩ := nested.exists_opener (by decide)
  obtain ⟨fits, uncovers⟩ := guiWinDeleteTop_of_below stack
  have sound := (here.toSound.pop stack fits).windowFunction (.menuWin under)
  rw [uncovers]
  refine reset_inStep sound (congrArg List.head? (windowFunction_stack _)) fun selectable => ?_
  simp only [openers, List.mem_cons, List.not_mem_nil, or_false] at listed
  rcases listed with rfl | rfl | rfl | rfl | rfl | rfl
  · exact absurd rfl selectable
  · exact highlights_of_flags 0 (by decide) (by simp [rows])
  · have first : menu.nowSetting = 0 := settled List.mem_cons_self (.inl (by simp))
    exact @draw_highlights (menu.restack _ fits) (.menuWin 4) first here.page here.accessPoint selectable
  · have first : menu.nowSetting = 0 := settled List.mem_cons_self (.inr (by simp))
    exact @draw_highlights (menu.restack _ fits) (.menuWin 5) first here.page here.accessPoint selectable
  · exact absurd rfl selectable
  · exact absurd rfl selectable

theorem userMain14Enter_inStep (here : At (.menuWin 14) menu)
    (disabled : menu.userMain14Row = some (some 32) → menu.wifiApEnable = 0) : menu.userMain14Enter.InStep := by
  obtain ⟨rows, turned, row, member, found⟩ := userMain14Row_found here
  rw [userMain14Enter, found]
  cases row with
  | none => exact settingsExit_inStep here
  | some opened =>
      refine settingsMenu_inStep here (settingsMenus_of_row rows turned _ member opened rfl) ?_
      rintro rfl
      exact disabled found

theorem userMain14Moved_wifiApEnable : menu.userMain14Moved.wifiApEnable = menu.wifiApEnable := by
  have page : ∀ {menu : Menu} pages, (menu.userMain14Page pages).wifiApEnable = menu.wifiApEnable :=
    fun _ => (draw_drawn (.menuWin 14)).wifiApEnable
  have up : ∀ {menu : Menu}, menu.userMain14Up.wifiApEnable = menu.wifiApEnable := by
    intro menu
    rw [userMain14Up]
    split
    · exact page _
    · rfl
  have down : ∀ {menu : Menu}, menu.userMain14Down.wifiApEnable = menu.wifiApEnable := by
    intro menu
    rw [userMain14Down]
    split
    · exact page _
    · rfl
  exact (onClick_kept wifiApEnable rfl down).trans (onClick_kept wifiApEnable rfl up)

/-- The window that `Enter` opens in a poll of the settings menu. -/
def userMain14Opens (menu : Menu) : Option Nat :=
  if menu.userMain14Moved.clicked .enter then menu.userMain14Moved.userMain14Row.join else none

theorem userMain14InputFun_inStep (here : At (.menuWin 14) menu)
    (disabled : menu.userMain14Opens = some 32 → menu.wifiApEnable = 0) : menu.userMain14InputFun.InStep := by
  have moved : At (.menuWin 14) menu.userMain14Moved := (here.click userMain14Up_at).click userMain14Down_at
  refine tryTake_inStep ?_ .long
  rw [onEnter, onClick]
  split
  · rename_i clicked
    refine userMain14Enter_inStep ((moved.tryTake .enter).mark _) fun row => ?_
    have opens : menu.userMain14Opens = some 32 := (if_pos clicked).trans (congrArg Option.join row)
    exact userMain14Moved_wifiApEnable.trans (disabled opens)
  · exact (moved.tryTake .enter).toInStep

/-! ## The other windows -/

theorem userMainInputFun_inStep (here : At (.menuWin number) menu) (main : number ≠ 1) (settings : number ≠ 14) :
    (menu.userMainInputFun number).InStep := by
  unfold userMainInputFun
  split
  · exact absurd rfl main
  · exact userMain2InputFun_inStep here
  · exact intervalInputFun_inStep here
  · exact intervalInputFun_inStep here
  · exact userMain6InputFun_inStep here
  · exact listInputFun_inStep here rfl main settings (by decide)
  · exact listInputFun_inStep here rfl main settings (by decide)
  · exact counterInputFun_inStep here (fun _ => rfl) rfl main settings rfl
  · exact counterInputFun_inStep here (fun _ => rfl) rfl main settings rfl
  · exact counterInputFun_inStep here (fun _ => rfl) rfl main settings rfl
  · exact counterInputFun_inStep here (fun _ => rfl) rfl main settings rfl
  · exact noteInputFun_inStep here main settings
  · exact absurd rfl settings
  · exact valueInputFun_inStep here (fun _ => rfl) rfl main settings (fun taken => taken.apart hardnessUp_apart)
      (fun taken => taken.apart hardnessDown_apart) (fun inStep => operate_inStep inStep rfl) rfl
  · exact valueInputFun_inStep here (fun _ => rfl) rfl main settings (fun taken => taken.apart backwashUp_apart)
      (fun taken => taken.apart backwashDown_apart) (fun inStep => operate_inStep inStep rfl) rfl
  · exact noteInputFun_inStep here main settings
  · exact userMain19InputFun_inStep here
  · exact userMain20InputFun_inStep here
  · exact noteInputFun_inStep here main settings
  · exact batteryInputFun_inStep here rfl
  · exact batteryInputFun_inStep here rfl
  · exact userMain28InputFun_inStep here
  · exact userMain29InputFun_inStep here
  · exact noteInputFun_inStep here main settings
  · exact userMain31InputFun_inStep here
  · exact userMain32InputFun_inStep here
  · exact here.toInStep

/-- The main window alone. -/
theorem home_inStep (page : menu.win14PageId < 8) (accessPoint : menu.wifiApEnable = 0 ∨ menu.wifiApEnable = 1) :
    menu.home.InStep := by
  have room : (menu.restack [] (Nat.zero_le _)).stack.length < guiWinManageNum :=
    show 0 < guiWinManageNum by decide
  have apart : Window.menuWin 14 ∉ [userMain1Win] := by decide
  rw [home, guiWinAdd_of_room room]
  exact redraw_inStep ⟨.singleton, page, accessPoint, fun settings => absurd settings apart⟩ rfl trivial

/-- The window that an event draws anew, or that comes up below the one it closes. -/
def redrawn (menu : Menu) : Event → Option Window
  | .refreshDisplay => menu.guiGetTopWin
  | .wifiCloseExpires =>
      if menu.screen.wifiConnectCloseTimer.active ∧ menu.guiGetTopWin = some .winWifiConnect then menu.stack[1]?
      else none
  | .guiWinDisplay =>
      match menu.guiGetTopWin with
      | some .userMain3Win =>
          if State.recognised menu.screen.display.moto.jumpEvent = some .exit then menu.stack[1]? else none
      | some .userMain25Win => if menu.clicked .up then menu.stack[1]? else none
      | _ => none
  | _ => none

/-- The window that an event opens with `Enter` in one of the two menus. -/
def opens (menu : Menu) : Event → Option Nat
  | .guiWinDisplay =>
      match menu.guiGetTopWin with
      | some (.menuWin 1) => menu.userMain1Opens
      | some (.menuWin 14) => menu.userMain14Opens
      | _ => none
  | _ => none

/-- The selection stands where the window functions that an event runs put the highlight. -/
structure Aligned (menu : Menu) (event : Event) : Prop where
  redrawn : ∀ window, menu.redrawn event = some window → menu.FirstRow window
  interval : ∀ opened, menu.opens event = some opened → opened = 4 ∨ opened = 5 → menu.nowSetting = 0
  accessPoint : menu.opens event = some 32 → menu.wifiApEnable = 0

/-- A window other than a menu is closed. -/
theorem popup_closes {popup : Window} (sound : menu.Sound) (top : menu.guiGetTopWin = some popup)
    (other : popup ≠ userMain1Win) (first : ∀ below, menu.stack[1]? = some below → menu.FirstRow below) :
    menu.guiWinDeleteTop.InStep := by
  obtain ⟨rest, stack⟩ := stack_of_top top
  have nested := sound.nested
  rw [stack] at nested
  obtain ⟨below, deeper, rfl⟩ := nested.exists_below other
  refine guiWinDeleteTop_inStep sound stack (first below ?_)
  rw [stack]
  rfl

theorem receiveJumpEvent_inStep (here : At .userMain3Win menu)
    (first : State.recognised menu.screen.display.moto.jumpEvent = some .exit →
      ∀ below, menu.stack[1]? = some below → menu.FirstRow below) : menu.receiveJumpEvent.InStep := by
  have stays : State.recognised menu.screen.display.moto.jumpEvent ≠ some .exit →
      (menu.on fun screen => screen.on State.receiveJumpEvent).InStep :=
    fun other => here.toInStep.apart (receiveJumpEvent_apart other)
  rw [receiveJumpEvent]
  split
  · rename_i exits
    have cleared : At .userMain3Win (menu.on fun screen => screen.on fun display =>
        { display with moto := { display.moto with jumpEvent := ∅ }, screenReload := true }) :=
      here.apart (on_apart rfl)
    have closed := popup_closes cleared.toSound cleared.top (by decide) (first exits)
    exact closed.apart (on_apart rfl)
  · rename_i received
    exact operate_inStep (stays (by simp [received])) rfl
  · rename_i received
    exact operate_inStep (stays (by simp [received])) rfl
  · rename_i received
    exact operate_inStep (stays (by simp [received])) rfl
  · rename_i exits _ _ _
    exact stays exits

theorem onClick_inStep {key : Key} {handle : Menu → Menu} (inStep : menu.InStep)
    (handles : ∀ {taken : Menu}, taken.InStep → (handle taken).InStep) : (menu.onClick key handle).InStep := by
  rw [onClick]
  split
  · exact handles (tryTake_inStep inStep key)
  · exact tryTake_inStep inStep key

theorem userMain3InputFun_inStep (here : At .userMain3Win menu)
    (first : State.recognised menu.screen.display.moto.jumpEvent = some .exit →
      ∀ below, menu.stack[1]? = some below → menu.FirstRow below) : menu.userMain3InputFun.InStep := by
  have enter : ∀ {menu : Menu}, menu.InStep → menu.userMain3Enter.InStep := by
    intro menu inStep
    rw [userMain3Enter]
    split
    · exact home_inStep inStep.page inStep.accessPoint
    · exact inStep
  have received := tryTake_inStep (tryTake_inStep (receiveJumpEvent_inStep here first) .up) .down
  exact tryTake_inStep (onClick_inStep received enter) .long

theorem userMain25InputFun_inStep (here : At .userMain25Win menu)
    (first : menu.clicked .up → ∀ below, menu.stack[1]? = some below → menu.FirstRow below) :
    menu.userMain25InputFun.InStep := by
  have enter : ∀ {menu : Menu}, menu.InStep → menu.userMain25Enter.InStep := by
    intro menu inStep
    have notified := inStep.apart (call_apart [.insertNotifyArray 0xff])
    have counted := notified.apart (call_apart [.count 9])
    have stored := @operate_inStep _ .automaticBackwash counted rfl
    exact lcdtoBackwash_inStep stored
  have up : (menu.onClick .up userMain25Up).InStep := by
    rw [onClick]
    split
    · rename_i clicked
      have notified := (here.tryTake .up).apart (call_apart [.insertNotifyArray 0xff])
      refine popup_closes notified.toSound notified.top (by decide) fun below under => ?_
      have same : ((menu.tryTake .up).on fun screen => screen.call [.insertNotifyArray 0xff]).stack = menu.stack :=
        (call_apart _).stack.trans (tryTake_apart .up).stack
      rw [same] at under
      exact first clicked below under
    · exact (here.tryTake .up).toInStep
  exact tryTake_inStep (onClick_inStep (tryTake_inStep up .down) enter) .long

theorem guiWinDisplay_inStep (inStep : menu.InStep) (aligned : menu.Aligned .guiWinDisplay) :
    menu.guiWinDisplay.InStep := by
  obtain ⟨redrawn, interval, accessPoint⟩ := aligned
  simp only [Menu.redrawn, opens] at redrawn interval accessPoint
  rw [guiWinDisplay]
  split
  · exact inStep
  · rename_i top
    rw [top] at redrawn
    refine userMain3InputFun_inStep ⟨inStep, top⟩ fun exits below under => redrawn below ?_
    exact (if_pos exits).trans under
  · rename_i top
    rw [top] at redrawn
    refine userMain25InputFun_inStep ⟨inStep, top⟩ fun clicked below under => redrawn below ?_
    exact (if_pos clicked).trans under
  · exact inStep.apart winWifiInputCallback_apart
  · rename_i number top
    by_cases main : number = 1
    · subst main
      rw [top] at interval
      exact userMain1InputFun_inStep ⟨inStep, top⟩ interval
    by_cases settings : number = 14
    · subst settings
      rw [top] at accessPoint
      exact userMain14InputFun_inStep ⟨inStep, top⟩ accessPoint
    · exact userMainInputFun_inStep ⟨inStep, top⟩ main settings

/-! ## Runs -/

theorem lcdtoReminder_inStep (inStep : menu.InStep) : menu.lcdtoReminder.InStep := by
  rw [lcdtoReminder]
  split
  · exact popup_inStep inStep not_false
  · exact inStep

theorem wifiConnectWinAdd_inStep (inStep : menu.InStep) : menu.wifiConnectWinAdd.InStep := by
  rw [wifiConnectWinAdd]
  split
  · exact popup_inStep inStep not_false
  · exact inStep

/-- The windows for an empty and for a new battery come up on the main window alone. -/
theorem jumpToBattery_inStep (inStep : menu.InStep) (listed : 1 ∈ openers number) (settings : number ≠ 14)
    (first : ∀ menu : Menu, menu.FirstRow (.menuWin number)) : (menu.jumpToBattery (.menuWin number)).InStep := by
  rw [jumpToBattery]
  split
  · rename_i top
    exact open_inStep inStep.toSound top listed (first menu) fun same => absurd same settings
  · exact inStep

theorem respond_inStep (inStep : menu.InStep) {event : Event} (aligned : menu.Aligned event) :
    (menu.respond event).InStep := by
  cases event with
  | screen event still => exact inStep.apart (screen_apart still)
  | store op other => exact inStep.apart (store_apart other)
  | apTimeoutControl state => exact ⟨apSwitch_sound inStep.toSound state, inStep.shown⟩
  | push thread =>
      rw [respond]
      split
      · have added : (menu.guiWinAdd .userMain3Win).InStep := popup_inStep inStep not_false
        exact added.apart (on_apart rfl)
      · exact inStep
  | rtcReminder =>
      have notified : (menu.on fun screen => screen.on fun display =>
          { display with screenReload := false }.call [.insertNotifyArray 0x07]).InStep :=
        inStep.apart (on_apart rfl)
      exact lcdtoReminder_inStep notified
  | refreshDisplay =>
      rw [respond, refreshDisplay]
      split
      · exact inStep
      · exact redraw_inStep inStep.toSound ‹_› (aligned.redrawn _ ‹_›)
  | lcdRefresh =>
      rw [respond, lcdRefreshFromSleep]
      split
      · exact home_inStep (show (0 : UInt8) < 8 by decide) inStep.accessPoint
      · exact inStep
  | reloadMainWin =>
      rw [respond, reloadMainWin]
      split
      · exact redraw_inStep inStep.toSound ‹_› trivial
      · exact inStep
  | jumpToBatteryEmpty =>
      have counted : (menu.store .errorCounted).InStep := inStep.apart (store_apart rfl)
      exact jumpToBattery_inStep counted (by decide) (by decide) fun _ => trivial
  | jumpToBatteryNew =>
      have counted : (menu.store .errorCounted).InStep := inStep.apart (store_apart rfl)
      exact jumpToBattery_inStep counted (by decide) (by decide) fun _ => trivial
  | wifiConnectStart =>
      have started : Apart menu.wifiConnectWinAdd (menu.wifiConnectWinAdd.on fun screen =>
          { screen with wifiConnectTimer := screen.wifiConnectTimer.start }) := on_apart rfl
      exact (wifiConnectWinAdd_inStep inStep).apart started
  | wifiCloseExpires =>
      rw [respond]
      split
      · rename_i active
        have stopped : (menu.on fun screen =>
            { screen with wifiConnectCloseTimer := screen.wifiConnectCloseTimer.stop }).InStep :=
          inStep.apart (on_apart rfl)
        rw [wifiConnectWinDel]
        split
        · rename_i top
          refine popup_closes stopped.toSound top (by decide) fun below under => aligned.redrawn below ?_
          exact (if_pos ⟨active, top⟩).trans under
        · exact stopped
      · exact inStep
  | guiWinDisplay => exact guiWinDisplay_inStep inStep aligned
  | factorySet => exact ⟨inStep.toSound.same rfl rfl rfl rfl, inStep.shown⟩
  | reboot left right inputs ram => exact inStep

theorem boot_inStep (left right : Bool) (inputs : Moto.Inputs) (device : Device) :
    (boot left right inputs device).InStep := by
  have apart : Window.menuWin 14 ∉ [userMain1Win] := by decide
  have page : (0 : UInt8) < 8 := by decide
  rw [boot]
  exact redraw_inStep ⟨.singleton, page, .inl rfl, fun settings => absurd settings apart⟩ rfl trivial

theorem step_inStep (inStep : menu.InStep) {event : Event} (aligned : menu.halted = false → menu.Aligned event) :
    (menu.step event).InStep := by
  rcases step_cases menu event with ⟨left, right, inputs, ram, rfl⟩ | running
  · have booted := boot_inStep left right inputs (Storage.flashInit menu.windows.device.flash ram)
    exact ⟨booted.toSound.same rfl rfl rfl rfl, booted.shown⟩
  · rw [running]
    split
    · exact inStep
    · exact respond_inStep inStep (aligned (Bool.eq_false_of_not_eq_true ‹_›))

/-- In a run that never draws a window away from its selection, the highlighted row is
the row that `Enter` acts on. -/
theorem shown_of_aligned (left right : Bool) (inputs : Moto.Inputs) (device : Device) (events : List Event)
    (aligned : EachStep step (fun menu event => menu.halted = false → menu.Aligned event)
      (boot left right inputs device) events) :
    Throughout step Shown (boot left right inputs device) events := by
  have inStep : Throughout step InStep (boot left right inputs device) events :=
    throughout_of_eachStep (boot_inStep left right inputs device)
      (fun _ _ inStep aligned => step_inStep inStep aligned) aligned
  exact fun count => (inStep count).shown

/-- A controller that has never been set. -/
def freshMenu : Menu :=
  boot true false ⟨0, 21, 30, 0, 0⟩ (Storage.flashInit Storage.emptyStore Storage.blankRam)

/-- `userMain4Win` is opened from the main window while no interval is under edit. -/
theorem shown_in_reminder_window :
    (run step freshMenu (pressed .down ++ pressed .enter)).guiGetTopWin = some (.menuWin 4) ∧
      Throughout step Shown freshMenu (pressed .down ++ pressed .enter) := by
  have press : ∀ (menu : Menu) (key : Key), menu.Aligned (.screen (.press key) rfl) := by
    intro menu key
    constructor
    · rintro window ⟨⟩
    · rintro opened ⟨⟩
    · rintro ⟨⟩
  have poll : ∀ menu : Menu, menu.redrawn .guiWinDisplay = none → menu.nowSetting = 0 →
      menu.opens .guiWinDisplay ≠ some 32 → menu.Aligned .guiWinDisplay := by
    intro menu redrawn setting other
    constructor
    · rintro window drawn
      rw [redrawn] at drawn
      cases drawn
    · exact fun _ _ _ => setting
    · exact fun same => absurd same other
  refine ⟨by decide +kernel, shown_of_aligned true false ⟨0, 21, 30, 0, 0⟩ _ _ ?_⟩
  refine eachStep_cons.mpr ⟨fun _ => press _ .down, ?_⟩
  refine eachStep_cons.mpr ⟨fun _ => poll _ (by decide +kernel) (by decide +kernel) (by decide +kernel), ?_⟩
  refine eachStep_cons.mpr ⟨fun _ => press _ .enter, ?_⟩
  refine eachStep_cons.mpr ⟨fun _ => poll _ (by decide +kernel) (by decide +kernel) (by decide +kernel), ?_⟩
  exact eachStep_nil

/-- `Down` selects the second row of `userMain2Win`, which is drawn anew with the first one highlighted. -/
theorem row_left_by_redraw :
    ¬∀ events : List Event, (run step freshMenu (events ++ [.guiWinDisplay])).Shown := by
  intro claim
  have shown := claim (pressed .enter ++ pressed .down ++ [.refreshDisplay])
  have highlights := shown (.menuWin 2) (by decide +kernel) (by decide)
  exact absurd ((highlights.only 0 (by decide)).mp (by decide +kernel)) (by decide +kernel)

end Menu

end SyrFilter.Display
