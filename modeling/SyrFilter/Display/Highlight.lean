import SyrFilter.Display.Steady
import SyrFilter.Lib.Runs
import SyrFilter.Lib.Stacks

namespace SyrFilter.Display

open SyrFilter.Lib
open SyrFilter.Storage (Device Op)
open SyrFilter.Rtc (Schedule)

/-! # The highlighted row

`Enter` acts on the row of `NowButtonId`, and of `NowSetting` in the interval
windows, while the flags of the buttons say which row is shown as selected.
Some window functions set the flags to the first row and leave the selection to
whoever opened the window.
-/

/-! ## How menus lie on each other -/

/-- The menus from which `userMainNWin` is opened. -/
def openers : Nat → List Nat
  | 2 | 4 | 5 | 6 | 7 | 26 | 27 => [1]
  | 14 => [1, 2, 4, 5, 6, 7]
  | 8 | 12 | 13 => [7]
  | 9 | 10 | 11 => [8]
  | 16 | 17 | 18 | 19 | 20 | 23 | 28 | 29 | 30 | 31 | 32 => [14]
  | _ => []

/-- Menus lie on the menus they are opened from, and the other windows anywhere. -/
def LiesOn : Window → Window → Prop
  | .menuWin number, .menuWin under => under ∈ openers number
  | .menuWin _, _ => False
  | _, _ => True

def depth : Window → Nat
  | .menuWin 1 => 0
  | .menuWin 2 | .menuWin 4 | .menuWin 5 | .menuWin 6 | .menuWin 7 | .menuWin 26 | .menuWin 27 => 1
  | .menuWin 8 | .menuWin 12 | .menuWin 13 | .menuWin 14 => 2
  | _ => 3

abbrev Nested (stack : List Window) : Prop := Piled LiesOn userMain1Win stack

def isMenu : Window → Prop
  | .menuWin _ => True
  | _ => False

theorem depth_lt_of_openers {number under : Nat} (lies : under ∈ openers number) :
    depth (.menuWin under) < depth (.menuWin number) := by
  unfold openers at lies
  split at lies
  case h_26 => cases lies
  all_goals
    revert under
    decide

theorem depth_lt {top below : Window} (menu : isMenu top) (lies : LiesOn top below) :
    isMenu below ∧ depth below < depth top := by
  cases top with
  | menuWin number =>
      cases below with
      | menuWin under => exact ⟨trivial, depth_lt_of_openers lies⟩
      | userMain3Win => exact lies.elim
      | userMain25Win => exact lies.elim
      | winWifiConnect => exact lies.elim
  | userMain3Win => exact menu.elim
  | userMain25Win => exact menu.elim
  | winWifiConnect => exact menu.elim

namespace Nested

variable {rest : List Window} {number : Nat}

/-- A menu is always opened with room to spare. -/
theorem length_lt (nested : Nested (.menuWin number :: rest)) :
    (Window.menuWin number :: rest).length < guiWinManageNum := by
  have height := Piled.length_le isMenu depth nested (fun _ _ => depth_lt) trivial
  have shallow : depth (.menuWin number) ≤ 3 := by
    unfold depth
    split <;> decide
  rw [guiWinManageNum]
  omega

/-- What lies below a menu. -/
theorem exists_opener (nested : Nested (.menuWin number :: rest)) (other : number ≠ 1) :
    ∃ under deeper, rest = .menuWin under :: deeper ∧ under ∈ openers number := by
  obtain ⟨below, deeper, rfl⟩ := nested.exists_below fun same => other (Window.menuWin.inj same)
  have lies := nested.lies
  cases below with
  | menuWin under => exact ⟨under, deeper, rfl, lies⟩
  | userMain3Win => exact lies.elim
  | userMain25Win => exact lies.elim
  | winWifiConnect => exact lies.elim

theorem main (nested : Nested (.menuWin 1 :: rest)) : rest = [] := by
  refine nested.eq_nil fun below lies => ?_
  cases below with
  | menuWin under => cases lies
  | userMain3Win => exact lies
  | userMain25Win => exact lies
  | winWifiConnect => exact lies

/-- A window opened from the main window alone. -/
theorem first (nested : Nested (.menuWin number :: rest)) (opened : openers number = [1]) :
    rest = [userMain1Win] := by
  have other : number ≠ 1 := by
    rintro rfl
    cases opened
  obtain ⟨under, deeper, rfl, listed⟩ := nested.exists_opener other
  rw [opened, List.mem_singleton] at listed
  subst listed
  rw [Nested.main nested.pop]
  rfl

end Nested

/-! ## Rows -/

/-- The buttons that can be selected, in the windows whose rows are followed here. -/
def rows : Window → List UInt8
  | .menuWin 2 | .menuWin 19 | .menuWin 32 => [0, 1]
  | .menuWin 9 | .menuWin 10 | .menuWin 11 | .menuWin 12 => [1, 2]
  | .menuWin 14 | .menuWin 16 | .menuWin 17 | .menuWin 20 => [0, 1, 2]
  | .menuWin 4 | .menuWin 5 => [1, 2, 3]
  | _ => []

/-- Of the rows only the button's flag is up. -/
structure Highlights (flags : UInt8 → UInt8) (rows : List UInt8) (button : UInt8) : Prop where
  listed : button ∈ rows
  only : ∀ row ∈ rows, flags row = 1 ↔ row = button

theorem Highlights.select {flags : UInt8 → UInt8} {rows : List UInt8} {old new : UInt8}
    (highlights : Highlights flags rows old) (listed : new ∈ rows) :
    Highlights (Function.update (Function.update flags old 0) new 1) rows new := by
  refine ⟨listed, fun row member => ?_⟩
  by_cases raised : row = new
  · rw [raised, Function.update_self]
    exact iff_of_true rfl rfl
  · rw [Function.update_of_ne raised]
    refine iff_of_false ?_ raised
    by_cases lowered : row = old
    · rw [lowered, Function.update_self]
      decide
    · rw [Function.update_of_ne lowered, highlights.only row member]
      exact lowered

namespace Menu

variable {menu after : Menu} {window : Window} {number : Nat} {button : UInt8} {key : Key}
  {handle edit save : Menu → Menu}

/-- The button that `Enter` acts on in a window. -/
def chosen (menu : Menu) : Window → UInt8
  | .menuWin 4 | .menuWin 5 => menu.nowSetting + 1
  | _ => menu.nowButtonId

/-- The row that is highlighted is the row that `Enter` acts on. -/
def Shown (menu : Menu) : Prop :=
  ∀ window, menu.guiGetTopWin = some window → rows window ≠ [] →
    Highlights menu.tButton (rows window) (menu.chosen window)

/-- The selection stands where the window function of the window puts the highlight. -/
def FirstRow (menu : Menu) : Window → Prop
  | .menuWin 2 => menu.nowButtonId = 0
  | .menuWin 4 | .menuWin 5 => menu.nowSetting = 0
  | _ => True

structure Sound (menu : Menu) : Prop where
  nested : Nested menu.stack
  page : menu.win14PageId < 8
  accessPoint : menu.wifiApEnable = 0 ∨ menu.wifiApEnable = 1
  /-- No interval is under edit below the settings menu. -/
  settled : .menuWin 14 ∈ menu.stack → .menuWin 4 ∈ menu.stack ∨ .menuWin 5 ∈ menu.stack →
    menu.nowSetting = 0

structure InStep (menu : Menu) : Prop extends Sound menu where
  shown : menu.Shown

/-! ## Drawn rows -/

/-- The flag that a list of settings leaves a button with, the last one counting. -/
@[simp] def flagOf : List (UInt8 × UInt8) → UInt8 → Option UInt8
  | [], _ => none
  | (button, value) :: rest, row => (flagOf rest row).or (if row = button then some value else none)

theorem setFlags_tButton (flags : List (UInt8 × UInt8)) (row : UInt8) :
    (menu.setFlags flags).tButton row = (flagOf flags row).getD (menu.tButton row) := by
  induction flags generalizing menu with
  | nil => rfl
  | cons flag rest ih =>
      have first : menu.setFlags (flag :: rest) = (menu.setFlag flag.1 flag.2).setFlags rest := rfl
      rw [first, ih, flagOf]
      cases flagOf rest row with
      | some value => rfl
      | none =>
          by_cases same : row = flag.1
          · simp [same, setFlag]
          · simp [same, setFlag, Function.update_of_ne]

/-- Flags that are given to each of the rows. -/
theorem highlights_of_flags (button : UInt8) {flags : List (UInt8 × UInt8)} {rows : List UInt8}
    (listed : button ∈ rows)
    (given : ∀ row ∈ rows, flagOf flags row = some (if row = button then 1 else 0)) :
    Highlights (menu.setFlags flags).tButton rows button := by
  refine ⟨listed, fun row member => ?_⟩
  rw [setFlags_tButton, given row member, Option.getD_some]
  split <;> simp_all

theorem highlights_switch {value : UInt8} (switch : value = 0 ∨ value = 1) :
    Highlights (menu.setFlags [(0, cNot value), (1, value), (2, 1)]).tButton [0, 1] value := by
  rcases switch with rfl | rfl
  · exact highlights_of_flags 0 (by decide) (by simp [cNot])
  · exact highlights_of_flags 1 (by decide) (by simp [cNot])

/-- A window function highlights the row that it selects, or the first one where it selects none. -/
theorem draw_highlights (window : Window) (first : menu.FirstRow window) (page : menu.win14PageId < 8)
    (accessPoint : menu.wifiApEnable = 0 ∨ menu.wifiApEnable = 1) (selectable : rows window ≠ []) :
    Highlights (menu.draw window).tButton (rows window) ((menu.draw window).chosen window) := by
  have interval : ∀ schedule, menu.nowSetting = 0 →
      Highlights (menu.intervalWinFun schedule).tButton [1, 2, 3] (menu.nowSetting + 1) := by
    intro schedule none
    rw [none]
    exact highlights_of_flags 1 (by decide) (by simp)
  unfold rows
  split
  · have selected : menu.nowButtonId = 0 := first
    change Highlights _ _ menu.nowButtonId
    rw [selected]
    exact highlights_of_flags 0 (by decide) (by simp)
  · exact highlights_of_flags 0 (by decide) (by simp)
  · exact highlights_switch accessPoint
  · exact highlights_of_flags 1 (by decide) (by simp)
  · exact highlights_of_flags 1 (by decide) (by simp)
  · exact highlights_of_flags 1 (by decide) (by simp)
  · exact highlights_of_flags 1 (by decide) (by simp)
  · change Highlights menu.userMain14WinFun.tButton _ menu.userMain14WinFun.nowButtonId
    rw [userMain14WinFun]
    split
    · exact highlights_of_flags 0 (by decide) (by simp)
    · exact highlights_of_flags 2 (by decide) (by simp)
  · exact highlights_of_flags 0 (by decide) (by simp)
  · exact highlights_of_flags 0 (by decide) (by simp)
  · exact highlights_of_flags 0 (by decide) (by simp)
  · exact interval .reminder first
  · exact interval .automatic first
  · simp_all only [rows, ne_eq, not_true_eq_false]

/-! ## What keeps the rows in step -/

theorem Sound.same (sound : menu.Sound) (stack : after.stack = menu.stack)
    (page : after.win14PageId = menu.win14PageId) (accessPoint : after.wifiApEnable = menu.wifiApEnable)
    (setting : after.nowSetting = menu.nowSetting) : after.Sound := by
  refine ⟨?_, ?_, ?_, ?_⟩
  · rw [stack]
    exact sound.nested
  · rw [page]
    exact sound.page
  · rw [accessPoint]
    exact sound.accessPoint
  · rw [stack, setting]
    exact sound.settled

theorem Sound.steady (sound : menu.Sound) (steady : Steady menu after) : after.Sound :=
  sound.same steady.stack steady.win14PageId steady.wifiApEnable steady.nowSetting

theorem Sound.windowFunction (sound : menu.Sound) (window : Window) : (menu.windowFunction window).Sound := by
  have drawn := @draw_drawn menu window
  exact sound.same drawn.stack drawn.win14PageId drawn.wifiApEnable drawn.nowSetting

theorem Shown.of_top (top : menu.guiGetTopWin = some window)
    (highlights : rows window ≠ [] → Highlights menu.tButton (rows window) (menu.chosen window)) :
    menu.Shown := by
  intro shown top' selectable
  obtain rfl := Option.some.inj (top.symm.trans top')
  exact highlights selectable

theorem Shown.of_rows (top : menu.guiGetTopWin = some window) (none : rows window = []) : menu.Shown :=
  .of_top top fun selectable => absurd none selectable

/-- A window without rows to select. -/
theorem InStep.unselectable (inStep : menu.InStep) (steady : Steady menu after)
    (top : menu.guiGetTopWin = some window) (none : rows window = []) : after.InStep :=
  ⟨inStep.toSound.steady steady, .of_rows (steady.guiGetTopWin.trans top) none⟩

/-- What concerns neither the selection nor the flags. -/
theorem InStep.apart (inStep : menu.InStep) (apart : Apart menu after) : after.InStep := by
  refine ⟨inStep.toSound.steady apart.toSteady, fun window top selectable => ?_⟩
  have chosen : after.chosen window = menu.chosen window := by
    unfold Menu.chosen
    split
    · exact congrArg (· + 1) apart.nowSetting
    · exact congrArg (· + 1) apart.nowSetting
    · exact apart.nowButtonId
  rw [apart.tButton, chosen]
  exact inStep.shown window (apart.guiGetTopWin.symm.trans top) selectable

theorem redraw_inStep (sound : menu.Sound) (top : menu.guiGetTopWin = some window)
    (first : menu.FirstRow window) : (menu.windowFunction window).InStep := by
  have shown : (menu.windowFunction window).guiGetTopWin = some window := by
    rw [guiGetTopWin, windowFunction_stack]
    exact top
  exact ⟨sound.windowFunction window,
    .of_top shown (draw_highlights window first sound.page sound.accessPoint)⟩

/-! ## Opening and closing windows -/

theorem Sound.push (sound : menu.Sound) (lies : ∀ top ∈ menu.stack.head?, LiesOn window top)
    (settled : .menuWin 14 ∈ window :: menu.stack →
      .menuWin 4 ∈ window :: menu.stack ∨ .menuWin 5 ∈ window :: menu.stack → menu.nowSetting = 0)
    (room : (window :: menu.stack).length ≤ guiWinManageNum) :
    (menu.restack (window :: menu.stack) room).Sound :=
  ⟨sound.nested.push lies, sound.page, sound.accessPoint, settled⟩

theorem guiWinAdd_inStep (inStep : menu.InStep) (lies : ∀ top ∈ menu.stack.head?, LiesOn window top)
    (first : menu.FirstRow window)
    (settled : .menuWin 14 ∈ window :: menu.stack →
      .menuWin 4 ∈ window :: menu.stack ∨ .menuWin 5 ∈ window :: menu.stack → menu.nowSetting = 0) :
    (menu.guiWinAdd window).InStep := by
  rw [guiWinAdd]
  split
  · rename_i room
    exact redraw_inStep (inStep.toSound.push lies settled room) rfl first
  · exact inStep

/-- A window that is no menu comes up on whatever is there. -/
theorem popup_inStep (inStep : menu.InStep) (popup : ¬isMenu window) : (menu.guiWinAdd window).InStep := by
  have other : ∀ {number}, .menuWin number ∈ window :: menu.stack → Window.menuWin number ∈ menu.stack := by
    intro number member
    rcases List.mem_cons.mp member with rfl | under
    · exact absurd trivial popup
    · exact under
  apply guiWinAdd_inStep inStep
  · intro top _
    cases window with
    | menuWin number => exact absurd trivial popup
    | userMain3Win => trivial
    | userMain25Win => trivial
    | winWifiConnect => trivial
  · cases window with
    | menuWin number => exact absurd trivial popup
    | userMain3Win => trivial
    | userMain25Win => trivial
    | winWifiConnect => trivial
  · intro menus interval
    exact inStep.settled (other menus) (interval.imp other other)

theorem guiWinDeleteTop_of_single (stack : menu.stack = [window]) : menu.guiWinDeleteTop = menu := by
  have none : menu.stack[1]? = none := by rw [stack]; rfl
  rw [guiWinDeleteTop, none]

theorem guiWinDeleteTop_of_below {below : Window} {rest : List Window}
    (stack : menu.stack = window :: below :: rest) :
    ∃ fits, menu.guiWinDeleteTop = (menu.restack (below :: rest) fits).windowFunction below := by
  have under : menu.stack[1]? = some below := by rw [stack]; rfl
  have tail : menu.stack.tail = below :: rest := by rw [stack]; rfl
  have restacked : ∀ {left : List Window} (same : left = below :: rest) (fits : left.length ≤ guiWinManageNum),
      menu.restack left fits = menu.restack (below :: rest) (same ▸ fits) := by
    rintro _ rfl fits
    rfl
  rw [guiWinDeleteTop, under]
  exact ⟨_, congrArg (fun uncovered => uncovered.windowFunction below) (restacked tail _)⟩

theorem Sound.pop {below : Window} {rest : List Window} (sound : menu.Sound)
    (stack : menu.stack = window :: below :: rest) (fits : (below :: rest).length ≤ guiWinManageNum) :
    (menu.restack (below :: rest) fits).Sound := by
  have nested := sound.nested
  have settled := sound.settled
  rw [stack] at nested settled
  exact ⟨nested.pop, sound.page, sound.accessPoint, fun menus interval =>
    settled (List.mem_cons_of_mem _ menus) (interval.imp (List.mem_cons_of_mem _) (List.mem_cons_of_mem _))⟩

/-- The window below comes up in step when the selection stands where that window puts the highlight. -/
theorem guiWinDeleteTop_inStep {below : Window} {rest : List Window} (sound : menu.Sound)
    (stack : menu.stack = window :: below :: rest) (first : menu.FirstRow below) :
    menu.guiWinDeleteTop.InStep := by
  obtain ⟨fits, uncovers⟩ := guiWinDeleteTop_of_below stack
  rw [uncovers]
  exact redraw_inStep (sound.pop stack fits) rfl first

theorem stack_of_top (top : menu.guiGetTopWin = some window) : ∃ rest, menu.stack = window :: rest :=
  List.head?_eq_some_iff.mp top

/-- Below every menu but the settings menu lies one that selects a row itself. -/
theorem firstRow_of_openers {under : Nat} (listed : under ∈ openers number) (other : number ≠ 14) :
    menu.FirstRow (.menuWin under) := by
  unfold openers at listed
  split at listed
  case h_8 => exact absurd rfl other
  case h_26 => cases listed
  all_goals
    rw [List.mem_singleton] at listed
    subst listed
    trivial

/-- A menu other than the settings menu goes back. -/
theorem leave_inStep (sound : menu.Sound) (top : menu.guiGetTopWin = some (.menuWin number))
    (main : number ≠ 1) (settings : number ≠ 14) : menu.guiWinDeleteTop.InStep := by
  obtain ⟨rest, stack⟩ := stack_of_top top
  have nested := sound.nested
  rw [stack] at nested
  obtain ⟨under, deeper, rfl, listed⟩ := Nested.exists_opener nested main
  exact guiWinDeleteTop_inStep sound stack (firstRow_of_openers listed settings)

theorem guiWinAdd_of_room (room : menu.stack.length < guiWinManageNum) :
    menu.guiWinAdd window = (menu.restack (window :: menu.stack) room).windowFunction window :=
  dif_pos room

theorem Sound.room (sound : menu.Sound) (top : menu.guiGetTopWin = some (.menuWin number)) :
    menu.stack.length < guiWinManageNum := by
  obtain ⟨rest, stack⟩ := stack_of_top top
  have nested := sound.nested
  rw [stack] at nested ⊢
  exact nested.length_lt

/-- A menu opens another one. -/
theorem open_inStep {under : Nat} (sound : menu.Sound) (top : menu.guiGetTopWin = some (.menuWin under))
    (listed : under ∈ openers number) (first : menu.FirstRow (.menuWin number))
    (settled : number = 14 → .menuWin 4 ∈ menu.stack ∨ .menuWin 5 ∈ menu.stack → menu.nowSetting = 0) :
    (menu.guiWinAdd (.menuWin number)).InStep := by
  obtain ⟨rest, stack⟩ := stack_of_top top
  have room := sound.room top
  rw [guiWinAdd_of_room room]
  refine redraw_inStep (sound.push ?_ ?_ room) rfl first
  · intro shown member
    rw [stack] at member
    obtain rfl := Option.some.inj member
    exact listed
  · intro menus interval
    have other : ∀ row : Nat, number ≠ row → Window.menuWin row ∈ Window.menuWin number :: menu.stack →
        Window.menuWin row ∈ menu.stack := by
      intro row different member
      rcases List.mem_cons.mp member with same | inside
      · exact absurd (Window.menuWin.inj same).symm different
      · exact inside
    by_cases reminder : number = 4
    · subst reminder
      exact first
    by_cases automatic : number = 5
    · subst automatic
      exact first
    have below := interval.imp (other 4 reminder) (other 5 automatic)
    by_cases settings : number = 14
    · exact settled settings below
    · exact sound.settled (other 14 settings menus) below

/-! ## Keys -/

theorem mark_inStep (inStep : menu.InStep) (made : Mark) : (menu.mark made).InStep :=
  ⟨inStep.toSound.same rfl rfl rfl rfl, inStep.shown⟩

/-- A window is on top, in step. -/
structure At (window : Window) (menu : Menu) : Prop extends InStep menu where
  top : menu.guiGetTopWin = some window

theorem At.apart (here : At window menu) (apart : Apart menu after) : At window after :=
  ⟨here.toInStep.apart apart, apart.guiGetTopWin.trans here.top⟩

theorem At.tryTake (here : At window menu) (key : Key) : At window (menu.tryTake key) :=
  here.apart (tryTake_apart key)

theorem At.mark (here : At window menu) (made : Mark) : At window (menu.mark made) :=
  ⟨mark_inStep here.toInStep made, here.top⟩

theorem At.unselectable (here : At window menu) (steady : Steady menu after) (none : rows window = []) :
    At window after :=
  ⟨here.toInStep.unselectable steady here.top none, steady.guiGetTopWin.trans here.top⟩

theorem At.click (here : At window menu) (handles : ∀ {taken}, At window taken → At window (handle taken)) :
    At window (menu.onClick key handle) := by
  rw [onClick]
  split
  · exact handles (here.tryTake key)
  · exact here.tryTake key

theorem At.leave (here : At window menu) (handles : ∀ {taken}, At window taken → (handle taken).InStep) :
    (menu.onClick key handle).InStep := by
  rw [onClick]
  split
  · exact handles (here.tryTake key)
  · exact (here.tryTake key).toInStep

theorem tryTake_inStep (inStep : menu.InStep) (key : Key) : (menu.tryTake key).InStep :=
  inStep.apart (tryTake_apart key)

/-- A menu with its four keys: the first three in any order, and nothing done for the last one. -/
theorem At.input {first second : Key} {up down enter : Menu → Menu} (here : At window menu)
    (ups : ∀ {taken}, At window taken → At window (up taken))
    (downs : ∀ {taken}, At window taken → At window (down taken))
    (enters : ∀ {entered}, At window entered → (enter entered).InStep) :
    ((((menu.onClick first up).onClick second down).onEnter number enter).tryTake .long).InStep := by
  have moved : At window ((menu.onClick first up).onClick second down) := (here.click ups).click downs
  have entered : (((menu.onClick first up).onClick second down).onEnter number enter).InStep :=
    moved.leave fun taken => enters (taken.mark _)
  exact tryTake_inStep entered .long

/-- The selection is `NowButtonId`. -/
def Plain (window : Window) : Prop := ∀ menu : Menu, menu.chosen window = menu.nowButtonId

theorem At.select (here : At window menu) (plain : Plain window)
    (listed : rows window ≠ [] → button ∈ rows window) : At window (menu.select button) := by
  have steady := @select_steady menu button
  have top : (menu.select button).guiGetTopWin = some window := steady.guiGetTopWin.trans here.top
  refine ⟨⟨here.toSound.steady steady, .of_top top fun selectable => ?_⟩, top⟩
  have highlights := here.shown window here.top selectable
  rw [plain] at highlights ⊢
  exact highlights.select (listed selectable)

theorem At.listed (here : At window menu) (plain : Plain window) (selectable : rows window ≠ []) :
    menu.nowButtonId ∈ rows window := by
  have highlights := here.shown window here.top selectable
  rw [plain] at highlights
  exact highlights.listed

theorem At.rowUp {first last : UInt8} (here : At window menu) (plain : Plain window)
    (closed : ∀ old ∈ rows window, (if first < old then old - 1 else last) ∈ rows window) :
    At window (menu.rowUp first last) :=
  here.select plain fun selectable => closed _ (here.listed plain selectable)

theorem At.rowDown {first last : UInt8} (here : At window menu) (plain : Plain window)
    (closed : ∀ old ∈ rows window, (if old + 1 = last + 1 then first else old + 1) ∈ rows window) :
    At window (menu.rowDown first last) :=
  here.select plain fun selectable => closed _ (here.listed plain selectable)

/-- The two flags are set in another order than `select` sets them. -/
theorem rowToggle_eq (two : menu.nowButtonId = 0 ∨ menu.nowButtonId = 1) :
    menu.rowToggle = menu.select (if menu.nowButtonId = 0 then 1 else 0) := by
  rcases two with first | second
  · rw [rowToggle, if_pos first, if_pos first, Menu.select, first]
    rfl
  · have other : menu.nowButtonId ≠ 0 := by
      rw [second]
      decide
    have commute := Function.update_comm (show (0 : UInt8) ≠ 1 by decide) 1 0 menu.tButton
    rw [rowToggle, if_neg other, if_pos second, if_neg other, Menu.select, second]
    simp only [setNow, setFlag, commute]

theorem At.rowToggle (here : At window menu) (plain : Plain window) (two : rows window = [0, 1]) :
    At window menu.rowToggle := by
  have selectable : rows window ≠ [] := by
    rw [two]
    exact List.cons_ne_nil _ _
  have listed := here.listed plain selectable
  rw [two, List.mem_pair] at listed
  rw [rowToggle_eq listed]
  refine here.select plain fun _ => ?_
  rw [two]
  split <;> decide

theorem valueKey_eq (below : menu.nowButtonId = 1 ∨ menu.nowButtonId = 2) :
    menu.valueKey edit = menu.select (if menu.nowButtonId = 1 then 2 else 1) := by
  rcases below with first | second
  · rw [valueKey, if_neg (by rw [first]; decide), if_pos first, if_pos first, Menu.select, first]
    rfl
  · have other : menu.nowButtonId ≠ 1 := by
      rw [second]
      decide
    have commute := Function.update_comm (show (1 : UInt8) ≠ 2 by decide) 1 0 menu.tButton
    rw [valueKey, if_neg (by rw [second]; decide), if_neg other, if_pos second, if_neg other, Menu.select, second]
    simp only [setNow, setFlag, commute]

/-- `Up` and `Down` in a window with a value. -/
theorem At.valueKey (here : At window menu) (plain : Plain window) (three : rows window = [0, 1, 2])
    (edits : At window (edit menu)) : At window (menu.valueKey edit) := by
  have selectable : rows window ≠ [] := by
    rw [three]
    exact List.cons_ne_nil _ _
  have listed := here.listed plain selectable
  rw [three, List.mem_cons, List.mem_pair] at listed
  rcases listed with value | answer
  · rw [Menu.valueKey, if_pos value]
    exact edits
  · rw [valueKey_eq answer]
    refine here.select plain fun _ => ?_
    rw [three]
    split <;> decide

/-- `Enter` in a window with a value. -/
theorem At.valueEnter (here : At (.menuWin number) menu) (plain : Plain (.menuWin number))
    (listed : rows (.menuWin number) ≠ [] → 1 ∈ rows (.menuWin number)) (main : number ≠ 1) (settings : number ≠ 14)
    (saves : (save menu).InStep) (kept : (save menu).guiGetTopWin = menu.guiGetTopWin) :
    (menu.valueEnter save).InStep := by
  rw [Menu.valueEnter]
  split
  · rename_i value
    have select : ((menu.setNow 1).setFlag 0 0).setFlag 1 1 = menu.select 1 := by
      rw [Menu.select, value]
      rfl
    rw [select]
    exact (here.select plain listed).toInStep
  split
  · exact leave_inStep saves.toSound (kept.trans here.top) main settings
  split
  · exact leave_inStep here.toSound here.top main settings
  · exact here.toInStep

/-! ## Windows -/

theorem operate_inStep {op : Op} (inStep : menu.InStep) (other : switchesAp op = false) :
    (menu.operate op).InStep :=
  mark_inStep (inStep.apart (store_apart other)) _

theorem counterEnter_inStep {reset : Op} (here : At (.menuWin number) menu)
    (plain : Plain (.menuWin number)) (two : rows (.menuWin number) = [1, 2]) (main : number ≠ 1)
    (settings : number ≠ 14) (other : switchesAp reset = false) : (menu.counterEnter reset).InStep := by
  rw [counterEnter]
  split
  · rename_i first
    split
    · refine ⟨here.toSound.same rfl rfl rfl rfl, .of_top here.top fun _ => ?_⟩
      rw [plain, two]
      change Highlights _ _ menu.nowButtonId
      rw [first]
      exact highlights_of_flags 1 (by decide) (by simp)
    · exact leave_inStep (operate_inStep here.toInStep other).toSound here.top main settings
  split
  · exact leave_inStep here.toSound here.top main settings
  · exact here.toInStep

theorem counterInputFun_inStep {reset : Op} (here : At (.menuWin number) menu)
    (plain : Plain (.menuWin number)) (two : rows (.menuWin number) = [1, 2]) (main : number ≠ 1)
    (settings : number ≠ 14) (other : switchesAp reset = false) : (menu.counterInputFun number reset).InStep := by
  refine here.input (fun taken => taken.rowUp plain ?_) (fun taken => taken.rowDown plain ?_)
    fun entered => counterEnter_inStep entered plain two main settings other
  · simp [two]
  · simp [two]

theorem firstRow_of_ne (manual : number ≠ 2) (reminder : number ≠ 4) (automatic : number ≠ 5) :
    menu.FirstRow (.menuWin number) := by
  unfold FirstRow
  split
  · rename_i same
    exact absurd (Window.menuWin.inj same) manual
  · rename_i same
    exact absurd (Window.menuWin.inj same) reminder
  · rename_i same
    exact absurd (Window.menuWin.inj same) automatic
  · trivial

/-- A window without rows to select, closed or left for another one by `Enter`. -/
theorem listInputFun_inStep {opened : List Nat} (here : At (.menuWin number) menu)
    (none : rows (.menuWin number) = []) (main : number ≠ 1) (settings : number ≠ 14)
    (opens : ∀ other ∈ opened, number ∈ openers other ∧ other ≠ 2 ∧ other ≠ 4 ∧ other ≠ 5 ∧ other ≠ 14) :
    (menu.listInputFun number opened).InStep := by
  refine here.input (fun taken => taken.unselectable (rowUp_steady 0 3) none)
    (fun taken => taken.unselectable (rowDown_steady 0 3) none) fun entered => ?_
  split
  · exact leave_inStep entered.toSound entered.top main settings
  split
  · rename_i other found
    obtain ⟨listed, manual, reminder, automatic, apart⟩ := opens other (List.mem_of_getElem? found)
    exact open_inStep entered.toSound entered.top listed (firstRow_of_ne manual reminder automatic)
      fun settings => absurd settings apart
  · exact entered.toInStep

theorem noteInputFun_inStep (here : At (.menuWin number) menu) (main : number ≠ 1) (settings : number ≠ 14) :
    menu.noteInputFun.InStep := by
  have taken := (here.tryTake .up).tryTake .down
  exact tryTake_inStep (taken.leave fun taken => leave_inStep taken.toSound taken.top main settings) .long

theorem valueInputFun_inStep {up down : Menu → Menu} (here : At (.menuWin number) menu)
    (plain : Plain (.menuWin number)) (three : rows (.menuWin number) = [0, 1, 2]) (main : number ≠ 1)
    (settings : number ≠ 14)
    (ups : ∀ {taken}, At (.menuWin number) taken → At (.menuWin number) (up taken))
    (downs : ∀ {taken}, At (.menuWin number) taken → At (.menuWin number) (down taken))
    (saves : ∀ {entered : Menu}, entered.InStep → (save entered).InStep)
    (kept : ∀ {entered}, (save entered).guiGetTopWin = entered.guiGetTopWin) :
    (menu.valueInputFun number up down save).InStep := by
  refine here.input (fun taken => taken.valueKey plain three (ups taken))
    (fun taken => taken.valueKey plain three (downs taken)) fun entered => ?_
  exact entered.valueEnter plain (fun _ => by rw [three]; decide) main settings (saves entered.toInStep) kept

theorem userMain19Enter_inStep (here : At (.menuWin 19) menu) : menu.userMain19Enter.InStep := by
  rw [userMain19Enter]
  split
  · rename_i first
    split
    · refine ⟨here.toSound.same rfl rfl rfl rfl, .of_top here.top fun _ => ?_⟩
      change Highlights _ [0, 1] menu.nowButtonId
      rw [first]
      exact highlights_of_flags 0 (by decide) (by simp)
    · exact ⟨here.toSound.same rfl rfl rfl rfl, here.shown⟩
  split
  · exact leave_inStep here.toSound here.top (by decide) (by decide)
  · exact here.toInStep

theorem userMain19InputFun_inStep (here : At (.menuWin 19) menu) : menu.userMain19InputFun.InStep := by
  have plain : Plain (.menuWin 19) := fun _ => rfl
  exact here.input (fun taken => taken.rowToggle plain rfl) (fun taken => taken.rowToggle plain rfl)
    userMain19Enter_inStep

theorem userMain20Enter_inStep (here : At (.menuWin 20) menu) : menu.userMain20Enter.InStep := by
  rw [userMain20Enter]
  split
  · have stored : At (.menuWin 20) (menu.operate (.language menu.nowButtonId)) :=
      ⟨operate_inStep here.toInStep rfl, here.top⟩
    have drawn := stored.toSound.windowFunction (.menuWin 20)
    have top : ((menu.operate (.language menu.nowButtonId)).windowFunction (.menuWin 20)).guiGetTopWin =
        some (.menuWin 20) := by
      rw [guiGetTopWin, windowFunction_stack]
      exact stored.top
    rw [refreshDisplay, stored.top]
    exact leave_inStep drawn top (by decide) (by decide)
  split
  · exact leave_inStep here.toSound here.top (by decide) (by decide)
  · exact here.toInStep

theorem userMain20InputFun_inStep (here : At (.menuWin 20) menu) : menu.userMain20InputFun.InStep := by
  have plain : Plain (.menuWin 20) := fun _ => rfl
  exact here.input (fun taken => taken.rowDown plain (by simp [rows])) (fun taken => taken.rowUp plain (by simp [rows]))
    userMain20Enter_inStep

theorem apSwitch_sound (sound : menu.Sound) (state : UInt8) : (menu.store (apSwitch state)).Sound := by
  refine ⟨sound.nested, sound.page, ?_, sound.settled⟩
  change (if state ≠ 0 then (1 : UInt8) else 0) = 0 ∨ (if state ≠ 0 then (1 : UInt8) else 0) = 1
  split
  · exact .inr rfl
  · exact .inl rfl

theorem userMain32Enter_inStep (here : At (.menuWin 32) menu) : menu.userMain32Enter.InStep := by
  have switched := apSwitch_sound here.toSound menu.nowButtonId
  have marked : (menu.operate (apSwitch menu.nowButtonId)).Sound := switched.same rfl rfl rfl rfl
  have top : (menu.operate (apSwitch menu.nowButtonId)).guiGetTopWin = some (.menuWin 32) := here.top
  exact leave_inStep marked top (by decide) (by decide)

theorem userMain32InputFun_inStep (here : At (.menuWin 32) menu) : menu.userMain32InputFun.InStep := by
  have plain : Plain (.menuWin 32) := fun _ => rfl
  have key : ∀ {taken : Menu}, At (.menuWin 32) taken → At (.menuWin 32) taken.userMain32Key := by
    intro taken here
    refine here.select plain fun _ => ?_
    rw [cNot]
    split <;> decide
  exact here.input key key userMain32Enter_inStep

theorem lcdtoBackwash_inStep (inStep : menu.InStep) : menu.lcdtoBackwash.InStep := by
  have stored := inStep.apart (@store_apart menu (.moto true) rfl)
  have cycled : ((menu.store (.moto true)).on fun screen => screen.on fun display =>
      { display with moto := display.moto.motoCycle.1 }).InStep :=
    stored.apart (on_apart rfl)
  rw [lcdtoBackwash]
  split
  · split
    · exact popup_inStep cycled not_false
    · exact cycled
  · exact inStep

theorem userMain2InputFun_inStep (here : At (.menuWin 2) menu) : menu.userMain2InputFun.InStep := by
  have plain : Plain (.menuWin 2) := fun _ => rfl
  refine here.input (fun taken => taken.rowToggle plain rfl) (fun taken => taken.rowToggle plain rfl)
    fun {entered} here => ?_
  rw [userMain2Enter]
  split
  · have called := here.toInStep.apart (call_apart [.count 8])
    exact lcdtoBackwash_inStep (operate_inStep called rfl)
  · exact leave_inStep here.toSound here.top (by decide) (by decide)

theorem userMain6InputFun_inStep (here : At (.menuWin 6) menu) : menu.userMain6InputFun.InStep := by
  have key : ∀ {taken : Menu}, At (.menuWin 6) taken → At (.menuWin 6) taken.deltapressKey :=
    fun taken => taken.unselectable deltapressKey_steady rfl
  have moved : At (.menuWin 6) ((menu.onClick .up deltapressKey).onClick .down deltapressKey) :=
    (here.click key).click key
  have enter : ∀ {taken : Menu}, At (.menuWin 6) taken → taken.userMain6Enter.InStep := by
    intro taken here
    have stored : At (.menuWin 6) (taken.operate (.deltaSave taken.deltapressEnableTemp)) :=
      ⟨operate_inStep here.toInStep rfl, here.top⟩
    exact leave_inStep stored.toSound stored.top (by decide) (by decide)
  exact tryTake_inStep (moved.leave enter) .long

theorem userMain28InputFun_inStep (here : At (.menuWin 28) menu) : menu.userMain28InputFun.InStep := by
  have key : ∀ {taken : Menu}, At (.menuWin 28) taken → At (.menuWin 28) (taken.valueKey rangeKey) :=
    fun taken => taken.unselectable (valueKey_steady rangeKey_steady) rfl
  refine here.input key key fun {entered} here => ?_
  rw [userMain28Enter]
  split
  · have raised : At (.menuWin 28) ((((entered.setNow 1).setFlag 0 0).setFlag 1 1).setFlag 2 0) :=
      here.unselectable ⟨⟨rfl, rfl, rfl⟩, rfl, rfl, rfl⟩ rfl
    exact raised.toInStep
  · exact here.valueEnter (fun _ => rfl) (fun some => absurd rfl some) (by decide) (by decide)
      (operate_inStep here.toInStep rfl) rfl

theorem userMain29InputFun_inStep (here : At (.menuWin 29) menu) : menu.userMain29InputFun.InStep := by
  refine here.input (fun taken => taken.unselectable (valueKey_steady calibUp_steady) rfl)
    (fun taken => taken.unselectable (valueKey_steady calibDown_steady) rfl) fun {entered} here => ?_
  exact here.valueEnter (fun _ => rfl) (fun some => absurd rfl some) (by decide) (by decide)
    (operate_inStep here.toInStep rfl) rfl

theorem userMain31InputFun_inStep (here : At (.menuWin 31) menu) : menu.userMain31InputFun.InStep := by
  have enter : ∀ {taken : Menu}, At (.menuWin 31) taken → taken.userMain31Enter.InStep := by
    intro taken here
    rw [userMain31Enter]
    split
    · have resumed : At (.menuWin 31) (taken.on Screen.motoResume) :=
        here.apart (on_apart rfl)
      exact leave_inStep resumed.toSound resumed.top (by decide) (by decide)
    · exact here.toInStep
  have entered : (((menu.tryTake .up).tryTake .down).onClick .enter userMain31Enter).InStep :=
    ((here.tryTake .up).tryTake .down).leave enter
  exact (tryTake_inStep entered .long).apart showStatus_apart

/-- Both keys of the battery windows lead back to the main window, and no further. -/
theorem batteryInputFun_inStep (here : At (.menuWin number) menu) (opened : openers number = [1]) :
    menu.batteryInputFun.InStep := by
  let near (menu : Menu) : Prop :=
    menu.InStep ∧ (menu.stack = [.menuWin number, userMain1Win] ∨ menu.stack = [userMain1Win])
  have taken : ∀ {menu} key, near menu → near (menu.tryTake key) := by
    rintro menu key ⟨inStep, stack⟩
    have steady := @tryTake_apart menu key
    refine ⟨tryTake_inStep inStep key, ?_⟩
    rw [steady.stack]
    exact stack
  have closed : ∀ {menu : Menu}, near menu → near menu.guiWinDeleteTop := by
    rintro menu ⟨inStep, still | alone⟩
    · refine ⟨guiWinDeleteTop_inStep inStep.toSound still trivial, .inr ?_⟩
      obtain ⟨fits, uncovers⟩ := guiWinDeleteTop_of_below still
      rw [uncovers]
      exact windowFunction_stack userMain1Win
    · rw [guiWinDeleteTop_of_single alone]
      exact ⟨inStep, .inr alone⟩
  have clicked : ∀ {menu : Menu} key, near menu → near (menu.onClick key guiWinDeleteTop) := by
    intro menu key close
    rw [onClick]
    split
    · exact closed (taken key close)
    · exact taken key close
  obtain ⟨rest, stack⟩ := stack_of_top here.top
  have nested := here.nested
  rw [stack] at nested
  have first : near menu := ⟨here.toInStep, .inl (stack.trans (congrArg _ (nested.first opened)))⟩
  exact (taken .long (clicked .enter (taken .down (clicked .up first)))).1

end Menu

end SyrFilter.Display
