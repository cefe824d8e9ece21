import SyrFilter.Display.View

namespace SyrFilter.Display

/-! # How windows may lie on each other

Menu windows are opened by menu windows, the WiFi window not over itself, and
the backwash and reminder windows over anything.  The update screen opens no
window, so no menu window lies above it, and it is on the stack at most once.
-/

/-- A window may lie directly on another. -/
def Over : Window → Window → Prop
  | .menuWin _, .menuWin number => number ≠ 31
  | .menuWin _, _ => False
  | .winWifiConnect, below => below ≠ .winWifiConnect
  | _, _ => True

structure Stacked (stack : List Window) : Prop where
  chain : stack.IsChain Over
  last : stack.getLast? = some userMain1Win

namespace Stacked

variable {stack rest : List Window} {window top below : Window} {number : Nat}

theorem home : Stacked [userMain1Win] := ⟨.singleton _, rfl⟩

theorem ne_nil (stacked : Stacked stack) : stack ≠ [] := by
  rintro rfl
  cases stacked.last

theorem cons (stacked : Stacked stack) (lies : ∀ top ∈ stack.head?, Over window top) :
    Stacked (window :: stack) := by
  refine ⟨List.isChain_cons.mpr ⟨lies, stacked.chain⟩, ?_⟩
  obtain ⟨top, rest, rfl⟩ := List.exists_cons_of_ne_nil stacked.ne_nil
  rw [List.getLast?_cons_cons]
  exact stacked.last

theorem tail (stacked : Stacked (top :: below :: rest)) : Stacked (below :: rest) := by
  refine ⟨stacked.chain.tail, ?_⟩
  rw [← List.getLast?_cons_cons (a := top)]
  exact stacked.last

theorem lies (stacked : Stacked (top :: below :: rest)) : Over top below :=
  (List.isChain_cons_cons.mp stacked.chain).1

/-- Only the main window lies at the bottom. -/
theorem below_of_ne (stacked : Stacked (top :: rest)) (other : top ≠ userMain1Win) :
    ∃ below under, rest = below :: under := by
  cases rest with
  | nil => exact absurd (Option.some.inj stacked.last) other
  | cons below under => exact ⟨below, under, rfl⟩

/-- Below a menu window other than the update screen there are only such windows. -/
theorem not_mem_of_menu (stacked : Stacked (.menuWin number :: rest)) (other : number ≠ 31) :
    userMain31Win ∉ Window.menuWin number :: rest := by
  induction rest generalizing number with
  | nil =>
      rw [List.mem_singleton]
      exact fun same => other (Window.menuWin.inj same).symm
  | cons below under ih =>
      have lies := stacked.lies
      cases below with
      | menuWin next =>
          rw [List.mem_cons, not_or]
          exact ⟨fun same => other (Window.menuWin.inj same).symm, ih stacked.tail lies⟩
      | userMain3Win => exact lies.elim
      | userMain25Win => exact lies.elim
      | winWifiConnect => exact lies.elim

theorem not_mem_tail (stacked : Stacked (userMain31Win :: rest)) : userMain31Win ∉ rest := by
  cases rest with
  | nil => exact List.not_mem_nil
  | cons below under =>
      have lies := stacked.lies
      cases below with
      | menuWin next => exact stacked.tail.not_mem_of_menu lies
      | userMain3Win => exact lies.elim
      | userMain25Win => exact lies.elim
      | winWifiConnect => exact lies.elim

end Stacked

/-! ## Views -/

namespace View

variable {view : View} {window top below : Window} {rest : List Window}

/-- The update screen is somewhere on the stack. -/
def Updating (view : View) : Prop := userMain31Win ∈ view.stack

instance : Decidable view.Updating := inferInstanceAs (Decidable (_ ∈ _))

/-- The windows lie as they may, and the motor is paused under the update screen. -/
structure Kept (view : View) : Prop where
  stacked : Stacked view.stack
  paused : view.Updating → view.workStatus = 1

theorem enter_of_ne (other : window ≠ userMain31Win) : view.enter window = view := if_neg other

theorem enter_stack (window : Window) : (view.enter window).stack = view.stack := by
  rw [enter]
  split <;> rfl

theorem enter_kept (stacked : Stacked view.stack) (paused : view.Updating → window = userMain31Win ∨ view.workStatus = 1) :
    (view.enter window).Kept := by
  rw [enter]
  split
  · exact ⟨stacked, fun _ => rfl⟩
  · rename_i other
    exact ⟨stacked, fun updating => (paused updating).resolve_left other⟩

theorem push_kept (kept : view.Kept) (lies : ∀ top ∈ view.stack.head?, Over window top) :
    (view.push window).Kept := by
  rw [push]
  split
  · apply enter_kept (kept.stacked.cons lies)
    intro updating
    rcases List.mem_cons.mp updating with same | under
    · exact .inl same.symm
    · exact .inr (kept.paused under)
  · exact kept

theorem pop_of_cons (stack : view.stack = top :: below :: rest) :
    view.pop = { view with stack := below :: rest }.enter below := by
  have second : view.stack[1]? = some below := by rw [stack]; rfl
  have tail : view.stack.tail = below :: rest := by rw [stack]; rfl
  rw [pop, second, tail]

theorem pop_of_singleton (stack : view.stack = [top]) : view.pop = view := by
  have second : view.stack[1]? = none := by rw [stack]; rfl
  rw [pop, second]

/-- What a pop comes to on a stack that has a window. -/
theorem pop_cases (kept : view.Kept) :
    view.pop = view ∨ ∃ top below rest, view.stack = top :: below :: rest ∧
      view.pop = { view with stack := below :: rest }.enter below := by
  obtain ⟨top, under, stack⟩ := List.exists_cons_of_ne_nil kept.stacked.ne_nil
  cases under with
  | nil => exact .inl (pop_of_singleton stack)
  | cons below rest => exact .inr ⟨top, below, rest, stack, pop_of_cons stack⟩

theorem pop_kept (kept : view.Kept) : view.pop.Kept := by
  rcases pop_cases kept with same | ⟨top, below, rest, stack, popped⟩
  · rw [same]
    exact kept
  · have stacked := kept.stacked
    rw [stack] at stacked
    rw [popped]
    refine enter_kept stacked.tail fun updating => .inr (kept.paused ?_)
    rw [Updating, stack]
    exact List.mem_cons_of_mem top updating

theorem redraw_kept (kept : view.Kept) : view.redraw.Kept := by
  rw [redraw]
  cases view.stack.head? with
  | none => exact kept
  | some window => exact enter_kept kept.stacked fun updating => .inr (kept.paused updating)

theorem home_kept : view.home.Kept := by
  refine ⟨.home, fun updating => ?_⟩
  have main : userMain31Win ∈ [userMain1Win] := updating
  exact absurd main (by decide)

theorem catchUp_same (view : View) (wifiStatus : UInt8) :
    (view.catchUp wifiStatus).stack = view.stack ∧ (view.catchUp wifiStatus).workStatus = view.workStatus := by
  rw [catchUp]
  split
  · split
    · exact ⟨rfl, rfl⟩
    · exact ⟨rfl, rfl⟩
  · exact ⟨rfl, rfl⟩

theorem Kept.of_same {after : View} (kept : view.Kept) (stack : after.stack = view.stack)
    (pause : after.workStatus = view.workStatus) : after.Kept := by
  refine ⟨stack ▸ kept.stacked, fun updating => pause.trans (kept.paused ?_)⟩
  rw [Updating, stack] at updating
  exact updating

/-- Enter in the update screen: it is gone and the motor is free. -/
theorem leave_spec (kept : view.Kept) (top : view.stack.head? = some userMain31Win) :
    view.resume.pop.Kept ∧ ¬view.resume.pop.Updating ∧ view.resume.pop.workStatus = 0 := by
  obtain ⟨under, stack⟩ := List.head?_eq_some_iff.mp top
  have stacked := kept.stacked
  rw [stack] at stacked
  obtain ⟨below, rest, rfl⟩ := stacked.below_of_ne (by decide)
  have absent := stacked.not_mem_tail
  have plain : below ≠ userMain31Win := fun same => absent (same ▸ List.mem_cons_self)
  have resumed : view.resume.stack = userMain31Win :: below :: rest := stack
  have popped : view.resume.pop = { view.resume with stack := below :: rest } :=
    (pop_of_cons resumed).trans (enter_of_ne plain)
  rw [popped]
  exact ⟨⟨stacked.tail, fun updating => absurd updating absent⟩, absent, rfl⟩

end View

/-! ## Steps -/

namespace Screen

variable {screen : Screen}

theorem top_of_stack {window : Window} (top : screen.guiGetTopWin = some window) :
    screen.view.stack.head? = some window := top

theorem updateView_kept (kept : screen.view.Kept) (top : screen.guiGetTopWin = some userMain31Win) :
    screen.updateView.Kept := by
  have left : screen.leftView.Kept := by
    rw [leftView]
    split
    · exact (View.leave_spec kept top).1
    · exact kept
  obtain ⟨stack, pause⟩ := View.catchUp_same screen.leftView screen.wifiStatus
  exact left.of_same stack pause

theorem pollView_kept (kept : screen.view.Kept) : screen.pollView.Kept := by
  rw [pollView]
  cases top : screen.guiGetTopWin with
  | none => exact kept
  | some window =>
      cases window with
      | winWifiConnect => exact kept
      | userMain3Win =>
          have received : screen.receivedView.Kept := by
            rw [receivedView]
            split
            · exact View.pop_kept kept
            · exact kept
          dsimp only
          rw [backwashView]
          split
          · exact View.home_kept
          · exact received
      | userMain25Win =>
          have closed : screen.closedView.Kept := by
            rw [closedView]
            split
            · exact View.pop_kept kept
            · exact kept
          dsimp only
          rw [reminderView]
          split
          · exact View.push_kept closed fun _ _ => trivial
          · exact closed
      | menuWin number =>
          dsimp only
          split
          · rename_i update
            subst update
            exact updateView_kept kept top
          · exact kept

theorem menuView_kept (kept : screen.view.Kept) (made : MenuCall) : (screen.menuView made).Kept := by
  rw [menuView]
  split
  · rename_i number top
    split
    · exact kept
    · rename_i other
      cases made with
      | guiWinAdd opened =>
          dsimp only
          split
          · exact kept
          · refine View.push_kept kept fun under found => ?_
            rw [top_of_stack top] at found
            cases found
            exact other
      | guiWinReload => exact kept
      | guiWinDeleteTop => exact View.pop_kept kept
      | lcdtoBackwash =>
          dsimp only
          split
          · exact View.push_kept kept fun _ _ => trivial
          · exact kept
  · exact kept

theorem viewAfter_kept (kept : screen.view.Kept) (event : Event) : (screen.viewAfter event).Kept := by
  cases event with
  | push thread =>
      rw [viewAfter]
      split
      · exact View.push_kept kept fun _ _ => trivial
      · exact kept
  | rtcReminder =>
      rw [viewAfter]
      split
      · exact View.push_kept kept fun _ _ => trivial
      · exact kept
  | refreshDisplay => exact View.redraw_kept kept
  | lcdRefresh =>
      rw [viewAfter]
      split
      · exact View.home_kept
      · exact kept
  | guiWinDisplay => exact pollView_kept kept
  | menu made => exact menuView_kept kept made
  | wifiConnectStart =>
      rw [viewAfter]
      split
      · rename_i other
        refine View.push_kept kept fun under found same => other ?_
        rw [← same]
        exact found
      · exact kept
  | wifiCloseExpires =>
      rw [viewAfter]
      split
      · split
        · exact View.pop_kept kept
        · exact kept
      · exact kept
  | otaTimeout =>
      rw [viewAfter]
      split
      · exact kept.of_same rfl rfl
      · exact kept
  | updateControl value => exact kept.of_same rfl rfl
  | _ => exact kept

theorem step_kept (kept : screen.view.Kept) (event : Event) : (step screen event).view.Kept := by
  rw [view_step]
  exact viewAfter_kept kept event

theorem boot_kept (left right : Bool) (inputs : Moto.Inputs) : (boot left right inputs).view.Kept := by
  have stack : (boot left right inputs).view.stack = [userMain1Win] := rfl
  refine ⟨stack ▸ .home, fun updating => ?_⟩
  rw [View.Updating, stack] at updating
  exact absurd updating (by decide)

end Screen

end SyrFilter.Display
