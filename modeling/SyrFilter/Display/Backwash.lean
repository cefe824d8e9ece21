import SyrFilter.Display.Windows
import SyrFilter.Moto.Posting

namespace SyrFilter.Display

open SyrFilter.Lib

/-! # Leaving the backwash screen

The backwash screen is left through `moto_done`, which a poll sets when it
receives one terminal bit and nothing else.  Entering and redrawing the screen
run the same function, which clears `moto_done` and all bits, so a redraw while
the motor rests takes the way out away; so does a terminal bit that joins
another one before the next poll.
-/

namespace State

/-- On the backwash screen with the motor at rest, the next poll will recognise a
terminal bit, or `moto_done` is set. -/
def Leavable (state : State) : Prop :=
  state.guiGetTopWin = some .userMain3Win → state.moto.Idle →
    (∃ bit, bit ≠ .back ∧ recognised state.moto.jumpEvent = some bit) ∨ state.motoDone = true

/-- The top window is about to be closed by a click or a call of its own. -/
def ClosesTop (state : State) : Event → Prop
  | .guiWinDisplay => state.guiGetTopWin = some .userMain25Win ∧ state.clicked .up = true
  | .wifiConnectWinDel => state.guiGetTopWin = some .winWifiConnect
  | .menu made => (∃ number, state.guiGetTopWin = some (.menuWin number)) ∧ made = .guiWinDeleteTop
  | _ => False

/-- The step does not redraw the backwash screen while the motor rests, and a
terminal bit joins no other one while it is waited for. -/
def KeepsWayOut (state : State) : Event → Prop
  | .moto event _ =>
      state.guiGetTopWin = some .userMain3Win → state.motoDone = false →
        ∀ bit, state.moto.posts event = some bit → bit ≠ .back → state.moto.jumpEvent ⊆ {bit}
  | .refreshDisplay => state.guiGetTopWin = some .userMain3Win → ¬state.moto.Idle
  | event => state.ClosesTop event → state.below = some .userMain3Win → ¬state.moto.Idle

variable {state : State}

theorem recognised_eq_some {received : Finset JumpEvent} {bit : JumpEvent} :
    recognised received = some bit ↔ received = {bit} := by
  constructor
  · intro found
    simpa using List.find?_some found
  · rintro rfl
    cases bit <;> decide

/-! ## Single calls -/

theorem leavable_of_top_ne (other : state.guiGetTopWin ≠ some .userMain3Win) : state.Leavable :=
  fun top => absurd top other

theorem leavable_of_running (running : ¬state.moto.Idle) : state.Leavable :=
  fun _ idle => absurd idle running

theorem leavable_call (made : List Call) : (state.call made).Leavable ↔ state.Leavable := by
  simp only [Leavable, guiGetTopWin, call_moto, call_winManage, call_motoDone]

theorem leavable_tryTake (key : Key) : (state.tryTake key).Leavable ↔ state.Leavable := by
  simp only [Leavable, guiGetTopWin, tryTake_moto, tryTake_winManage, tryTake_motoDone]

theorem windowFunction_leavable {window : Window} (top : state.guiGetTopWin = some window) :
    (state.windowFunction window).Leavable ↔ (window = .userMain3Win → ¬state.moto.Idle) := by
  cases window with
  | userMain3Win =>
      constructor
      · intro leavable _ idle
        rcases leavable top idle with ⟨bit, _, found⟩ | done
        · exact absurd (recognised_eq_some.mp found).symm (Finset.singleton_ne_empty bit)
        · exact Bool.noConfusion done
      · intro running
        exact leavable_of_running (running rfl)
  | userMain25Win => simp [windowFunction, Leavable, top]
  | winWifiConnect => simp [windowFunction, Leavable, top]
  | menuWin number => simp [windowFunction, Leavable, top]

theorem guiWinAdd_leavable (leavable : state.Leavable) {window : Window}
    (other : window ≠ .userMain3Win) : (state.guiWinAdd window).Leavable := by
  rw [guiWinAdd]
  split
  · refine (windowFunction_leavable ?_).mpr fun same => absurd same other
    rfl
  · exact leavable

theorem guiWinDeleteTop_leavable (leavable : state.Leavable) :
    state.guiWinDeleteTop.Leavable ↔ (state.below = some .userMain3Win → ¬state.moto.Idle) := by
  rw [guiWinDeleteTop]
  cases under : state.below with
  | none => simp [leavable]
  | some window =>
      have top : state.winManage.winStack.tail.head? = some window := by
        rw [← under, below, List.head?_tail]
      rw [Option.some.injEq]
      exact windowFunction_leavable top

/-! ## What the calls leave alone -/

theorem windowFunction_frame (window : Window) :
    (state.windowFunction window).moto.workFlag = state.moto.workFlag ∧
      (state.windowFunction window).clicks = state.clicks := by
  cases window <;> exact ⟨rfl, rfl⟩

theorem guiWinAdd_workFlag (window : Window) :
    (state.guiWinAdd window).moto.workFlag = state.moto.workFlag := by
  rw [guiWinAdd]
  split
  · exact (windowFunction_frame window).1
  · rfl

theorem guiWinDeleteTop_frame :
    state.guiWinDeleteTop.moto.workFlag = state.moto.workFlag ∧
      state.guiWinDeleteTop.clicks = state.clicks := by
  rw [guiWinDeleteTop]
  split
  · exact ⟨rfl, rfl⟩
  · exact windowFunction_frame _

theorem receiveJumpEvent_frame :
    state.receiveJumpEvent.moto.workFlag = state.moto.workFlag ∧
      state.receiveJumpEvent.clicks = state.clicks := by
  rw [receiveJumpEvent]
  split
  case h_5 => exact guiWinDeleteTop_frame
  all_goals exact ⟨rfl, rfl⟩

/-! ## Requests and polls -/

theorem lcdtoBackwash_leavable : state.lcdtoBackwash.Leavable ↔ state.Leavable := by
  rw [lcdtoBackwash]
  split
  · rename_i other
    refine iff_of_true ?_ (leavable_of_top_ne other)
    by_cases accepted : state.moto.cycleAccepted
    · rw [Moto.State.motoCycle_accepted accepted, if_pos rfl]
      apply leavable_of_running
      rw [Moto.State.Idle, guiWinAdd_workFlag, Moto.State.startCycle_workFlag]
      decide
    · rw [Moto.State.motoCycle_refused accepted, if_neg Bool.false_ne_true]
      exact leavable_of_top_ne other
  · exact Iff.rfl

theorem receiveJumpEvent_done (leavable : state.Leavable)
    (top : state.guiGetTopWin = some .userMain3Win) (idle : state.moto.Idle) :
    state.receiveJumpEvent.motoDone = true := by
  rw [receiveJumpEvent]
  rcases leavable top idle with ⟨bit, terminal, found⟩ | done
  · rw [found]
    cases bit with
    | back => exact absurd rfl terminal
    | tds => rfl
    | stalling => rfl
    | finish => rfl
    | nomoto => rfl
    | exit => rfl
  · split <;> first | rfl | exact done

theorem home_top_ne :
    (state.guiWinInit.guiWinAdd userMain1Win).guiGetTopWin ≠ some .userMain3Win := by
  change some userMain1Win ≠ some .userMain3Win
  decide

theorem userMain3InputFun_leavable (leavable : state.Leavable)
    (top : state.guiGetTopWin = some .userMain3Win) : state.userMain3InputFun.Leavable := by
  rw [userMain3InputFun, leavable_tryTake]
  split
  · exact leavable_of_top_ne home_top_ne
  · rw [leavable_tryTake, leavable_tryTake, leavable_tryTake]
    intro _ idle
    have rests : state.moto.Idle := by
      rwa [Moto.State.Idle, ← receiveJumpEvent_frame.1]
    exact .inr (receiveJumpEvent_done leavable top rests)

theorem userMain3InputFun_leaves (leavable : state.Leavable)
    (top : state.guiGetTopWin = some .userMain3Win) (idle : state.moto.Idle)
    (entered : state.clicked .enter = true) :
    state.userMain3InputFun.winManage.winStack = [userMain1Win] := by
  have done := receiveJumpEvent_done leavable top idle
  have clicks := (@receiveJumpEvent_frame state).2
  have leaves : (((state.receiveJumpEvent.tryTake .up).tryTake .down).clicked .enter &&
      ((state.receiveJumpEvent.tryTake .up).tryTake .down).motoDone) = true := by
    simpa [clicked, tryTake, Function.update_of_ne, clicks, done] using entered
  rw [userMain3InputFun, if_pos leaves]
  rfl

theorem userMain3InputFun_stuck (stuck : ¬state.Leavable) : ¬state.userMain3InputFun.Leavable := by
  simp only [Leavable, not_forall, not_or, not_exists, not_and, Bool.not_eq_true] at stuck
  obtain ⟨top, idle, unseen, undone⟩ := stuck
  have cleared : state.receiveJumpEvent =
      { state with moto := { state.moto with jumpEvent := ∅ } } := by
    rw [receiveJumpEvent]
    cases found : recognised state.moto.jumpEvent with
    | none => rfl
    | some bit =>
        have back : bit = .back := not_not.mp fun terminal => unseen bit terminal found
        rw [back]
  intro leavable
  rw [userMain3InputFun, cleared, if_neg (by simp [tryTake, undone])] at leavable
  rcases leavable top idle with ⟨bit, _, found⟩ | done
  · exact absurd (recognised_eq_some.mp found).symm (Finset.singleton_ne_empty bit)
  · exact Bool.noConfusion (undone.symm.trans done)

/-- Up closes the reminder and uncovers what is below. -/
theorem userMain25InputFun_leavable (leavable : state.Leavable) :
    state.userMain25InputFun.Leavable ↔
      (state.clicked .up = true → state.below = some .userMain3Win → ¬state.moto.Idle) := by
  have closed : (if state.clicked .up then
      ((state.tryTake .up).call [.insertNotifyArray 0xff]).guiWinDeleteTop
        else state.tryTake .up).Leavable ↔
      (state.clicked .up = true → state.below = some .userMain3Win → ¬state.moto.Idle) := by
    have refused := (leavable_tryTake .up).mpr leavable
    cases up : state.clicked .up with
    | false => simpa using refused
    | true =>
        have closes := guiWinDeleteTop_leavable ((leavable_call [.insertNotifyArray 0xff]).mpr refused)
        simpa [below] using closes
  rw [← closed, userMain25InputFun, leavable_tryTake]
  split
  all_goals
    split
    · rw [jumptoAutomatic, lcdtoBackwash_leavable, leavable_call, leavable_call, leavable_tryTake,
        leavable_tryTake]
    · rw [leavable_tryTake, leavable_tryTake]

end State

/-- On the backwash screen of a motor at rest, Enter leads home exactly when there is a way out. -/
theorem enter_leaves_iff_leavable {state : State} (top : state.guiGetTopWin = some .userMain3Win)
    (idle : state.moto.Idle) (entered : state.clicked .enter = true) :
    (step state .guiWinDisplay).winManage.winStack = [userMain1Win] ↔ state.Leavable := by
  rw [step, State.guiWinDisplay, top]
  constructor
  · intro home
    by_contra stuck
    apply State.userMain3InputFun_stuck stuck
    apply State.leavable_of_top_ne
    rw [State.guiGetTopWin, home]
    decide
  · intro leavable
    exact State.userMain3InputFun_leaves leavable top idle entered

/-! ## Whole runs -/

theorem recognised_eventSend {pending : Finset JumpEvent} {bit : JumpEvent} (terminal : bit ≠ .back) :
    (∃ seen, seen ≠ .back ∧ State.recognised (eventSend pending bit) = some seen) ↔
      pending ⊆ {bit} := by
  constructor
  · rintro ⟨seen, _, found⟩
    have only := State.recognised_eq_some.mp found
    have same : bit = seen := by
      rw [← Finset.mem_singleton, ← only]
      exact Finset.mem_insert_self bit pending
    rw [same, ← only]
    exact Finset.subset_insert bit pending
  · intro joins
    refine ⟨bit, terminal, State.recognised_eq_some.mpr ?_⟩
    apply Finset.Subset.antisymm
    · exact Finset.insert_subset (Finset.mem_singleton_self bit) joins
    · exact Finset.singleton_subset_iff.mpr (Finset.mem_insert_self bit pending)

/-- A motor event that posts nothing keeps what was there; a terminal bit has to come alone. -/
theorem moto_leavable_iff {state : State} (leavable : state.Leavable) {event : Moto.Event}
    (hardware : event ≠ .cycle) :
    (step state (.moto event hardware)).Leavable ↔ state.KeepsWayOut (.moto event hardware) := by
  have bits := Moto.step_jumpEvent state.moto event
  have rests := @Moto.step_restsAsPosted state.moto event hardware
  cases posted : state.moto.posts event with
  | none =>
      rw [posted] at bits rests
      refine iff_of_true ?_ ?_
      · intro top idle
        rcases leavable top (rests idle) with ⟨bit, terminal, found⟩ | done
        · exact .inl ⟨bit, terminal, bits ▸ found⟩
        · exact .inr done
      · intro _ _ bit other
        rw [posted] at other
        cases other
  | some bit =>
      rw [posted] at bits rests
      rw [Option.elim_some] at bits
      by_cases back : bit = .back
      · subst back
        refine iff_of_true (State.leavable_of_running rests) ?_
        intro _ _ bit same terminal
        rw [posted, Option.some.injEq] at same
        exact absurd same.symm terminal
      · have seen := @recognised_eventSend state.moto.jumpEvent bit back
        have idle := Moto.restsAsPosted_terminal back rests
        rw [← bits] at seen
        constructor
        · intro after top undone other same _
          rw [posted, Option.some.injEq] at same
          rcases after top idle with found | done
          · exact same ▸ seen.mp found
          · exact Bool.noConfusion (undone.symm.trans done)
        · intro alone top _
          cases done : state.motoDone with
          | true => exact .inr done
          | false => exact .inl (seen.mpr (alone top done bit posted back))

theorem guiWinDisplay_leavable_iff {state : State} (leavable : state.Leavable) :
    state.guiWinDisplay.Leavable ↔ state.KeepsWayOut .guiWinDisplay := by
  rw [State.guiWinDisplay]
  cases top : state.guiGetTopWin with
  | none => simp [State.KeepsWayOut, State.ClosesTop, top, leavable]
  | some window =>
      cases window with
      | userMain3Win =>
          have kept := State.userMain3InputFun_leavable leavable top
          simpa [State.KeepsWayOut, State.ClosesTop, top] using kept
      | userMain25Win =>
          simpa [State.KeepsWayOut, State.ClosesTop, top] using
            State.userMain25InputFun_leavable leavable
      | winWifiConnect =>
          have kept : state.winWifiInputCallback.Leavable := by
            have taken := fun key => (State.leavable_tryTake key).mpr leavable
            rw [State.winWifiInputCallback]
            split
            · exact taken .up
            split
            · exact taken .down
            split
            · exact taken .enter
            · exact taken .long
          simpa [State.KeepsWayOut, State.ClosesTop, top] using kept
      | menuWin number =>
          have kept : state.menuInputFun.Leavable := by
            rw [State.menuInputFun, State.leavable_tryTake, State.leavable_tryTake,
              State.leavable_tryTake, State.leavable_tryTake]
            exact leavable
          simpa [State.KeepsWayOut, State.ClosesTop, top] using kept

theorem menuCall_leavable_iff {state : State} (leavable : state.Leavable) (made : MenuCall) :
    (state.menuCall made).Leavable ↔ state.KeepsWayOut (.menu made) := by
  rw [State.menuCall]
  split
  · rename_i number top
    cases made with
    | guiWinAdd other =>
        have kept := @State.guiWinAdd_leavable state leavable (.menuWin other) (by simp)
        simpa [State.KeepsWayOut, State.ClosesTop] using kept
    | guiWinReload =>
        have kept : (state.guiWinReload (.menuWin number)).Leavable := leavable
        simpa [State.KeepsWayOut, State.ClosesTop] using kept
    | guiWinDeleteTop =>
        simpa [State.KeepsWayOut, State.ClosesTop, top] using State.guiWinDeleteTop_leavable leavable
    | lcdtoBackwash =>
        have kept := State.lcdtoBackwash_leavable.mpr ((State.leavable_call [.count 8]).mpr leavable)
        simpa [State.KeepsWayOut, State.ClosesTop] using kept
  · rename_i other
    refine iff_of_true leavable ?_
    rintro ⟨⟨number, top⟩, _⟩
    exact absurd top (other number)

theorem step_leavable_iff {state : State} (leavable : state.Leavable) (event : Event) :
    (step state event).Leavable ↔ state.KeepsWayOut event := by
  cases event with
  | moto event hardware => exact moto_leavable_iff leavable hardware
  | syrMotoSet => exact iff_of_true (State.lcdtoBackwash_leavable.mpr leavable) False.elim
  | deltaRelease => exact iff_of_true (State.lcdtoBackwash_leavable.mpr leavable) False.elim
  | rtcAutomatic => exact iff_of_true (State.lcdtoBackwash_leavable.mpr leavable) False.elim
  | rtcReminder =>
      refine iff_of_true ?_ False.elim
      rw [step, State.lcdtoReminder]
      split
      · exact @State.guiWinAdd_leavable { state with screenReload := false } leavable _ (by decide)
      · exact leavable
  | refreshDisplay =>
      rw [step, State.refreshDisplay]
      cases top : state.guiGetTopWin with
      | none => simp [State.KeepsWayOut, top, leavable]
      | some window =>
          simpa [State.KeepsWayOut, State.guiWinReload, top] using State.windowFunction_leavable top
  | lcdRefresh =>
      refine iff_of_true ?_ False.elim
      rw [step, State.lcdRefreshFromSleep]
      split
      · exact State.leavable_of_top_ne State.home_top_ne
      · exact leavable
  | wifiConnectWinAdd =>
      refine iff_of_true ?_ False.elim
      rw [step, State.wifiConnectWinAdd]
      split
      · exact State.guiWinAdd_leavable leavable (by decide)
      · exact leavable
  | wifiConnectWinDel =>
      rw [step, State.wifiConnectWinDel]
      split
      · rename_i top
        exact (State.guiWinDeleteTop_leavable leavable).trans
          ⟨fun keeps _ => keeps, fun keeps => keeps top⟩
      · rename_i other
        exact iff_of_true leavable fun top => absurd top other
  | press key => exact iff_of_true leavable False.elim
  | doneJumpExpires =>
      refine iff_of_true ?_ False.elim
      rw [step]
      split <;> exact leavable
  | guiWinDisplay => exact guiWinDisplay_leavable_iff leavable
  | menu made => exact menuCall_leavable_iff leavable made

/-- In every run from the start, the backwash screen can be left in every state
exactly when each step keeps the way out. -/
theorem backwash_leavable_iff_steps_keep_way_out (left right : Bool) (inputs : Moto.Inputs)
    (events : List Event) :
    Throughout step State.Leavable (boot left right inputs) events ↔
      EachStep step State.KeepsWayOut (boot left right inputs) events := by
  have initial : (boot left right inputs).Leavable :=
    State.leavable_of_top_ne (by decide : some userMain1Win ≠ some .userMain3Win)
  refine throughout_iff_eachStep (fun _ => True) trivial initial ?_ ?_
  · exact fun _ _ _ _ _ => trivial
  · exact fun _ event _ leavable => step_leavable_iff leavable event

/-- A backwash that finishes and is acknowledged by the screen; then a remote
setting redraws the screen. -/
def redrawnAfterFinish : List Event :=
  [.syrMotoSet, .moto (.leftLevel true) (by decide), .moto (.rightLevel false) (by decide),
    .guiWinDisplay, .moto .cycleExpires (by decide), .moto (.rightLevel true) (by decide),
    .moto (.leftLevel false) (by decide), .guiWinDisplay, .refreshDisplay]

theorem stuck_after_redraw :
    ¬Throughout step State.Leavable (boot false true ⟨0, 30, 100, 0, 0⟩) redrawnAfterFinish := by
  intro holds
  have nothing : State.recognised
      (run step (boot false true ⟨0, 30, 100, 0, 0⟩) (redrawnAfterFinish.take 9)).moto.jumpEvent =
        none := by decide
  rcases holds 9 (by decide) (by decide) with ⟨bit, _, found⟩ | done
  · rw [nothing] at found
    cases found
  · exact absurd done (by decide)

end SyrFilter.Display
