import SyrFilter.Display.System
import SyrFilter.Storage.Reset

namespace SyrFilter.Display

open SyrFilter.Lib
open SyrFilter.Storage (Device)

/-! # Started and ended

The end of a backwash is reported by the poll that finds one terminal bit and
nothing else on the backwash screen.  A bit that joins another one, that comes
while another window covers the screen, or that a redraw discards is never
reported; a stale timer ends what has ended already or starts the motor without
a report.
-/

/-- A prefix of started, ended, started, ended and so on. -/
def Alternates (uploads : List Nat) : Prop :=
  ∀ index status, uploads[index]? = some status → status = if index % 2 = 0 then 1 else 0

theorem alternates_nil : Alternates [] := by
  intro index status found
  simp at found

theorem alternates_snoc {uploads : List Nat} {status : Nat} :
    Alternates (uploads ++ [status]) ↔
      Alternates uploads ∧ status = if uploads.length % 2 = 0 then 1 else 0 := by
  constructor
  · intro alternates
    refine ⟨fun index earlier found => alternates index earlier ?_, alternates uploads.length status ?_⟩
    · rw [List.getElem?_append_left (List.getElem?_eq_some_iff.mp found).1, found]
    · simp
  · rintro ⟨alternates, next⟩ index later found
    by_cases earlier : index < uploads.length
    · rw [List.getElem?_append_left earlier] at found
      exact alternates index later found
    · have last : index = uploads.length := by
        have bound := (List.getElem?_eq_some_iff.mp found).1
        rw [List.length_append, List.length_singleton] at bound
        omega
      subst last
      simp only [List.getElem?_concat_length, Option.some.injEq] at found
      rw [← found]
      exact next

/-- The bits that end a backwash. -/
def Ends (bit : JumpEvent) : Prop := bit ≠ .back ∧ bit ≠ .exit

instance : DecidablePred Ends := fun _ => inferInstanceAs (Decidable (_ ∧ _))

namespace State

variable (state : State)

/-- The next poll reports an end, if nothing comes before it. -/
def EndWaits : Prop :=
  state.guiGetTopWin = some .userMain3Win ∧ ∃ bit, Ends bit ∧ recognised state.moto.jumpEvent = some bit

instance : Decidable state.EndWaits :=
  decidable_of_iff
    (state.guiGetTopWin = some .userMain3Win ∧ (recognised state.moto.jumpEvent).any (decide <| Ends ·))
    (by simp [EndWaits, Option.any_eq_true, and_comm])

/-- An end is still to be reported. -/
def EndDue : Prop := ¬state.moto.Idle ∨ state.EndWaits

instance : Decidable state.EndDue := inferInstanceAs (Decidable (_ ∨ _))

/-- The step takes the bits from the backwash screen, or covers it. -/
def TakesEnd : Event → Prop
  | .refreshDisplay | .guiWinDisplay => True
  | .lcdRefresh => state.screenReload = true
  | .rtcReminder | .wifiConnectWinAdd => state.winManage.winStack.length < guiWinManageNum
  | _ => False

instance (event : Event) : Decidable (state.TakesEnd event) :=
  match event with
  | .refreshDisplay | .guiWinDisplay => isTrue trivial
  | .lcdRefresh => inferInstanceAs (Decidable (_ = true))
  | .rtcReminder | .wifiConnectWinAdd => inferInstanceAs (Decidable (_ < guiWinManageNum))
  | .moto _ _ | .syrMotoSet | .deltaRelease | .rtcAutomatic | .wifiConnectWinDel | .press _
  | .doneJumpExpires | .menu _ => isFalse id

/-- The step neither loses an end nor makes one up: no timer drives the motor
out of its rest, a terminal bit comes alone to the backwash screen exactly when
an end is due, and nothing but the poll takes an end that waits. -/
def ReportsEnd : Event → Prop
  | .moto event _ =>
      (event = .cycleExpires → state.moto.cycleTimer.active = true → ¬state.moto.Idle) ∧
        ∀ bit, state.moto.posts event = some bit → bit ≠ .back →
          (state.EndDue ↔
            state.guiGetTopWin = some .userMain3Win ∧ state.moto.jumpEvent ⊆ {bit})
  | .guiWinDisplay => True
  | event => state.TakesEnd event → ¬state.EndWaits

instance (event : Event) : Decidable (state.ReportsEnd event) :=
  match event with
  | .moto event _ =>
      inferInstanceAs
        (Decidable ((_ → _ → ¬_) ∧
          ∀ bit ∈ state.moto.posts event, bit ≠ .back → (_ ↔ _ ∧ state.moto.jumpEvent ⊆ {bit})))
  | .guiWinDisplay => isTrue trivial
  | .syrMotoSet | .deltaRelease | .rtcAutomatic | .rtcReminder | .refreshDisplay | .lcdRefresh
  | .wifiConnectWinAdd | .wifiConnectWinDel | .press _ | .doneJumpExpires | .menu _ =>
      inferInstanceAs (Decidable (state.TakesEnd _ → ¬state.EndWaits))

variable {state}

theorem endReport_of_endWaits (waits : state.EndWaits) : state.endReport = [0] := by
  obtain ⟨_, bit, ends, found⟩ := waits
  rw [endReport, found]
  cases bit with
  | back => exact absurd rfl ends.1
  | exit => exact absurd rfl ends.2
  | tds => rfl
  | stalling => rfl
  | finish => rfl
  | nomoto => rfl

theorem endReport_of_not_endWaits (top : state.guiGetTopWin = some .userMain3Win)
    (none : ¬state.EndWaits) : state.endReport = [] := by
  have silent {bit : JumpEvent} (found : recognised state.moto.jumpEvent = some bit) : ¬Ends bit :=
    fun ends => none ⟨top, bit, ends, found⟩
  rw [endReport]
  cases found : recognised state.moto.jumpEvent with
  | none => rfl
  | some bit =>
      cases bit with
      | back => rfl
      | exit => rfl
      | tds => exact absurd (by simp [Ends]) (silent found)
      | stalling => exact absurd (by simp [Ends]) (silent found)
      | finish => exact absurd (by simp [Ends]) (silent found)
      | nomoto => exact absurd (by simp [Ends]) (silent found)

/-! ## Calls that take the bits, and calls that keep them -/

theorem not_endWaits_of_top_ne (other : state.guiGetTopWin ≠ some .userMain3Win) : ¬state.EndWaits :=
  fun waits => other waits.1

theorem not_endWaits_of_empty (empty : state.moto.jumpEvent = ∅) : ¬state.EndWaits := by
  rintro ⟨_, bit, _, found⟩
  rw [recognised_eq_some, empty] at found
  exact Finset.singleton_ne_empty bit found.symm

theorem windowFunction_not_endWaits {window : Window} (top : state.guiGetTopWin = some window) :
    ¬(state.windowFunction window).EndWaits := by
  cases window with
  | userMain3Win => exact not_endWaits_of_empty rfl
  | userMain25Win => exact not_endWaits_of_top_ne (by simp [windowFunction, top])
  | winWifiConnect => exact not_endWaits_of_top_ne (by simp [windowFunction, top])
  | menuWin number => exact not_endWaits_of_top_ne (by simp [windowFunction, top])

theorem guiWinAdd_endWaits (window : Window) :
    (state.guiWinAdd window).EndWaits ↔
      state.EndWaits ∧ ¬state.winManage.winStack.length < guiWinManageNum := by
  by_cases room : state.winManage.winStack.length < guiWinManageNum
  · rw [guiWinAdd, dif_pos room]
    exact iff_of_false (windowFunction_not_endWaits rfl) fun both => both.2 room
  · rw [guiWinAdd, dif_neg room]
    exact (and_iff_left room).symm

theorem guiWinDeleteTop_not_endWaits (other : state.guiGetTopWin ≠ some .userMain3Win) :
    ¬state.guiWinDeleteTop.EndWaits := by
  rw [guiWinDeleteTop]
  cases under : state.below with
  | none => exact not_endWaits_of_top_ne other
  | some window =>
      have top : state.winManage.winStack.tail.head? = some window := by
        rw [← under, below, List.head?_tail]
      exact windowFunction_not_endWaits top

theorem guiWinDeleteTop_idle : state.guiWinDeleteTop.moto.Idle ↔ state.moto.Idle := by
  rw [Moto.State.Idle, guiWinDeleteTop_frame.1, Moto.State.Idle]

theorem guiWinAdd_idle (window : Window) : (state.guiWinAdd window).moto.Idle ↔ state.moto.Idle := by
  rw [Moto.State.Idle, guiWinAdd_workFlag, Moto.State.Idle]

/-- What a step leaves of the motor's rest and of an end that waits. -/
structure Leaves (before after : State) (waits : Prop) : Prop where
  idle : after.moto.Idle ↔ before.moto.Idle
  endWaits : after.EndWaits ↔ waits

theorem leaves_tryTake {before : State} {waits : Prop} (key : Key) :
    Leaves before (state.tryTake key) waits ↔ Leaves before state waits :=
  ⟨fun leaves => ⟨leaves.idle, leaves.endWaits⟩, fun leaves => ⟨leaves.idle, leaves.endWaits⟩⟩

theorem leaves_none {before : State} (idle : state.moto.Idle ↔ before.moto.Idle)
    (none : ¬state.EndWaits) : Leaves before state False := ⟨idle, iff_of_false none id⟩

theorem lcdtoBackwash_leaves (refused : ¬state.Starts) :
    Leaves state state.lcdtoBackwash state.EndWaits := by
  rw [lcdtoBackwash]
  by_cases other : state.guiGetTopWin ≠ some .userMain3Win
  · have idle : ¬state.moto.cycleAccepted := fun accepted => refused ⟨other, accepted⟩
    rw [if_pos other, Moto.State.motoCycle_refused idle, if_neg Bool.false_ne_true]
    exact ⟨Iff.rfl, iff_of_false (not_endWaits_of_top_ne other) (not_endWaits_of_top_ne other)⟩
  · rw [if_neg other]
    exact ⟨Iff.rfl, Iff.rfl⟩

/-- A backwash begins out of a rest in which no end waits. -/
structure Begins (before after : State) : Prop where
  rested : before.moto.Idle
  ended : ¬before.EndWaits
  running : ¬after.moto.Idle
  fresh : ¬after.EndWaits

theorem lcdtoBackwash_begins (starts : state.Starts) : Begins state state.lcdtoBackwash := by
  obtain ⟨other, accepted⟩ := starts
  refine ⟨accepted.2.2, not_endWaits_of_top_ne other, ?_, ?_⟩
  · rw [lcdtoBackwash, if_pos other, Moto.State.motoCycle_accepted accepted, if_pos rfl, guiWinAdd_idle]
    rw [Moto.State.Idle, Moto.State.startCycle_workFlag]
    decide
  · rw [lcdtoBackwash, if_pos other, Moto.State.motoCycle_accepted accepted, if_pos rfl]
    rw [guiWinAdd_endWaits]
    exact fun both => other both.1.1

/-- What the callers of `LcdtoBackwash` do before it does not matter. -/
theorem request_leaves {asked : State} (sameMoto : asked.moto = state.moto)
    (sameWindows : asked.winManage = state.winManage) (refused : ¬state.Starts) :
    Leaves state asked.lcdtoBackwash state.EndWaits := by
  have starts : asked.Starts ↔ state.Starts := by rw [Starts, guiGetTopWin, sameMoto, sameWindows]; rfl
  have waits : asked.EndWaits ↔ state.EndWaits := by rw [EndWaits, guiGetTopWin, sameMoto, sameWindows]; rfl
  have kept := lcdtoBackwash_leaves (mt starts.mp refused)
  exact ⟨kept.idle.trans (by rw [sameMoto]), kept.endWaits.trans waits⟩

theorem request_begins {asked : State} (sameMoto : asked.moto = state.moto)
    (sameWindows : asked.winManage = state.winManage) (starts : state.Starts) :
    Begins state asked.lcdtoBackwash := by
  have also : asked.Starts ↔ state.Starts := by rw [Starts, guiGetTopWin, sameMoto, sameWindows]; rfl
  have begun := lcdtoBackwash_begins (also.mpr starts)
  exact ⟨starts.2.2.2, not_endWaits_of_top_ne starts.1, begun.running, begun.fresh⟩

theorem receiveJumpEvent_empty : state.receiveJumpEvent.moto.jumpEvent = ∅ := by
  rw [receiveJumpEvent]
  split
  case h_5 =>
    rw [guiWinDeleteTop]
    split
    · rfl
    · rename_i window _
      cases window <;> rfl
  all_goals rfl

theorem userMain3InputFun_leaves_none : Leaves state state.userMain3InputFun False := by
  have idle : state.receiveJumpEvent.moto.Idle ↔ state.moto.Idle := by
    rw [Moto.State.Idle, receiveJumpEvent_frame.1, Moto.State.Idle]
  have empty := @receiveJumpEvent_empty state
  rw [userMain3InputFun, leaves_tryTake]
  generalize state.receiveJumpEvent = received at idle empty ⊢
  split
  · refine leaves_none ?_ (not_endWaits_of_top_ne home_top_ne)
    exact (guiWinAdd_idle userMain1Win).trans idle
  · rw [leaves_tryTake, leaves_tryTake, leaves_tryTake]
    exact leaves_none idle (not_endWaits_of_empty empty)

theorem reminderAsked_leaves (top : state.guiGetTopWin = some .userMain25Win) :
    Leaves state state.reminderAsked False := by
  have other : state.guiGetTopWin ≠ some .userMain3Win := by simp [top]
  rw [reminderAsked]
  split
  · exact leaves_none guiWinDeleteTop_idle (guiWinDeleteTop_not_endWaits other)
  · exact leaves_none Iff.rfl (not_endWaits_of_top_ne other)

theorem Leaves.kept {before : State} {takes : Prop} (leaves : Leaves before state before.EndWaits)
    (keeps : ¬takes) : Leaves before state (before.EndWaits ∧ ¬takes) :=
  ⟨leaves.idle, leaves.endWaits.trans (and_iff_left keeps).symm⟩

theorem Leaves.taken {before : State} {takes : Prop} (leaves : Leaves before state False)
    (taken : before.EndWaits → takes) : Leaves before state (before.EndWaits ∧ ¬takes) :=
  ⟨leaves.idle, leaves.endWaits.trans (iff_of_false id fun both => both.2 (taken both.1))⟩

theorem guiWinAdd_leaves (window : Window) :
    Leaves state (state.guiWinAdd window)
      (state.EndWaits ∧ ¬state.winManage.winStack.length < guiWinManageNum) :=
  ⟨guiWinAdd_idle window, guiWinAdd_endWaits window⟩

theorem userMain25InputFun_leaves (top : state.guiGetTopWin = some .userMain25Win)
    (silent : ¬(state.clicked .enter = true ∧ state.StartsFromReminder)) :
    Leaves state state.userMain25InputFun False := by
  have asked := reminderAsked_leaves top
  rw [userMain25InputFun_eq, leaves_tryTake, reminderAsked_enter]
  split
  · rename_i entered
    have refused : ¬state.reminderAsked.Starts :=
      fun starts => silent ⟨entered, (reminderAsked_starts top).mp starts⟩
    have kept := @request_leaves state.reminderAsked
      (((state.reminderAsked.tryTake .enter).call [.insertNotifyArray 0xff]).call [.count 9]) rfl rfl refused
    exact ⟨kept.idle.trans asked.idle, kept.endWaits.trans asked.endWaits⟩
  · exact (leaves_tryTake .enter).mpr asked

theorem winWifiInputCallback_leaves : Leaves state state.winWifiInputCallback state.EndWaits := by
  have kept (key : Key) : Leaves state (state.tryTake key) state.EndWaits := ⟨Iff.rfl, Iff.rfl⟩
  rw [winWifiInputCallback]
  split
  · exact kept .up
  split
  · exact kept .down
  split
  · exact kept .enter
  · exact kept .long

theorem guiWinDisplay_leaves (silent : state.startedBy .guiWinDisplay = []) :
    Leaves state state.guiWinDisplay False := by
  rw [guiWinDisplay]
  cases top : state.guiGetTopWin with
  | none => exact leaves_none Iff.rfl (not_endWaits_of_top_ne (by simp [top]))
  | some window =>
      cases window with
      | userMain3Win => exact userMain3InputFun_leaves_none
      | userMain25Win =>
          refine userMain25InputFun_leaves top fun both => ?_
          rw [startedBy, if_pos ⟨top, both⟩] at silent
          cases silent
      | winWifiConnect =>
          have none : ¬state.EndWaits := not_endWaits_of_top_ne (by simp [top])
          have kept := @winWifiInputCallback_leaves state
          exact leaves_none kept.idle (mt kept.endWaits.mp none)
      | menuWin number =>
          have none : ¬state.EndWaits := not_endWaits_of_top_ne (by simp [top])
          exact leaves_none Iff.rfl none

theorem menuCall_leaves {made : MenuCall} (silent : state.startedBy (.menu made) = []) :
    Leaves state (state.menuCall made) state.EndWaits := by
  rw [menuCall]
  split
  · rename_i number top
    have other : state.guiGetTopWin ≠ some .userMain3Win := by simp [top]
    have none := not_endWaits_of_top_ne other
    cases made with
    | guiWinAdd added =>
        have covered := @guiWinAdd_leaves state (.menuWin added)
        exact ⟨covered.idle, iff_of_false (fun waits => none (covered.endWaits.mp waits).1) none⟩
    | guiWinReload => exact ⟨Iff.rfl, Iff.rfl⟩
    | guiWinDeleteTop =>
        exact ⟨guiWinDeleteTop_idle, iff_of_false (guiWinDeleteTop_not_endWaits other) none⟩
    | lcdtoBackwash =>
        simp only [startedBy, top, startReport_eq_nil] at silent
        exact @request_leaves state (state.call [.count 8]) rfl rfl silent
  · exact ⟨Iff.rfl, Iff.rfl⟩

theorem refreshDisplay_leaves : Leaves state state.refreshDisplay False := by
  rw [refreshDisplay]
  cases top : state.guiGetTopWin with
  | none => exact leaves_none Iff.rfl (not_endWaits_of_top_ne (by simp [top]))
  | some window =>
      refine leaves_none ?_ (windowFunction_not_endWaits top)
      change (state.windowFunction window).moto.Idle ↔ state.moto.Idle
      rw [Moto.State.Idle, (windowFunction_frame window).1, Moto.State.Idle]

theorem step_leaves {event : Event} (display : ∀ made hardware, event ≠ .moto made hardware)
    (silent : state.startedBy event = []) :
    Leaves state (step state event) (state.EndWaits ∧ ¬state.TakesEnd event) := by
  cases event with
  | moto made hardware => exact absurd rfl (display made hardware)
  | syrMotoSet => exact (lcdtoBackwash_leaves (startReport_eq_nil.mp silent)).kept id
  | deltaRelease =>
      have refused : ¬state.Starts := startReport_eq_nil.mp silent
      exact (@request_leaves state (state.call [.count 10]) rfl rfl refused).kept id
  | rtcAutomatic =>
      have refused : ¬state.Starts := startReport_eq_nil.mp silent
      exact (@request_leaves state ({ state with screenReload := false }.call [.count 9]) rfl rfl
        refused).kept id
  | rtcReminder =>
      rw [step, lcdtoReminder]
      split
      · have covered := @guiWinAdd_leaves { state with screenReload := false } .userMain25Win
        exact ⟨covered.idle, covered.endWaits⟩
      · rename_i reminded
        have top : state.guiGetTopWin = some .userMain25Win := not_not.mp reminded
        have none : ¬state.EndWaits := not_endWaits_of_top_ne (by simp [top])
        exact ⟨Iff.rfl, iff_of_false none fun both => none both.1⟩
  | refreshDisplay => exact refreshDisplay_leaves.taken fun _ => trivial
  | lcdRefresh =>
      rw [step, lcdRefreshFromSleep]
      split
      · rename_i reloads
        have home : Leaves state (state.guiWinInit.guiWinAdd userMain1Win) False :=
          leaves_none (guiWinAdd_idle userMain1Win) (not_endWaits_of_top_ne home_top_ne)
        exact home.taken fun _ => reloads
      · rename_i kept
        exact Leaves.kept ⟨Iff.rfl, Iff.rfl⟩ kept
  | wifiConnectWinAdd =>
      rw [step, wifiConnectWinAdd]
      split
      · exact guiWinAdd_leaves .winWifiConnect
      · rename_i connecting
        have none : ¬state.EndWaits := not_endWaits_of_top_ne fun top => connecting (by simp [top])
        exact (leaves_none Iff.rfl none).taken fun waits => absurd waits none
  | wifiConnectWinDel =>
      rw [step, wifiConnectWinDel]
      split
      · rename_i top
        have other : state.guiGetTopWin ≠ some .userMain3Win := by simp [top]
        have closed := leaves_none (@guiWinDeleteTop_idle state) (guiWinDeleteTop_not_endWaits other)
        exact closed.taken fun waits => absurd waits (not_endWaits_of_top_ne other)
      · exact Leaves.kept ⟨Iff.rfl, Iff.rfl⟩ id
  | press key => exact Leaves.kept ⟨Iff.rfl, Iff.rfl⟩ id
  | doneJumpExpires =>
      rw [step]
      split <;> exact Leaves.kept ⟨Iff.rfl, Iff.rfl⟩ id
  | guiWinDisplay => exact (guiWinDisplay_leaves silent).taken fun _ => trivial
  | menu made => exact (menuCall_leaves silent).kept id

theorem startReport_of_ne_nil (starts : state.startReport ≠ []) :
    state.Starts ∧ state.startReport = [1] := by
  have begins : state.Starts := not_not.mp (mt startReport_eq_nil.mpr starts)
  exact ⟨begins, if_pos begins⟩

theorem userMain25InputFun_begins (top : state.guiGetTopWin = some .userMain25Win)
    (entered : state.clicked .enter = true) (starts : state.StartsFromReminder) :
    Begins state state.userMain25InputFun := by
  have begun : Begins state.reminderAsked
      ((state.reminderAsked.tryTake .enter).call [.insertNotifyArray 0xff]).jumptoAutomatic :=
    request_begins rfl rfl ((reminderAsked_starts top).mpr starts)
  rw [userMain25InputFun_eq, reminderAsked_enter, if_pos entered]
  exact ⟨(reminderAsked_leaves top).idle.mp begun.rested, not_endWaits_of_top_ne (by simp [top]),
    begun.running, begun.fresh⟩

theorem step_begins {event : Event} (starts : state.startedBy event ≠ []) :
    Begins state (step state event) ∧ state.startedBy event = [1] ∧ state.endedBy event = [] := by
  cases event with
  | syrMotoSet =>
      obtain ⟨begins, report⟩ := startReport_of_ne_nil starts
      exact ⟨lcdtoBackwash_begins begins, report, rfl⟩
  | deltaRelease =>
      obtain ⟨begins, report⟩ := startReport_of_ne_nil starts
      exact ⟨@request_begins state (state.call [.count 10]) rfl rfl begins, report, rfl⟩
  | rtcAutomatic =>
      obtain ⟨begins, report⟩ := startReport_of_ne_nil starts
      have begun : Begins state ({ state with screenReload := false }.call [.count 9]).lcdtoBackwash :=
        request_begins rfl rfl begins
      exact ⟨begun, report, rfl⟩
  | menu made =>
      cases made with
      | lcdtoBackwash =>
          rw [startedBy] at starts ⊢
          split at starts
          · rename_i number top
            obtain ⟨begins, report⟩ := startReport_of_ne_nil starts
            rw [step, menuCall, top]
            exact ⟨@request_begins state (state.call [.count 8]) rfl rfl begins, report, rfl⟩
          · exact absurd rfl starts
      | _ => exact absurd rfl starts
  | guiWinDisplay =>
      rw [startedBy] at starts ⊢
      split at starts
      · rename_i asked
        obtain ⟨top, entered, begins⟩ := asked
        have begun := userMain25InputFun_begins top entered begins
        rw [step, guiWinDisplay, top, if_pos ⟨rfl, entered, begins⟩, endedBy, top]
        exact ⟨begun, rfl, rfl⟩
      · exact absurd rfl starts
  | _ => exact absurd rfl starts

/-! ## The motor -/

theorem recognised_ends {pending : Finset JumpEvent} {bit : JumpEvent} (ends : Ends bit) :
    (∃ seen, Ends seen ∧ recognised (eventSend pending bit) = some seen) ↔ pending ⊆ {bit} := by
  rw [← recognised_eventSend ends.1]
  constructor
  · rintro ⟨seen, terminal, found⟩
    exact ⟨seen, terminal.1, found⟩
  · rintro ⟨seen, _, found⟩
    have only := recognised_eq_some.mp found
    have same : bit = seen := by
      rw [← Finset.mem_singleton, ← only]
      exact Finset.mem_insert_self bit pending
    exact ⟨seen, same ▸ ends, found⟩

/-- An end is outstanding exactly while one is due, and what waits waits for a motor at rest. -/
structure Settled (state : State) (outstanding : Prop) : Prop where
  due : outstanding ↔ state.EndDue
  rests : state.EndWaits → state.moto.Idle

theorem Settled.congr {after : State} {outstanding : Prop} (settled : state.Settled outstanding)
    (idle : after.moto.Idle ↔ state.moto.Idle) (waits : after.EndWaits ↔ state.EndWaits) :
    after.Settled outstanding := by
  refine ⟨settled.due.trans ?_, fun waiting => idle.mpr (settled.rests (waits.mp waiting))⟩
  rw [EndDue, EndDue, idle, waits]

theorem silent_settled_iff {outstanding : Prop} (settled : state.Settled outstanding)
    {event : Moto.Event} (hardware : event ≠ .cycle) (posted : state.moto.posts event = none) :
    (step state (.moto event hardware)).Settled outstanding ↔
      (event = .cycleExpires → state.moto.cycleTimer.active = true → ¬state.moto.Idle) := by
  have bits := Moto.step_jumpEvent state.moto event
  rw [posted, Option.elim_none] at bits
  have waits : (step state (.moto event hardware)).EndWaits ↔ state.EndWaits := by
    simp only [EndWaits, step, guiGetTopWin, bits]
  by_cases expires : event = .cycleExpires ∧ state.moto.cycleTimer.active = true
  · obtain ⟨rfl, active⟩ := expires
    have running := Moto.cycleExpires_running active
    constructor
    · intro after _ _ idle
      rcases settled.due.mp (after.due.mpr (.inl running)) with unrest | waiting
      · exact unrest idle
      · exact running (after.rests (waits.mpr waiting))
    · intro runs
      have unrest := runs rfl active
      refine ⟨settled.due.trans (iff_of_true (.inl unrest) (.inl running)), fun waiting => ?_⟩
      exact absurd (settled.rests (waits.mp waiting)) unrest
  · have idle := Moto.idle_of_posts_none hardware posted fun same =>
      Bool.eq_false_iff.mpr fun active => expires ⟨same, active⟩
    exact iff_of_true (settled.congr idle waits) fun same active => absurd ⟨same, active⟩ expires

theorem moto_settled_iff {outstanding : Prop} (settled : state.Settled outstanding)
    {event : Moto.Event} (hardware : event ≠ .cycle) :
    (step state (.moto event hardware)).Settled outstanding ↔
      state.ReportsEnd (.moto event hardware) := by
  have bits := Moto.step_jumpEvent state.moto event
  cases posted : state.moto.posts event with
  | none =>
      have silent : ∀ bit, state.moto.posts event = some bit → bit ≠ .back →
          (state.EndDue ↔ state.guiGetTopWin = some .userMain3Win ∧ state.moto.jumpEvent ⊆ {bit}) := by
        intro bit other
        rw [posted] at other
        cases other
      rw [ReportsEnd, and_iff_left silent]
      exact silent_settled_iff settled hardware posted
  | some bit =>
      have timely : event = .cycleExpires → state.moto.cycleTimer.active = true → ¬state.moto.Idle := by
        rintro rfl
        cases posted
      rw [posted, Option.elim_some] at bits
      rw [ReportsEnd, and_iff_right timely]
      by_cases back : bit = .back
      · subst back
        obtain ⟨before, after⟩ := Moto.running_of_posts_back posted
        have none : ¬(step state (.moto event hardware)).EndWaits := by
          rintro ⟨_, seen, ends, found⟩
          have only := recognised_eq_some.mp found
          have same : JumpEvent.back = seen := by
            rw [← Finset.mem_singleton, ← only, step, bits]
            exact Finset.mem_insert_self _ _
          exact ends.1 same.symm
        refine iff_of_true ⟨settled.due.trans (iff_of_true (.inl before) (.inl after)), fun waits =>
          absurd waits none⟩ ?_
        intro bit same terminal
        rw [posted, Option.some.injEq] at same
        exact absurd same.symm terminal
      · have ends : Ends bit := ⟨back, fun exit => Moto.posts_ne_exit hardware (exit ▸ posted)⟩
        have rests := @Moto.step_restsAsPosted state.moto event hardware
        rw [posted] at rests
        have idle : (step state (.moto event hardware)).moto.Idle := Moto.restsAsPosted_terminal back rests
        have waits : (step state (.moto event hardware)).EndWaits ↔
            state.guiGetTopWin = some .userMain3Win ∧ state.moto.jumpEvent ⊆ {bit} := by
          rw [← recognised_ends ends, EndWaits, step, bits]
          rfl
        have due : (step state (.moto event hardware)).EndDue ↔
            state.guiGetTopWin = some .userMain3Win ∧ state.moto.jumpEvent ⊆ {bit} :=
          (or_iff_right (not_not_intro idle)).trans waits
        constructor
        · intro after seen same _
          rw [posted, Option.some.injEq] at same
          rw [← same, ← due]
          exact settled.due.symm.trans after.due
        · intro alone
          exact ⟨settled.due.trans ((alone bit posted back).trans due.symm), fun _ => idle⟩

/-- A step of the display that starts nothing and is no poll. -/
theorem display_settled_iff {outstanding : Prop} (settled : state.Settled outstanding) {event : Event}
    (leaves : Leaves state (step state event) (state.EndWaits ∧ ¬state.TakesEnd event)) :
    (step state event).Settled outstanding ↔ (state.TakesEnd event → ¬state.EndWaits) := by
  constructor
  · intro after takes waits
    have idle := settled.rests waits
    rcases after.due.mp (settled.due.mpr (.inr waits)) with running | waiting
    · exact running (leaves.idle.mpr idle)
    · exact (leaves.endWaits.mp waiting).2 takes
  · intro kept
    refine settled.congr leaves.idle (leaves.endWaits.trans ?_)
    exact ⟨fun both => both.1, fun waits => ⟨waits, fun takes => kept takes waits⟩⟩

end State

/-! ## Whole runs -/

namespace System

variable {system : System}

/-- The reports alternate, and an end is outstanding exactly while one is due. -/
structure Accounted (system : System) : Prop where
  alternates : Alternates system.uploads
  settled : system.display.Settled (system.uploads.length % 2 = 1)

def ReportsEnd (system : System) : System.Event → Prop
  | .display event => system.display.ReportsEnd event
  | .counterWindow _ => True

theorem accounted_of_unreported {event : Display.Event} (accounted : system.Accounted)
    (uploads : (system.step (.display event)).uploads = system.uploads) :
    (system.step (.display event)).Accounted ↔
      (Display.step system.display event).Settled (system.uploads.length % 2 = 1) := by
  constructor
  · intro after
    rw [← uploads]
    exact after.settled
  · intro settled
    refine ⟨?_, ?_⟩
    · rw [uploads]
      exact accounted.alternates
    · rw [uploads]
      exact settled

theorem uploads_of_silent {event : Display.Event} (silent : system.display.startedBy event = [])
    (endless : system.display.endedBy event = []) :
    (system.step (.display event)).uploads = system.uploads := by
  rw [step_uploads, silent, endless, List.append_nil, List.append_nil]

theorem accounted_of_begins {event : Display.Event} (accounted : system.Accounted)
    (begins : State.Begins system.display (Display.step system.display event))
    (uploads : (system.step (.display event)).uploads = system.uploads ++ [1]) :
    (system.step (.display event)).Accounted := by
  have even : ¬system.uploads.length % 2 = 1 := by
    intro odd
    rcases accounted.settled.due.mp odd with running | waits
    · exact running begins.rested
    · exact begins.ended waits
  have zero : system.uploads.length % 2 = 0 := by omega
  refine ⟨?_, ⟨?_, fun waits => absurd waits begins.fresh⟩⟩
  · rw [uploads, alternates_snoc, if_pos zero]
    exact ⟨accounted.alternates, rfl⟩
  · rw [uploads, List.length_append, List.length_singleton]
    exact iff_of_true (by omega) (.inl begins.running)

theorem accounted_of_poll (accounted : system.Accounted)
    (silent : system.display.startedBy .guiWinDisplay = []) :
    (system.step (.display .guiWinDisplay)).Accounted := by
  have leaves := State.guiWinDisplay_leaves silent
  have uploads := system.step_uploads .guiWinDisplay
  rw [silent, List.nil_append, State.endedBy] at uploads
  by_cases waits : system.display.EndWaits
  · have odd := accounted.settled.due.mpr (.inr waits)
    have idle := accounted.settled.rests waits
    rw [if_pos waits.1, State.endReport_of_endWaits waits] at uploads
    refine ⟨?_, ⟨?_, fun waiting => (leaves.endWaits.mp waiting).elim⟩⟩
    · rw [uploads, alternates_snoc, if_neg (by omega)]
      exact ⟨accounted.alternates, rfl⟩
    · rw [uploads, List.length_append, List.length_singleton]
      refine iff_of_false (by omega) ?_
      rintro (running | waiting)
      · exact running (leaves.idle.mpr idle)
      · exact leaves.endWaits.mp waiting
  · have silence : (if system.display.guiGetTopWin = some .userMain3Win then
        system.display.endReport else []) = [] := by
      split
      · rename_i top
        exact State.endReport_of_not_endWaits top waits
      · rfl
    rw [silence, List.append_nil] at uploads
    rw [accounted_of_unreported accounted uploads]
    exact accounted.settled.congr leaves.idle (leaves.endWaits.trans (iff_of_false id waits))

theorem step_accounted_iff (accounted : system.Accounted) (event : System.Event) :
    (system.step event).Accounted ↔ system.ReportsEnd event := by
  cases event with
  | counterWindow window => exact iff_of_true ⟨accounted.alternates, accounted.settled⟩ trivial
  | display event =>
      by_cases silent : system.display.startedBy event = []
      · cases event with
        | moto made hardware =>
            exact (accounted_of_unreported accounted (uploads_of_silent silent rfl)).trans
              (State.moto_settled_iff accounted.settled hardware)
        | guiWinDisplay => exact iff_of_true (accounted_of_poll accounted silent) trivial
        | _ =>
            exact (accounted_of_unreported accounted (uploads_of_silent silent rfl)).trans
              (State.display_settled_iff accounted.settled (State.step_leaves nofun silent))
      · obtain ⟨begins, started, ended⟩ := State.step_begins silent
        have uploads := system.step_uploads event
        rw [started, ended, List.append_nil] at uploads
        refine iff_of_true (accounted_of_begins accounted begins uploads) ?_
        cases event with
        | moto made hardware => exact absurd rfl silent
        | guiWinDisplay => exact trivial
        | _ => exact fun _ => begins.ended

theorem boot_accounted (left right : Bool) (inputs : Moto.Inputs) (device : Device) :
    (boot left right inputs device).Accounted := by
  have none : ¬(boot left right inputs device).display.EndWaits :=
    State.not_endWaits_of_top_ne (by decide : some userMain1Win ≠ some .userMain3Win)
  refine ⟨alternates_nil, ⟨iff_of_false (by decide : ¬([] : List Nat).length % 2 = 1) ?_,
    fun waits => absurd waits none⟩⟩
  rintro (running | waits)
  · refine running (.inr ?_)
    cases left <;> rfl
  · exact none waits

/-- In every run, the reports alternate and an end is outstanding exactly while
one is due, if and only if each step reports its end. -/
theorem accounted_iff_steps_report_end (left right : Bool) (inputs : Moto.Inputs) (device : Device)
    (events : List System.Event) :
    Throughout step Accounted (boot left right inputs device) events ↔
      EachStep step ReportsEnd (boot left right inputs device) events := by
  refine throughout_iff_eachStep (fun _ => True) trivial (boot_accounted left right inputs device) ?_ ?_
  · exact fun _ _ _ _ _ => trivial
  · exact fun _ event _ accounted => step_accounted_iff accounted event

instance (system : System) (event : System.Event) : Decidable (system.ReportsEnd event) :=
  match event with
  | .display event => inferInstanceAs (Decidable (system.display.ReportsEnd event))
  | .counterWindow _ => isTrue trivial

/-- Whoever asks for the backwashes, and whatever happens on the screen, the
reports alternate as long as each step reports its end. -/
theorem backwash_reports_alternate (left right : Bool) (inputs : Moto.Inputs) (device : Device)
    (events : List System.Event)
    (reporting : EachStep step ReportsEnd (boot left right inputs device) events) :
    Throughout step (fun system => Alternates system.uploads) (boot left right inputs device)
      events := by
  have accounted := (accounted_iff_steps_report_end left right inputs device events).mpr reporting
  exact fun count => (accounted count).alternates

/-- A backwash up to the bit that says that it is finished. -/
def wholeBackwash : List System.Event :=
  [.display .syrMotoSet, .display (.moto (.leftLevel true) nofun),
    .display (.moto (.rightLevel false) nofun), .display .guiWinDisplay,
    .display (.moto .cycleExpires nofun), .display (.moto (.rightLevel true) nofun),
    .display (.moto (.leftLevel false) nofun)]

def newDevice : System :=
  boot false true ⟨0, 30, 100, 0, 0⟩ (Storage.flashInit Storage.emptyStore Storage.blankRam)

/-- A backwash whose end is polled. -/
theorem polled_backwash_alternates :
    EachStep step ReportsEnd newDevice (wholeBackwash ++ [.display .guiWinDisplay]) ∧
      Throughout step (fun system => Alternates system.uploads) newDevice
        (wholeBackwash ++ [.display .guiWinDisplay]) := by
  have reporting : EachStep step ReportsEnd newDevice
      (wholeBackwash ++ [.display .guiWinDisplay]) := by decide +kernel
  exact ⟨reporting, backwash_reports_alternate _ _ _ _ _ reporting⟩

/-- The connection window comes between the end of a backwash and the poll, and
the next backwash is reported as started with the last one still running. -/
theorem covered_end_unreported :
    ¬Throughout step (fun system => Alternates system.uploads) newDevice
      (wholeBackwash ++ [.display .wifiConnectWinAdd, .display .syrMotoSet]) := by
  intro holds
  have reported : (run step newDevice
      (wholeBackwash ++ [.display .wifiConnectWinAdd, .display .syrMotoSet])).uploads = [1, 1] := by
    decide +kernel
  have second := holds.last 1 1 (by rw [reported]; rfl)
  exact absurd second (by decide)

end System

end SyrFilter.Display
