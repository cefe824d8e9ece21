import SyrFilter.Display.Stops
import SyrFilter.Storage.Reset

namespace SyrFilter.Display

open SyrFilter.Lib
open SyrFilter.Storage (Op Device)

/-! # Counted backwashes

The counters go up where a backwash is asked for, before `LcdtoBackwash` and
`Moto_Cycle` decide on it; a request from the network goes to `LcdtoBackwash`
without any.  One whose `Moto_Cycle` does not return stays counted.  Two of the
windows that show a counter cut it as well.
-/

/-- `Counter_Manual`, `Counter_Automatic` and `Counter_Deltapress`. -/
structure Counters where
  manual : UInt32
  automatic : UInt32
  delta : UInt32
deriving DecidableEq, Repr

namespace Counters

def ofDevice (device : Device) : Counters where
  manual := device.ram.settings.counterManual
  automatic := device.ram.settings.counterAutomatic
  delta := device.ram.settings.counterDeltapress

variable (counters : Counters)

/-- In the counters' own arithmetic. -/
def total : UInt32 := counters.manual + counters.automatic + counters.delta

/-- The counters with exactly one of them one higher. -/
def OneUp (after : Counters) : Prop :=
  after = { counters with manual := counters.manual + 1 } ∨
    after = { counters with automatic := counters.automatic + 1 } ∨
      after = { counters with delta := counters.delta + 1 }

instance (after : Counters) : Decidable (counters.OneUp after) :=
  inferInstanceAs (Decidable (_ ∨ _ ∨ _))

variable {counters} {after : Counters}

theorem OneUp.total_eq (up : counters.OneUp after) : after.total = counters.total + 1 := by
  rcases up with rfl | rfl | rfl
  · simp only [total]
    ac_rfl
  · simp only [total]
    ac_rfl
  · simp only [total]
    ac_rfl

theorem add_one_ne (count : UInt32) : count + 1 ≠ count := by
  intro same
  have zero : (1 : UInt32) = 0 := by
    rwa [UInt32.add_eq_left] at same
  exact absurd zero (by decide)

theorem OneUp.ne (up : counters.OneUp after) : after ≠ counters := by
  intro same
  rcases up with up | up | up
  · exact add_one_ne _ (congrArg manual (up.symm.trans same))
  · exact add_one_ne _ (congrArg automatic (up.symm.trans same))
  · exact add_one_ne _ (congrArg delta (up.symm.trans same))

theorem ofDevice_moto (device : Device) (reachesCycle : Bool) :
    ofDevice (device.step (.moto reachesCycle)) = ofDevice device := by
  cases reachesCycle <;> rfl

/-- `RTC_Clear` leaves the counters alone. -/
theorem ofDevice_cleared {ops : List Op} (clears : ∀ op ∈ ops, op = .moto true) (device : Device) :
    ofDevice (run Device.step device ops) = ofDevice device := by
  induction ops generalizing device with
  | nil => rfl
  | cons op rest ih =>
      have first := clears op List.mem_cons_self
      have later : ∀ op ∈ rest, op = .moto true := fun op member => clears op (List.mem_cons_of_mem _ member)
      rw [run_cons, ih later, first, ofDevice_moto]

end Counters

namespace System

/-- The device, which stands still once `rt_timer_start` has failed in its assertion. -/
abbrev stepping : Halting System → System.Event → Halting System := Halting.next step stops

variable (machine : Halting System)

def counters (system : System) : Counters := .ofDevice system.device

/-- The `Moto_Cycle` calls that returned `RT_EOK`. -/
def accepted (system : System) : Nat := system.display.returned

/-- Since the start, the counters have gone up together by the accepted requests. -/
def Balanced (start : Counters) : Prop :=
  machine.state.counters.total = start.total + UInt32.ofNat machine.state.accepted

instance (start : Counters) : Decidable (Balanced machine start) :=
  inferInstanceAs (Decidable (_ = _))

/-- A step that starts a backwash lets one counter go up, and no other step
changes any of them. -/
def CountsBackwash (event : System.Event) : Prop :=
  if (stepping machine event).state.accepted = machine.state.accepted then
    (stepping machine event).state.counters = machine.state.counters
  else
    (stepping machine event).state.accepted = machine.state.accepted + 1 ∧
      machine.state.counters.OneUp (stepping machine event).state.counters

/-- The requests that are counted are accepted and come back, the others do not,
and no window cuts a counter. -/
def RequestsCounted (system : System) : System.Event → Prop
  | .display .syrMotoSet => ¬system.display.Accepts
  | .display .deltaRelease | .display .rtcAutomatic => system.display.Accepts
  | .display (.menu .lcdtoBackwash) =>
      (∃ number, system.display.guiGetTopWin = some (.menuWin number)) → system.display.Accepts
  | .display .guiWinDisplay =>
      system.display.guiGetTopWin = some .userMain25Win → system.display.clicked .enter = true →
        system.display.AcceptsFromReminder
  | .display _ => True
  | .counterWindow .automatic => system.counters.automatic ≤ 9999
  | .counterWindow .delta => system.counters.delta ≤ 9999

/-- A device that stands still counts nothing. -/
def RunningCounted (event : System.Event) : Prop := machine.halted = false → machine.state.RequestsCounted event

variable {machine} {system : System}

/-! ## What a step does -/

/-- The counters of a device whose display has gone on. -/
theorem follow_counters {display : State} {counted : List Op}
    (made : display.counted = system.display.counted ++ counted) :
    (system.follow display).counters = .ofDevice (run Device.step system.device counted) := by
  have clears : ∀ op ∈ display.cleared.drop system.display.cleared.length, op = .moto true := by
    intro op member
    obtain ⟨call, -, cleared⟩ := List.mem_filterMap.mp (List.mem_of_mem_drop member)
    cases call <;> simp_all [clearing]
  rw [counters, follow, State.opsSince, made, List.drop_left, run_append]
  exact Counters.ofDevice_cleared clears _

/-- The counters go up before it shows whether the request comes back. -/
theorem stepping_display (system : System) (event : Display.Event) :
    (stepping (.start system) (.display event)).state.counters =
        .ofDevice (run Device.step system.device (system.display.countedBy event)) ∧
      (stepping (.start system) (.display event)).state.accepted =
        system.accepted + system.display.returnedBy event := by
  cases stopped : system.display.stops event with
  | none =>
      have goes : system.stops (.display event) = none := by rw [stops, stopped, Option.map_none]
      have made := @step_makes system.display event
      rw [stepping, Halting.next_goes goes, State.returnedBy, if_pos stopped]
      exact ⟨follow_counters made.counted_eq, made.returned_eq⟩
  | some last =>
      have stuck : system.stops (.display event) = some (system.follow last) := by
        rw [stops, stopped, Option.map_some]
      have leaves := stops_leaves stopped
      have never : ¬system.display.stops event = none := by rw [stopped]; exact Option.some_ne_none last
      rw [stepping, Halting.next_stops stuck, State.returnedBy, if_neg never]
      exact ⟨follow_counters leaves.counted_eq, leaves.returned_eq⟩

theorem counts_of_uncounted {event : Display.Event} (none : system.display.countedBy event = []) :
    CountsBackwash (.start system) (.display event) ↔ system.display.returnedBy event = 0 := by
  obtain ⟨counters, accepted⟩ := stepping_display system event
  have same : (stepping (.start system) (.display event)).state.counters = system.counters := by
    rw [counters, none]
    rfl
  rw [CountsBackwash, accepted]
  split
  · rename_i silent
    exact iff_of_true same (Nat.left_eq_add.mp silent.symm)
  · rename_i returned
    exact iff_of_false (fun counts => counts.2.ne same) fun none => returned (by rw [none]; rfl)

theorem counts_of_counted {event : Display.Event}
    (up : system.counters.OneUp (.ofDevice (run Device.step system.device (system.display.countedBy event)))) :
    CountsBackwash (.start system) (.display event) ↔ system.display.returnedBy event ≠ 0 := by
  obtain ⟨counters, accepted⟩ := stepping_display system event
  rw [← counters] at up
  rw [CountsBackwash, accepted]
  split
  · rename_i silent
    exact iff_of_false up.ne (not_not_intro (Nat.left_eq_add.mp silent.symm))
  · rename_i returned
    have some : system.display.returnedBy event ≠ 0 := fun none => returned (by rw [none]; rfl)
    refine iff_of_true ⟨?_, up⟩ some
    rw [(system.display.returnedBy_eq event).resolve_left some]
    rfl

theorem guiWinDisplay_counts_iff :
    CountsBackwash (.start system) (.display .guiWinDisplay) ↔ system.RequestsCounted (.display .guiWinDisplay) := by
  by_cases asked : system.display.guiGetTopWin = some .userMain25Win ∧ system.display.clicked .enter = true
  · obtain ⟨top, entered⟩ := asked
    have up : system.counters.OneUp
        (.ofDevice (run Device.step system.device (system.display.countedBy .guiWinDisplay))) := by
      simp only [State.countedBy, top, entered]
      exact .inr (.inl rfl)
    refine (counts_of_counted up).trans ((State.returnedBy_reminder top entered).trans ?_)
    exact ⟨fun accepts _ _ => accepts, fun accepts => accepts top entered⟩
  · refine iff_of_true ?_ fun top entered => absurd ⟨top, entered⟩ asked
    obtain ⟨counters, accepted⟩ := stepping_display system .guiWinDisplay
    have silent : system.display.startedBy .guiWinDisplay = [] := by
      rw [State.startedBy, if_neg fun starts => asked ⟨starts.1, starts.2.1⟩]
    have same : Counters.ofDevice (run Device.step system.device (system.display.countedBy .guiWinDisplay)) =
        system.counters := by
      rw [State.countedBy]
      split
      · rw [State.errorCount]
        split <;> rfl
      · rename_i top
        rw [if_neg fun entered => asked ⟨top, entered⟩]
        rfl
      · rfl
    rw [CountsBackwash, accepted, counters, State.returnedBy_of_silent silent]
    exact (if_pos rfl).mpr same

theorem menu_counts_iff (made : MenuCall) :
    CountsBackwash (.start system) (.display (.menu made)) ↔ system.RequestsCounted (.display (.menu made)) := by
  cases made with
  | lcdtoBackwash =>
      by_cases menu : ∃ number, system.display.guiGetTopWin = some (.menuWin number)
      · obtain ⟨number, top⟩ := menu
        have up : system.counters.OneUp
            (.ofDevice (run Device.step system.device (system.display.countedBy (.menu .lcdtoBackwash)))) := by
          simp only [State.countedBy, top]
          exact .inl rfl
        refine (counts_of_counted up).trans ((State.returnedBy_menu top).trans ?_)
        exact ⟨fun accepts _ => accepts, fun accepts => accepts ⟨number, top⟩⟩
      · have quiet : system.display.startedBy (.menu .lcdtoBackwash) = [] ∧
            system.display.countedBy (.menu .lcdtoBackwash) = [] := by
          rw [State.startedBy, State.countedBy]
          split
          · rename_i number top
            exact absurd ⟨number, top⟩ menu
          · exact ⟨rfl, rfl⟩
        have counts := (counts_of_uncounted quiet.2).mpr (State.returnedBy_of_silent quiet.1)
        exact iff_of_true counts fun asked => absurd asked menu
  | _ => exact iff_of_true ((counts_of_uncounted rfl).mpr (State.returnedBy_of_silent rfl)) trivial

/-- Cutting the counter a window shows changes it exactly when it has five digits. -/
theorem cut_same_iff {whole cut : Device} (shown : Counters → UInt32) (digits : shown (.ofDevice cut) = 9999) :
    Counters.ofDevice (if 9999 < shown (.ofDevice whole) then cut else whole) = .ofDevice whole ↔
      shown (.ofDevice whole) ≤ 9999 := by
  rw [← UInt32.not_lt]
  split
  · rename_i large
    refine iff_of_false (fun same => ?_) (not_not_intro large)
    rw [← congrArg shown same, digits] at large
    exact absurd large (by decide)
  · rename_i small
    exact iff_of_true rfl small

/-- A window leaves the counters alone as long as four digits hold the one it shows. -/
theorem winFun_counters_iff (window : CounterWindow) :
    (system.step (.counterWindow window)).counters = system.counters ↔
      system.RequestsCounted (.counterWindow window) := by
  cases window with
  | automatic => exact cut_same_iff Counters.automatic rfl
  | delta => exact cut_same_iff Counters.delta rfl

theorem running_counts_iff (event : System.Event) :
    CountsBackwash (.start system) event ↔ system.RequestsCounted event := by
  cases event with
  | counterWindow window =>
      have same : (stepping (.start system) (.counterWindow window)).state.accepted = system.accepted := rfl
      rw [CountsBackwash, same]
      exact (iff_of_eq (if_pos rfl)).trans (winFun_counters_iff window)
  | display event =>
      cases event with
      | syrMotoSet =>
          refine (counts_of_uncounted rfl).trans ?_
          rw [← not_not (a := system.display.returnedBy .syrMotoSet = 0)]
          exact not_congr State.returnedBy_syrMotoSet
      | deltaRelease => exact (counts_of_counted (.inr (.inr rfl))).trans State.returnedBy_deltaRelease
      | rtcAutomatic => exact (counts_of_counted (.inr (.inl rfl))).trans State.returnedBy_rtcAutomatic
      | guiWinDisplay => exact guiWinDisplay_counts_iff
      | menu made => exact menu_counts_iff made
      | _ => exact iff_of_true ((counts_of_uncounted rfl).mpr (State.returnedBy_of_silent rfl)) trivial

theorem step_counts_iff (event : System.Event) : CountsBackwash machine event ↔ RunningCounted machine event := by
  rcases machine with ⟨system, halted⟩
  cases halted with
  | false => exact (running_counts_iff event).trans ⟨fun counted _ => counted, fun counted => counted rfl⟩
  | true =>
      refine iff_of_true ?_ fun running => Bool.noConfusion running
      rw [CountsBackwash, stepping, Halting.next_of_halted rfl]
      exact (if_pos rfl).mpr rfl

theorem balanced_of_counts {start : Counters} {event : System.Event} (balanced : Balanced machine start)
    (counts : CountsBackwash machine event) : Balanced (stepping machine event) start := by
  rw [Balanced] at balanced ⊢
  rw [CountsBackwash] at counts
  split at counts
  · rename_i same
    rw [counts, same, balanced]
  · rw [counts.2.total_eq, counts.1, balanced, UInt32.ofNat_add, UInt32.add_assoc]
    rfl

/-! ## Whole runs -/

theorem boot_accepted (left right : Bool) (inputs : Moto.Inputs) (device : Device) :
    (boot left right inputs device).accepted = 0 := by
  have silent : (Moto.State.motoInit left right inputs).calls = [] := Moto.calls_motoRun .reset
  exact congrArg (List.count (Moto.Call.ledSelect 2)) silent

/-- From any counters and through any requests, the counters grow by the
accepted requests, each by one of them, exactly when every request that is
counted is accepted and comes back, every other one does not, and no window cuts
a counter. -/
theorem counters_count_backwashes_iff (left right : Bool) (inputs : Moto.Inputs) (device : Device)
    (events : List System.Event) :
    Throughout stepping (fun machine => Balanced machine (.ofDevice device))
          (.start (boot left right inputs device)) events ∧
        EachStep stepping CountsBackwash (.start (boot left right inputs device)) events ↔
      EachStep stepping RunningCounted (.start (boot left right inputs device)) events := by
  have initial : Balanced (.start (boot left right inputs device)) (.ofDevice device) := by
    rw [Balanced, Halting.start, boot_accepted]
    exact (UInt32.add_zero _).symm
  refine throughout_and_eachStep_iff (fun _ => True) trivial initial ?_ ?_
  · exact fun _ _ _ _ _ => trivial
  · intro machine event _ balanced
    rw [← step_counts_iff]
    exact ⟨fun holds => holds.2, fun counts => ⟨balanced_of_counts balanced counts, counts⟩⟩

/-- A new device with an empty battery. -/
def emptyBattery : System :=
  boot false true ⟨1, 30, 100, 0, 0⟩ (Storage.flashInit Storage.emptyStore Storage.blankRam)

/-- The differential pressure asks for a backwash; it is refused, and counted. -/
theorem refused_request_counted :
    ¬(Throughout stepping (fun machine => Balanced machine emptyBattery.counters) (.start emptyBattery)
          [.display .deltaRelease] ∧
        EachStep stepping CountsBackwash (.start emptyBattery) [.display .deltaRelease]) := by
  rintro ⟨balanced, -⟩
  have counted := balanced.last
  revert counted
  decide +kernel

end System

end SyrFilter.Display
