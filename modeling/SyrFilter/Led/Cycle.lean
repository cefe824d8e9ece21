import SyrFilter.Led.Select
import SyrFilter.Moto.Stops

namespace SyrFilter.Led

open SyrFilter.Lib

/-! # The green LED and the backwash

The motor together with the LEDs: while it runs a cycle the green LED is on,
whatever the windows, the cloud connection and the LED thread do to the LEDs
in between.  A sleep puts it out, and one that is not the deepest leaves it
without its pin.
-/

/-! ## The station -/

structure Station where
  moto : Moto.State
  lamps : Lamps

inductive StationEvent where
  | moto (event : Moto.Event) (now : UInt32)
  /-- The `led_select` calls of the windows: for an alarm, and when it is left. -/
  | alarm (now : UInt32)
  | alarmOver (now : UInt32)
  | wifiLed (type : Nat) (now : UInt32)
  /-- A round of the LED thread. -/
  | round (now : UInt32)
  /-- The switches are given as they stand on waking. -/
  | sleep (deep left right : Bool) (now : UInt32)

/-- The calls of `led_select` among those that the motor makes. -/
def Lamps.perform (lamps : Lamps) (now : UInt32) (calls : List Moto.Call) : Lamps :=
  calls.foldl
    (fun lamps call =>
      match call with
      | .ledSelect type => lamps.ledSelect type now
      | _ => lamps)
    lamps

/-- `Moto_Pin_DeInit`, and behind the deepest sleep `Moto_Pin_Init`: the bridge is off, and no
switch has called back. -/
def motoSlept (moto : Moto.State) (deep left right : Bool) : Moto.State :=
  { moto with in1 := false, in2 := false, left := deep && left, right := deep && right }

namespace Station

/-- The motor has gone on, and the LEDs follow its calls. -/
def follow (station : Station) (now : UInt32) (moto : Moto.State) : Station where
  moto
  lamps := station.lamps.perform now (moto.calls.drop station.moto.calls.length)

def step (station : Station) : StationEvent → Station
  | .moto event now => station.follow now (Moto.step station.moto event)
  | .alarm now => { station with lamps := station.lamps.ledSelect 1 now }
  | .alarmOver now => { station with lamps := station.lamps.ledSelect 0 now }
  | .wifiLed type now => { station with lamps := station.lamps.wifiLed type now }
  | .round now => { station with lamps := station.lamps.process now }
  | .sleep deep left right now =>
      { moto := motoSlept station.moto deep left right, lamps := station.lamps.sleep deep now }

def stops (station : Station) : StationEvent → Option Station
  | .moto event now => (Moto.stops station.moto event).map (station.follow now)
  | _ => none

/-- The station, which stands still once a timer of the motor has not started. -/
abbrev stepping : Halting Station → StationEvent → Halting Station := Halting.next step stops

/-- `Led_Init` and `Moto_Init`. -/
def init (lamps : Lamps) (left right : Bool) (inputs : Moto.Inputs) : Station where
  moto := Moto.State.motoInit left right inputs
  lamps

/-- The green LED is on exactly while a cycle runs. -/
def Truthful (station : Station) : Prop := station.lamps.greenLit = true ↔ station.moto.workFlag.InCycle

/-- The cycle timer runs out only while a cycle does, no sleep falls into one, and
one that is begun comes back, with the LED on its pin. -/
def KeepsTruthful (station : Station) : StationEvent → Prop
  | .moto .cycle _ =>
      station.moto.cycleAccepted →
        station.moto.Returns ∧ (station.lamps.leds.led .green).pin = pinOf .green
  | .moto .cycleExpires _ => station.moto.cycleTimer.active = true → station.moto.workFlag.InCycle
  | .sleep .. => ¬station.moto.workFlag.InCycle
  | _ => True

variable {station : Station} {event : StationEvent}

theorem greenLit_perform {lamps : Lamps} (wellFormed : lamps.WellFormed) (now : UInt32) (calls : List Moto.Call) :
    (lamps.perform now calls).WellFormed ∧
      (lamps.perform now calls).greenLit =
        calls.foldl
          (fun lit call =>
            if call = .ledSelect 2 then decide ((lamps.leds.led .green).pin = pinOf .green)
            else if call = .ledSelect 3 then false else lit)
          lamps.greenLit := by
  induction calls generalizing lamps with
  | nil => exact ⟨wellFormed, rfl⟩
  | cons call rest ih =>
      rw [Lamps.perform, List.foldl_cons, List.foldl_cons]
      cases call with
      | ledSelect type =>
          obtain ⟨selected, pin, green⟩ := wellFormed.ledSelect type now
          obtain ⟨kept, same⟩ := ih selected
          refine ⟨kept, same.trans ?_⟩
          rw [green, pin]
          simp only [Moto.Call.ledSelect.injEq]
      | rtcClear => exact ih wellFormed
      | screenTimerStop => exact ih wellFormed
      | screenTimerRefresh => exact ih wellFormed
      | eventUpload status => exact ih wellFormed
      | tdsWork => exact ih wellFormed

/-- What an event of the motor makes of the green LED. -/
theorem greenLit_moto (wellFormed : station.lamps.WellFormed) (event : Moto.Event) (now : UInt32) :
    (station.step (.moto event now)).lamps.WellFormed ∧
      (station.step (.moto event now)).lamps.greenLit =
        if .ledSelect 2 ∈ Moto.made station.moto event then
          decide ((station.lamps.leds.led .green).pin = pinOf .green)
        else if .ledSelect 3 ∈ Moto.made station.moto event then false
        else station.lamps.greenLit := by
  have drops : (Moto.step station.moto event).calls.drop station.moto.calls.length = Moto.made station.moto event := by
    rw [Moto.calls_step, List.drop_left]
  obtain ⟨kept, lit⟩ := greenLit_perform wellFormed now (Moto.made station.moto event)
  rw [step, follow]
  dsimp only
  rw [drops]
  refine ⟨kept, lit.trans ?_⟩
  cases event with
  | cycle =>
      rw [Moto.made]
      split <;> simp
  | leftLevel level =>
      rw [Moto.made]
      split <;> simp
  | rightLevel level =>
      rw [Moto.made]
      split <;> simp
  | detectExpires =>
      rw [Moto.made]
      split
      · split <;> simp
      · simp
  | currentExpires =>
      rw [Moto.made]
      split <;> simp
  | _ => simp [Moto.made]

/-- The phase that an event of the motor leaves. -/
theorem workFlag_moto (event : Moto.Event) (now : UInt32) :
    (station.step (.moto event now)).moto.workFlag = (Moto.driveAfter station.moto event).workFlag :=
  congrArg Moto.Drive.workFlag (Moto.step_drive station.moto event)

/-- Moving the lamps without the motor. -/
theorem Truthful.of_lit {lamps : Lamps} (truthful : station.Truthful) (same : lamps.greenLit = station.lamps.greenLit) :
    Truthful { station with lamps } := by
  rw [Truthful] at truthful
  rwa [Truthful, same]

theorem truthful_moto (wellFormed : station.lamps.WellFormed) (truthful : station.Truthful)
    (event : Moto.Event) (returns : event = .cycle → station.moto.cycleAccepted → station.moto.Returns) (now : UInt32) :
    (station.step (.moto event now)).Truthful ↔ station.KeepsTruthful (.moto event now) := by
  have lit := (greenLit_moto wellFormed event now).2
  have phase := @workFlag_moto station event now
  rw [Truthful] at truthful
  rw [Truthful, lit, phase]
  cases event with
  | cycle =>
      by_cases accepted : station.moto.cycleAccepted
      · have forward : (.forward : Moto.WorkFlag).InCycle := .inl rfl
        simp [Moto.made, Moto.driveAfter, accepted, KeepsTruthful, Moto.Drive.enter_workFlag, forward,
          returns rfl accepted]
      · simpa [Moto.made, Moto.driveAfter, accepted, KeepsTruthful] using truthful
  | leftLevel level =>
      rw [Moto.made, Moto.driveAfter]
      by_cases edge : (station.moto.left && !level) = true
      · rw [if_pos edge, Moto.Drive.leftReached]
        simp only [edge, true_and, Moto.State.drive_workFlag]
        cases flag : station.moto.workFlag with
        | back => simp [Moto.Drive.enter_workFlag, Moto.WorkFlag.InCycle, KeepsTruthful]
        | reset =>
            rw [flag] at truthful
            simpa [Moto.Drive.enter_workFlag, Moto.WorkFlag.InCycle, KeepsTruthful] using truthful
        | stop | forward | waitback =>
            rw [flag] at truthful
            simpa [flag, Moto.WorkFlag.InCycle, KeepsTruthful] using truthful
      · simpa [edge, KeepsTruthful] using truthful
  | rightLevel level =>
      rw [Moto.made, Moto.driveAfter]
      by_cases edge : (station.moto.right && !level) = true
      · rw [if_pos edge, Moto.Drive.rightReached]
        simp only [edge, true_and, Moto.State.drive_workFlag]
        cases flag : station.moto.workFlag with
        | forward =>
            rw [flag] at truthful
            simpa [Moto.Drive.enter_workFlag, Moto.WorkFlag.InCycle, KeepsTruthful] using truthful
        | stop | back | waitback | reset =>
            rw [flag] at truthful
            simpa [flag, Moto.WorkFlag.InCycle, KeepsTruthful] using truthful
      · simpa [edge, KeepsTruthful] using truthful
  | cycleExpires =>
      -- An expiry at rest starts the way back with the LED dark.
      cases armed : station.moto.cycleTimer.active with
      | true =>
          have back : (.back : Moto.WorkFlag).InCycle := .inr (.inr rfl)
          simpa [Moto.made, Moto.driveAfter, armed, KeepsTruthful, Moto.Drive.enter_workFlag, back] using truthful
      | false => simpa [Moto.made, Moto.driveAfter, armed, KeepsTruthful] using truthful
  | detectExpires =>
      rw [Moto.made, Moto.driveAfter]
      cases armed : station.moto.detectTimer.active with
      | false => simpa [KeepsTruthful] using truthful
      | true =>
          simp only [if_true, Moto.Drive.detected, Moto.State.drive_workFlag, Moto.State.drive_left,
            Moto.State.drive_right]
          cases flag : station.moto.workFlag with
          | forward =>
              rw [flag] at truthful
              by_cases right : station.moto.right = true
              · simp [right, Moto.Drive.enter_workFlag, Moto.WorkFlag.InCycle, KeepsTruthful]
              · simpa [flag, right, Moto.WorkFlag.InCycle, KeepsTruthful] using truthful
          | back =>
              rw [flag] at truthful
              by_cases left : station.moto.left = true
              · simp [left, Moto.Drive.enter_workFlag, Moto.WorkFlag.InCycle, KeepsTruthful]
              · simpa [flag, left, Moto.WorkFlag.InCycle, KeepsTruthful] using truthful
          | stop | waitback | reset =>
              rw [flag] at truthful
              simpa [flag, Moto.WorkFlag.InCycle, KeepsTruthful] using truthful
  | currentExpires =>
      by_cases stalled : station.moto.currentTimer.active = true ∧ 45 ≤ station.moto.inputs.motoCurrent
      · simp [Moto.made, Moto.driveAfter, stalled, KeepsTruthful, Moto.Drive.enter_workFlag, Moto.WorkFlag.InCycle]
      · simpa [Moto.made, Moto.driveAfter, stalled, KeepsTruthful] using truthful
  | overloadDelayExpires | adcWatchdog | pause | resume | inputsChange _ =>
      simpa [Moto.made, Moto.driveAfter, KeepsTruthful] using truthful

/-- A motor that stops has switched no LED. -/
theorem follow_stops {last : Moto.State} {event : Moto.Event} (stopped : Moto.stops station.moto event = some last)
    (now : UInt32) : (station.follow now last).lamps = station.lamps := by
  have made : last.calls.drop station.moto.calls.length = Moto.madeStopping event := by
    rw [Moto.calls_stops stopped, List.drop_left]
  rw [follow]
  dsimp only
  rw [made]
  cases event <;> rfl

/-- Only for a cycle that is begun does it matter whether the motor stops. -/
theorem truthful_stops (wellFormed : station.lamps.WellFormed) (truthful : station.Truthful) {last : Moto.State}
    {event : Moto.Event} (stopped : Moto.stops station.moto event = some last) (now : UInt32) :
    (station.follow now last).Truthful ↔ station.KeepsTruthful (.moto event now) := by
  have lamps := follow_stops stopped now
  have phase : (station.follow now last).moto.workFlag = (Moto.step station.moto event).workFlag :=
    Moto.workFlag_stops stopped
  cases event with
  | cycle =>
      have stuck : ¬(station.moto.cycleAccepted → station.moto.Returns) := by
        rw [← Moto.motoCycleStops_eq_none]
        exact Option.ne_none_iff_exists'.mpr ⟨last, stopped⟩
      obtain ⟨accepted, never⟩ := Classical.not_imp.mp stuck
      have begun : (Moto.step station.moto .cycle).workFlag = .forward := by
        rw [Moto.step, Moto.State.motoCycle_accepted accepted]
        exact Moto.State.startCycle_workFlag _
      have rested : ¬station.moto.workFlag.InCycle := by
        rcases accepted.2.2 with rest | reset
        · rw [rest]
          decide
        · rw [reset]
          decide
      refine iff_of_false (fun shows => rested ?_) fun keeps => never (keeps accepted).1
      rw [Truthful, lamps, phase, begun] at shows
      exact truthful.mp (shows.mpr (.inl rfl))
  | rightLevel level =>
      have lit := (greenLit_moto wellFormed (.rightLevel level) now).2
      refine Iff.trans ?_ (truthful_moto wellFormed truthful (.rightLevel level) (fun same => Moto.Event.noConfusion same) now)
      rw [Truthful, lamps, phase, Truthful, lit, Moto.made]
      split <;> simp [step, follow]
  | cycleExpires =>
      have lit := (greenLit_moto wellFormed .cycleExpires now).2
      refine Iff.trans ?_ (truthful_moto wellFormed truthful .cycleExpires (fun same => Moto.Event.noConfusion same) now)
      rw [Truthful, lamps, phase, Truthful, lit, Moto.made]
      simp [step, follow]
  | leftLevel _ | detectExpires | currentExpires | overloadDelayExpires | adcWatchdog | pause | resume
    | inputsChange _ => cases stopped

theorem wellFormed_step (wellFormed : station.lamps.WellFormed) (event : StationEvent) :
    (station.step event).lamps.WellFormed := by
  cases event with
  | moto event now => exact (greenLit_moto wellFormed event now).1
  | alarm now => exact (wellFormed.ledSelect 1 now).1
  | alarmOver now => exact (wellFormed.ledSelect 0 now).1
  | wifiLed type now => exact (wellFormed.wifiLed type now).wellFormed
  | round now => exact (wellFormed.process now).wellFormed
  | sleep deep left right now => exact (wellFormed.sleep deep now).1

theorem wellFormed_stops (wellFormed : station.lamps.WellFormed) {last : Station}
    (stopped : station.stops event = some last) : last.lamps.WellFormed := by
  cases event with
  | moto event now =>
      obtain ⟨moto, stuck, rfl⟩ := Option.map_eq_some_iff.mp stopped
      rwa [follow_stops stuck]
  | _ => cases stopped

theorem truthful_step (wellFormed : station.lamps.WellFormed) (truthful : station.Truthful)
    {event : StationEvent} (goes : station.stops event = none) :
    (station.step event).Truthful ↔ station.KeepsTruthful event := by
  cases event with
  | moto event now =>
      rw [stops, Option.map_eq_none_iff] at goes
      refine truthful_moto wellFormed truthful event ?_ now
      rintro rfl
      exact Moto.motoCycleStops_eq_none.mp goes
  | alarm now =>
      obtain ⟨-, -, green⟩ := wellFormed.ledSelect 1 now
      exact iff_of_true (truthful.of_lit green) trivial
  | alarmOver now =>
      obtain ⟨-, -, green⟩ := wellFormed.ledSelect 0 now
      exact iff_of_true (truthful.of_lit green) trivial
  | wifiLed type now => exact iff_of_true (truthful.of_lit (wellFormed.wifiLed type now).green) trivial
  | round now => exact iff_of_true (truthful.of_lit (wellFormed.process now).green) trivial
  | sleep deep left right now =>
      have dark := (wellFormed.sleep deep now).2
      have same : (station.step (.sleep deep left right now)).moto.workFlag = station.moto.workFlag := rfl
      have lamps : (station.step (.sleep deep left right now)).lamps = station.lamps.sleep deep now := rfl
      rw [Truthful, same, lamps, dark, KeepsTruthful]
      simp

/-- A station that stands still goes on showing what it shows. -/
def RunningKeeps (machine : Halting Station) (event : StationEvent) : Prop :=
  machine.halted = false → machine.state.KeepsTruthful event

theorem stepping_wellFormed {machine : Halting Station} (wellFormed : machine.state.lamps.WellFormed)
    (event : StationEvent) : (stepping machine event).state.lamps.WellFormed := by
  rcases Halting.next_cases step stops machine event with ⟨-, same⟩ | ⟨-, -, next⟩ | ⟨last, -, stopped, next⟩
  · rwa [stepping, same]
  · rw [stepping, next]
    exact wellFormed_step wellFormed event
  · rw [stepping, next]
    exact wellFormed_stops wellFormed stopped

theorem truthful_stepping {machine : Halting Station} (wellFormed : machine.state.lamps.WellFormed)
    (truthful : machine.state.Truthful) (event : StationEvent) :
    (stepping machine event).state.Truthful ↔ RunningKeeps machine event := by
  rcases Halting.next_cases step stops machine event with
    ⟨halted, same⟩ | ⟨running, goes, next⟩ | ⟨last, running, stopped, next⟩
  · rw [stepping, same]
    exact iff_of_true truthful fun running => absurd (running.symm.trans halted) Bool.false_ne_true
  · rw [stepping, next, RunningKeeps, forall_prop_of_true running]
    exact truthful_step wellFormed truthful goes
  · rw [stepping, next, RunningKeeps, forall_prop_of_true running]
    cases event with
    | moto event now =>
        obtain ⟨moto, stuck, rfl⟩ := Option.map_eq_some_iff.mp stopped
        exact truthful_stops wellFormed truthful stuck now
    | _ => cases stopped

theorem truthful_init (level : Nat → Bool) (garbage : Color → Nat) (now : UInt32) (left right : Bool)
    (inputs : Moto.Inputs) : (init (Lamps.ledInit level garbage now) left right inputs).Truthful := by
  have flag := congrArg Moto.Drive.workFlag (Moto.motoInit_drive left right inputs)
  rw [Moto.Drive.enter_workFlag] at flag
  have reset : (Moto.State.motoInit left right inputs).workFlag = .reset := flag
  rw [Truthful, init]
  dsimp only
  rw [Lamps.greenLit_ledInit, reset]
  decide

/-- The green LED shows the cycle through a whole run, whatever else is done to
the LEDs, precisely when each cycle that is begun comes back and finds the LED on
its pin, no cycle timer outlives its cycle, and no sleep falls into one. -/
theorem truthful_throughout_iff (level : Nat → Bool) (garbage : Color → Nat) (now : UInt32) (left right : Bool)
    (inputs : Moto.Inputs) (events : List StationEvent) :
    Throughout stepping (fun machine => machine.state.Truthful)
        (.start (init (Lamps.ledInit level garbage now) left right inputs)) events ↔
      EachStep stepping RunningKeeps (.start (init (Lamps.ledInit level garbage now) left right inputs)) events := by
  refine throughout_iff_eachStep (fun machine => machine.state.lamps.WellFormed) ?_ ?_ ?_ ?_
  · exact Lamps.ledInit_wellFormed level garbage now
  · exact truthful_init level garbage now left right inputs
  · exact fun _ event wellFormed _ _ => stepping_wellFormed wellFormed event
  · exact fun _ event wellFormed truthful => truthful_stepping wellFormed truthful event

end Station

end SyrFilter.Led
