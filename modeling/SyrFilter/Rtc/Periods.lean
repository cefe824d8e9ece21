import SyrFilter.Rtc.Elapsed

namespace SyrFilter.Rtc

open SyrFilter.Lib SyrFilter.Storage

/-! # Hours between two triggers

Both schedules count the hours since they were last set back.  The reminder
calls `JumptoReminder` when its interval is over, the automatic backwash calls
`JumptoAutomatic`, and the backwash sets back both counters when it gets as far
as `Moto_Cycle`.  Intervals are fixed and both switches on throughout.
-/

/-! ## The calls of one pass -/

/-- `JumptoReminder` in the first half of the check. -/
def reminderJumps (device : Device) : List Schedule :=
  if device.ram.settings.reminderEnable ≠ 0 then
    if Schedule.reminder.interval device.ram.settings ≤ device.ram.rtcReminderTime then [.reminder] else []
  else []

/-- `JumptoAutomatic` in the second half. -/
def automaticJumps (device : Device) : List Schedule :=
  if device.ram.settings.automaticEnable ≠ 0 then
    if Schedule.automatic.interval device.ram.settings ≤ device.ram.rtcAutomaticTime then [.automatic] else []
  else []

def checkJumps (device : Device) : List Schedule :=
  reminderJumps device ++ automaticJumps (checkReminder device)

inductive Tick where
  /-- `RTC_Counter_Increase` and one pass of the check. -/
  | hour (reachesCycle : Bool)
  /-- `Moto_Cycle` called from elsewhere: to the counters it is its `RTC_Clear`. -/
  | motoCycle
deriving DecidableEq, Repr

def tickStep (device : Device) : Tick → Device
  | .hour reachesCycle => hourStep device (.hour reachesCycle)
  | .motoCycle => device.step (.moto true)

def tickJumps (device : Device) : Tick → List Schedule
  | .hour _ => checkJumps (rtcCounterIncrease device)
  | .motoCycle => []

/-- What happened at one tick. -/
structure Entry where
  tick : Tick
  jumps : List Schedule
deriving DecidableEq, Repr

/-- A device and the log of the ticks behind it. -/
structure Clock where
  device : Device
  log : List Entry

def Clock.tick (clock : Clock) (tick : Tick) : Clock where
  device := tickStep clock.device tick
  log := clock.log ++ [{ tick, jumps := tickJumps clock.device tick }]

/-! ## Hours since the last reset -/

/-- A trigger of its own and a `Moto_Cycle` call set a schedule back, for the
reminder also the one reached from an automatic trigger. -/
def Entry.Resets (entry : Entry) : Schedule → Prop
  | .automatic => entry.tick = .motoCycle ∨ .automatic ∈ entry.jumps
  | .reminder =>
      entry.tick = .motoCycle ∨ .reminder ∈ entry.jumps ∨
        (.automatic ∈ entry.jumps ∧ entry.tick = .hour true)

instance (entry : Entry) (schedule : Schedule) : Decidable (entry.Resets schedule) := by
  cases schedule <;> exact inferInstanceAs (Decidable (_ ∨ _))

/-- The entries, all of them hours, behind the last one that set the schedule back. -/
def hoursSince (schedule : Schedule) (log : List Entry) : Nat :=
  (log.reverse.takeWhile fun entry => ¬entry.Resets schedule).length

theorem hoursSince_concat (schedule : Schedule) (log : List Entry) (entry : Entry) :
    hoursSince schedule (log ++ [entry]) =
      if entry.Resets schedule then 0 else hoursSince schedule log + 1 := by
  rw [hoursSince, List.reverse_append, List.reverse_singleton, List.singleton_append, List.takeWhile_cons]
  by_cases resets : entry.Resets schedule
  · simp [resets]
  · simp [resets, hoursSince]

/-- The period of a schedule in hours. -/
def Schedule.period (schedule : Schedule) (settings : Settings) : Nat :=
  (schedule.week settings).toNat * 168 + (schedule.day settings).toNat * 24

theorem Schedule.toNat_interval (schedule : Schedule) (settings : Settings) :
    (schedule.interval settings).toNat = schedule.period settings := by
  have week := (schedule.week settings).toNat_lt
  have day := (schedule.day settings).toNat_lt
  simp only [interval, intervalHours, UInt32.toNat_add, UInt32.toNat_mul, UInt8.toNat_toUInt32, period]
  change ((((schedule.week settings).toNat * 7 % 4294967296 * 24 % 4294967296) +
    ((schedule.day settings).toNat * 24 % 4294967296)) % 4294967296) = _
  omega

theorem Schedule.period_lt (schedule : Schedule) (settings : Settings) :
    schedule.period settings < 65536 := by
  have week := (schedule.week settings).toNat_lt
  have day := (schedule.day settings).toNat_lt
  rw [period]
  omega

/-! ## One tick -/

variable {schedule : Schedule} {device : Device} {log : List Entry}

theorem reminderJumps_eq :
    reminderJumps device = if Schedule.reminder.Due device.ram then [.reminder] else [] := by
  rw [reminderJumps]
  by_cases on : device.ram.settings.reminderEnable ≠ 0
  · by_cases reached : Schedule.reminder.interval device.ram.settings ≤ device.ram.rtcReminderTime
    · have due : Schedule.reminder.Due device.ram := ⟨on, reached⟩
      rw [if_pos on, if_pos reached, if_pos due]
    · have notDue : ¬Schedule.reminder.Due device.ram := fun due => reached due.2
      rw [if_pos on, if_neg reached, if_neg notDue]
  · have notDue : ¬Schedule.reminder.Due device.ram := fun due => on due.1
    rw [if_neg on, if_neg notDue]

theorem automaticJumps_eq :
    automaticJumps device = if Schedule.automatic.Due device.ram then [.automatic] else [] := by
  rw [automaticJumps]
  by_cases on : device.ram.settings.automaticEnable ≠ 0
  · by_cases reached : Schedule.automatic.interval device.ram.settings ≤ device.ram.rtcAutomaticTime
    · have due : Schedule.automatic.Due device.ram := ⟨on, reached⟩
      rw [if_pos on, if_pos reached, if_pos due]
    · have notDue : ¬Schedule.automatic.Due device.ram := fun due => reached due.2
      rw [if_pos on, if_neg reached, if_neg notDue]
  · have notDue : ¬Schedule.automatic.Due device.ram := fun due => on due.1
    rw [if_neg on, if_neg notDue]

theorem checkJumps_eq :
    checkJumps device =
      (if Schedule.reminder.Due device.ram then [.reminder] else []) ++
        if Schedule.automatic.Due device.ram then [.automatic] else [] := by
  rw [checkJumps, reminderJumps_eq, automaticJumps_eq]
  simp only [automatic_due_checkReminder]

theorem mem_checkJumps : schedule ∈ checkJumps device ↔ schedule.Due device.ram := by
  rw [checkJumps_eq]
  cases schedule <;> simp

theorem checkAutomatic_interval (reachesCycle : Bool) :
    schedule.week (checkAutomatic device reachesCycle).ram.settings = schedule.week device.ram.settings ∧
      schedule.day (checkAutomatic device reachesCycle).ram.settings = schedule.day device.ram.settings ∧
        schedule.enable (checkAutomatic device reachesCycle).ram.settings = schedule.enable device.ram.settings := by
  rw [checkAutomatic]
  split
  · split
    · cases schedule <;> cases reachesCycle <;> exact ⟨rfl, rfl, rfl⟩
    · exact ⟨rfl, rfl, rfl⟩
  · exact ⟨rfl, rfl, rfl⟩

/-- A tick leaves the settings of both schedules alone. -/
theorem tickStep_settings (tick : Tick) :
    schedule.period (tickStep device tick).ram.settings = schedule.period device.ram.settings ∧
      schedule.enable (tickStep device tick).ram.settings = schedule.enable device.ram.settings := by
  cases tick with
  | motoCycle => exact ⟨rfl, rfl⟩
  | hour reachesCycle =>
      have settings : (checkReminder (rtcCounterIncrease device)).ram.settings = device.ram.settings :=
        checkReminder_settings
      obtain ⟨week, day, enable⟩ :=
        @checkAutomatic_interval schedule (checkReminder (rtcCounterIncrease device)) reachesCycle
      rw [settings] at week day enable
      constructor
      · rw [Schedule.period, Schedule.period, ← week, ← day]
        rfl
      · exact enable

theorem elapsed_checkReminder :
    Schedule.reminder.elapsed (checkReminder device).ram =
      if Schedule.reminder.Due device.ram then 0 else Schedule.reminder.elapsed device.ram := by
  by_cases off : Schedule.reminder.enable device.ram.settings = 0
  · have notDue : ¬Schedule.reminder.Due device.ram := fun due => due.1 off
    rw [checkReminder_of_off off, if_neg notDue]
  · by_cases due : Schedule.reminder.Due device.ram
    · rw [checkReminder_of_due due, if_pos due]
      rfl
    · rw [checkReminder_of_running off due, if_neg due]

/-- The counters after an hour, from what the hour's check found due. -/
theorem elapsed_hour (reachesCycle : Bool) :
    schedule.elapsed (tickStep device (.hour reachesCycle)).ram =
      if Entry.Resets { tick := .hour reachesCycle, jumps := tickJumps device (.hour reachesCycle) } schedule then 0
      else schedule.elapsed (rtcCounterIncrease device).ram := by
  cases schedule with
  | reminder =>
      obtain ⟨-, elapsed⟩ := @reminder_checkAutomatic (checkReminder (rtcCounterIncrease device)) reachesCycle
      refine elapsed.trans ?_
      simp only [automatic_due_checkReminder, elapsed_checkReminder, Entry.Resets, tickJumps, mem_checkJumps]
      by_cases automatic : Schedule.automatic.Due (rtcCounterIncrease device).ram
      · by_cases reminder : Schedule.reminder.Due (rtcCounterIncrease device).ram
        · simp [automatic, reminder]
        · simp [automatic, reminder]
      · by_cases reminder : Schedule.reminder.Due (rtcCounterIncrease device).ram
        · simp [automatic, reminder]
        · simp [automatic, reminder]
  | automatic =>
      obtain ⟨-, elapsed⟩ := @automatic_checkAutomatic (checkReminder (rtcCounterIncrease device)) reachesCycle
      refine elapsed.trans ?_
      simp only [automatic_due_checkReminder, Entry.Resets, tickJumps, mem_checkJumps, Schedule.elapsed,
        checkReminder_automatic.1]
      simp

/-! ## Runs -/

/-- The counters agree with the log, and neither has come to its period. -/
structure OnTime (hours : Schedule → Nat) (clock : Clock) : Prop where
  enabled : ∀ schedule : Schedule, schedule.enable clock.device.ram.settings ≠ 0
  period : ∀ schedule : Schedule, schedule.period clock.device.ram.settings = hours schedule
  counted : ∀ schedule : Schedule, (schedule.elapsed clock.device.ram).toNat = hoursSince schedule clock.log
  below : ∀ schedule : Schedule, hoursSince schedule clock.log < hours schedule

namespace OnTime

variable {hours : Schedule → Nat} {clock : Clock}

theorem elapsed_increased (onTime : OnTime hours clock) (schedule : Schedule) :
    (schedule.elapsed (rtcCounterIncrease clock.device).ram).toNat = hoursSince schedule clock.log + 1 := by
  have bound := schedule.period_lt clock.device.ram.settings
  have counted := onTime.counted schedule
  have below := onTime.below schedule
  rw [onTime.period] at bound
  rw [elapsed_alarm, if_pos (onTime.enabled schedule), UInt32.toNat_add, counted]
  exact Nat.mod_eq_of_lt (by change _ + 1 < _; omega)

/-- A schedule is due exactly in the last hour of its period. -/
theorem due_iff (onTime : OnTime hours clock) (schedule : Schedule) :
    schedule.Due (rtcCounterIncrease clock.device).ram ↔
      hoursSince schedule clock.log + 1 = hours schedule := by
  have below := onTime.below schedule
  have interval := schedule.toNat_interval clock.device.ram.settings
  have on : schedule.enable (rtcCounterIncrease clock.device).ram.settings ≠ 0 := onTime.enabled schedule
  rw [Schedule.Due, and_iff_right on, UInt32.le_iff_toNat_le,
    onTime.elapsed_increased]
  change (schedule.interval clock.device.ram.settings).toNat ≤ _ ↔ _
  rw [interval, onTime.period]
  omega

theorem tick (onTime : OnTime hours clock) (tick : Tick) : OnTime hours (clock.tick tick) := by
  have settings := fun schedule => @tickStep_settings schedule clock.device tick
  have positive : ∀ schedule, 0 < hours schedule := fun schedule =>
    Nat.zero_lt_of_lt (onTime.below schedule)
  refine ⟨?_, ?_, ?_, ?_⟩
  · intro schedule
    exact (settings schedule).2.trans_ne (onTime.enabled schedule)
  · intro schedule
    exact (settings schedule).1.trans (onTime.period schedule)
  · intro schedule
    rw [Clock.tick, hoursSince_concat]
    cases tick with
    | motoCycle => cases schedule <;> rfl
    | hour reachesCycle =>
        rw [elapsed_hour]
        split
        · rfl
        · exact onTime.elapsed_increased schedule
  · intro schedule
    rw [Clock.tick, hoursSince_concat]
    split
    · exact positive schedule
    · rename_i keeps
      cases tick with
      | motoCycle => cases schedule <;> exact absurd (.inl rfl) keeps
      | hour reachesCycle =>
          have notDue : ¬schedule.Due (rtcCounterIncrease clock.device).ram := by
            intro due
            apply keeps
            cases schedule with
            | reminder => exact .inr (.inl (mem_checkJumps.mpr due))
            | automatic => exact .inr (mem_checkJumps.mpr due)
          rw [onTime.due_iff] at notDue
          have below := onTime.below schedule
          omega

end OnTime

/-- Both switches on, intervals that are not empty, and the counters at 0. -/
structure Fresh (device : Device) : Prop where
  enabled : ∀ schedule : Schedule, schedule.enable device.ram.settings ≠ 0
  positive : ∀ schedule : Schedule, 0 < schedule.period device.ram.settings
  zero : ∀ schedule : Schedule, schedule.elapsed device.ram = 0

theorem onTime_run (fresh : Fresh device) (past : List Tick) :
    OnTime (fun schedule => schedule.period device.ram.settings) (run Clock.tick { device, log := [] } past) := by
  have initial : OnTime (fun schedule => schedule.period device.ram.settings) { device, log := [] } := by
    refine ⟨fresh.enabled, fun _ => rfl, fun schedule => ?_, fresh.positive⟩
    rw [fresh.zero]
    rfl
  have holds : Throughout Clock.tick (OnTime fun schedule => schedule.period device.ram.settings)
      { device, log := [] } past := throughout_of_step initial fun _ tick onTime => onTime.tick tick
  exact holds.last

/-! ## Coupling -/

/-- Every automatic trigger of the log reached `Moto_Cycle`. -/
def ReachesCycle (log : List Entry) : Prop :=
  ∀ entry ∈ log, .automatic ∈ entry.jumps → entry.tick = .hour true

theorem run_concat (past : List Tick) (tick : Tick) :
    run Clock.tick { device, log := [] } (past ++ [tick]) =
      (run Clock.tick { device, log := [] } past).tick tick := by
  rw [run, List.foldl_append]
  rfl

/-- With the shorter automatic period the reminder never gets ahead of it. -/
theorem reminder_behind (fresh : Fresh device)
    (shorter : Schedule.automatic.period device.ram.settings < Schedule.reminder.period device.ram.settings)
    (past : List Tick) (reaches : ReachesCycle (run Clock.tick { device, log := [] } past).log) :
    hoursSince .reminder (run Clock.tick { device, log := [] } past).log ≤
        hoursSince .automatic (run Clock.tick { device, log := [] } past).log ∧
      ∀ entry ∈ (run Clock.tick { device, log := [] } past).log, .reminder ∉ entry.jumps := by
  induction past using List.reverseRecOn with
  | nil => exact ⟨Nat.le_refl 0, by simp⟩
  | append_singleton past tick induction =>
      rw [run_concat] at reaches ⊢
      have onTime := onTime_run fresh past
      obtain ⟨behind, silent⟩ := induction fun entry member =>
        reaches entry (List.mem_append_left _ member)
      have now := reaches _ (List.mem_append_right _ (List.mem_singleton_self _))
      have below := onTime.below .automatic
      have quiet : .reminder ∉ tickJumps (run Clock.tick { device, log := [] } past).device tick := by
        cases tick with
        | motoCycle => exact List.not_mem_nil
        | hour reachesCycle =>
            rw [tickJumps, mem_checkJumps, onTime.due_iff]
            omega
      refine ⟨?_, ?_⟩
      · rw [Clock.tick, hoursSince_concat, hoursSince_concat]
        split
        · exact Nat.zero_le _
        · rename_i counting
          have keeps : ¬Entry.Resets
              { tick, jumps := tickJumps (run Clock.tick { device, log := [] } past).device tick } .automatic := by
            rintro (cycle | jumped)
            · exact counting (.inl cycle)
            · exact counting (.inr (.inr ⟨jumped, now jumped⟩))
          rw [if_neg keeps]
          omega
      · intro entry member
        rcases List.mem_append.mp member with earlier | last
        · exact silent entry earlier
        · rw [List.mem_singleton.mp last]
          exact quiet

/-- Every hour calls the triggers whose period it completes and no other, the reminder first; and
with the shorter automatic period, as long as each automatic trigger reaches `Moto_Cycle`, no
reminder is raised. -/
theorem triggers_meet_periods (fresh : Fresh device) (past : List Tick) :
    (∀ reachesCycle,
      tickJumps (run Clock.tick { device, log := [] } past).device (.hour reachesCycle) =
        (if hoursSince .reminder (run Clock.tick { device, log := [] } past).log + 1 =
            Schedule.reminder.period device.ram.settings then [.reminder] else []) ++
          if hoursSince .automatic (run Clock.tick { device, log := [] } past).log + 1 =
            Schedule.automatic.period device.ram.settings then [.automatic] else []) ∧
    (Schedule.automatic.period device.ram.settings < Schedule.reminder.period device.ram.settings →
      ReachesCycle (run Clock.tick { device, log := [] } past).log →
      ∀ entry ∈ (run Clock.tick { device, log := [] } past).log, .reminder ∉ entry.jumps) := by
  have onTime := onTime_run fresh past
  refine ⟨fun reachesCycle => ?_, fun shorter reaches => (reminder_behind fresh shorter past reaches).2⟩
  rw [tickJumps, checkJumps_eq]
  simp only [onTime.due_iff]

/-- A device with a reminder every two days and a backwash every day. -/
def dailyDevice : Device where
  ram :=
    { blankRam with
      settings :=
        { blankRam.settings with
          reminderDay := 2
          reminderEnable := 1
          automaticDay := 1
          automaticEnable := 1 } }
  flash := emptyStore

theorem daily_triggers :
    Fresh dailyDevice ∧
    tickJumps (run Clock.tick { device := dailyDevice, log := [] } (List.replicate 23 (.hour true))).device
      (.hour true) = [.automatic] := by
  have fresh : Fresh dailyDevice := by
    constructor <;> (intro schedule; cases schedule <;> decide +kernel)
  refine ⟨fresh, ?_⟩
  rw [(triggers_meet_periods fresh (List.replicate 23 (.hour true))).1 true]
  decide +kernel

end SyrFilter.Rtc
