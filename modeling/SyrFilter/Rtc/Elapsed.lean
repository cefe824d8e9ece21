import SyrFilter.Rtc.Stored

namespace SyrFilter.Rtc

open SyrFilter.Lib SyrFilter.Storage

/-! # Elapsed hours across a reboot

The check writes a running counter to flash.  A counter that is set back in RAM
alone leaves its old value there, and the next boot takes it up again: earlier
than it would have come to that value, and perhaps past the end of an interval
that has been made shorter in between.
-/

variable {schedule : Schedule} {device : Device} {op : Op}

/-! ## What the check does -/

theorem storedHours_set {ram : Ram} {flash : Flash} {id : Nat} {value : UInt32}
    (own : schedule.hoursKey = id) :
    storedHours schedule { ram, flash := flashSet flash id value } = value := by
  subst own
  exact flashGet_flashSet_self flash value (by cases schedule <;> decide)

theorem storedHours_set_other {ram : Ram} {id : Nat} {value : UInt32} (other : schedule.hoursKey ≠ id) :
    storedHours schedule { ram, flash := flashSet device.flash id value } = storedHours schedule device :=
  flashGet_flashSet_of_ne device.flash value other

theorem checkReminder_of_due (due : Schedule.reminder.Due device.ram) :
    checkReminder device =
      { ram := { device.ram with rtcReminderTime := 0 }, flash := flashSet device.flash 16 0 } := by
  have on : device.ram.settings.reminderEnable ≠ 0 := due.1
  rw [checkReminder, if_pos on]
  exact if_pos due.2

theorem checkReminder_of_running (on : Schedule.reminder.enable device.ram.settings ≠ 0)
    (running : ¬Schedule.reminder.Due device.ram) :
    checkReminder device = { device with flash := flashSet device.flash 16 device.ram.rtcReminderTime } := by
  have below : ¬Schedule.reminder.interval device.ram.settings ≤ device.ram.rtcReminderTime :=
    fun reached => running ⟨on, reached⟩
  have enabled : device.ram.settings.reminderEnable ≠ 0 := on
  rw [checkReminder, if_pos enabled, if_neg below]

theorem checkReminder_of_off (off : Schedule.reminder.enable device.ram.settings = 0) :
    checkReminder device = device := by
  have disabled : ¬device.ram.settings.reminderEnable ≠ 0 := not_not_intro off
  rw [checkReminder, if_neg disabled]

theorem checkAutomatic_of_due {reachesCycle : Bool} (due : Schedule.automatic.Due device.ram) :
    checkAutomatic device reachesCycle =
      Device.step
        (Device.step
          { ram := { device.ram with rtcAutomaticTime := 0 }, flash := flashSet device.flash 17 0 }
          .automaticBackwash)
        (.moto reachesCycle) := by
  have on : device.ram.settings.automaticEnable ≠ 0 := due.1
  rw [checkAutomatic, if_pos on]
  exact if_pos due.2

theorem checkAutomatic_of_running {reachesCycle : Bool}
    (on : Schedule.automatic.enable device.ram.settings ≠ 0)
    (running : ¬Schedule.automatic.Due device.ram) :
    checkAutomatic device reachesCycle =
      { device with flash := flashSet device.flash 17 device.ram.rtcAutomaticTime } := by
  have below : ¬Schedule.automatic.interval device.ram.settings ≤ device.ram.rtcAutomaticTime :=
    fun reached => running ⟨on, reached⟩
  have enabled : device.ram.settings.automaticEnable ≠ 0 := on
  rw [checkAutomatic, if_pos enabled, if_neg below]

theorem checkAutomatic_of_off {reachesCycle : Bool}
    (off : Schedule.automatic.enable device.ram.settings = 0) :
    checkAutomatic device reachesCycle = device := by
  have disabled : ¬device.ram.settings.automaticEnable ≠ 0 := not_not_intro off
  rw [checkAutomatic, if_neg disabled]

theorem checkReminder_automatic :
    (checkReminder device).ram.rtcAutomaticTime = device.ram.rtcAutomaticTime ∧
      storedHours .automatic (checkReminder device) = storedHours .automatic device := by
  rw [checkReminder]
  split
  · split
    · exact ⟨rfl, storedHours_set_other (by decide)⟩
    · exact ⟨rfl, storedHours_set_other (by decide)⟩
  · exact ⟨rfl, rfl⟩

theorem automatic_due_checkReminder :
    Schedule.automatic.Due (checkReminder device).ram ↔ Schedule.automatic.Due device.ram := by
  rw [Schedule.Due, Schedule.Due, checkReminder_settings]
  simp only [Schedule.elapsed, checkReminder_automatic.1]

/-- The hours stored for the reminder by the first half of the check. -/
theorem storedHours_checkReminder :
    storedHours .reminder (checkReminder device) =
      if Schedule.reminder.enable device.ram.settings = 0 then storedHours .reminder device
      else Schedule.reminder.elapsed (checkReminder device).ram := by
  by_cases off : Schedule.reminder.enable device.ram.settings = 0
  · rw [if_pos off, checkReminder_of_off off]
  · rw [if_neg off]
    by_cases due : Schedule.reminder.Due device.ram
    · rw [checkReminder_of_due due]
      exact storedHours_set rfl
    · rw [checkReminder_of_running off due]
      exact storedHours_set rfl

/-- What the second half leaves of the reminder's hours. -/
theorem reminder_checkAutomatic (reachesCycle : Bool) :
    storedHours .reminder (checkAutomatic device reachesCycle) = storedHours .reminder device ∧
      Schedule.reminder.elapsed (checkAutomatic device reachesCycle).ram =
        if reachesCycle = true ∧ Schedule.automatic.Due device.ram then 0
        else Schedule.reminder.elapsed device.ram := by
  by_cases off : Schedule.automatic.enable device.ram.settings = 0
  · have notDue : ¬Schedule.automatic.Due device.ram := fun due => due.1 off
    rw [checkAutomatic_of_off off, if_neg (fun both => notDue both.2)]
    exact ⟨rfl, rfl⟩
  · by_cases due : Schedule.automatic.Due device.ram
    · rw [checkAutomatic_of_due due]
      refine ⟨?_, ?_⟩
      · rw [storedHours_step (by simp), storedHours_step (by simp), storedHours_set_other (by decide)]
      · cases reachesCycle with
        | false => rfl
        | true => exact (if_pos ⟨rfl, due⟩).symm
    · rw [checkAutomatic_of_running off due, if_neg (fun both => due both.2)]
      exact ⟨storedHours_set_other (by decide), rfl⟩

theorem automatic_checkAutomatic (reachesCycle : Bool) :
    storedHours .automatic (checkAutomatic device reachesCycle) =
        (if Schedule.automatic.enable device.ram.settings = 0 then storedHours .automatic device
        else Schedule.automatic.elapsed (checkAutomatic device reachesCycle).ram) ∧
      Schedule.automatic.elapsed (checkAutomatic device reachesCycle).ram =
        (if Schedule.automatic.Due device.ram then 0 else Schedule.automatic.elapsed device.ram) := by
  by_cases off : Schedule.automatic.enable device.ram.settings = 0
  · have notDue : ¬Schedule.automatic.Due device.ram := fun due => due.1 off
    rw [checkAutomatic_of_off off, if_pos off, if_neg notDue]
    exact ⟨rfl, rfl⟩
  · rw [if_neg off]
    by_cases due : Schedule.automatic.Due device.ram
    · rw [checkAutomatic_of_due due, if_pos due]
      have zero : Schedule.automatic.elapsed
          (Device.step
            (Device.step
              { ram := { device.ram with rtcAutomaticTime := 0 }, flash := flashSet device.flash 17 0 }
              .automaticBackwash)
            (.moto reachesCycle)).ram = 0 := by
        cases reachesCycle <;> rfl
      refine ⟨?_, zero⟩
      rw [zero, storedHours_step (by simp), storedHours_step (by simp)]
      exact storedHours_set rfl
    · rw [checkAutomatic_of_running off due, if_neg due]
      exact ⟨storedHours_set rfl, rfl⟩

/-! ## A reboot does not bring a schedule forward -/

/-- The stored hours are not ahead of the running ones, so that a restart does
not make due what is not due already. -/
structure NotAhead (device : Device) : Prop where
  stored_le : ∀ schedule, storedHours schedule device ≤ schedule.elapsed device.ram
  restart : ∀ (schedule : Schedule) (ram : Ram),
    schedule.Due (step device (.reboot ram)).ram → schedule.Due device.ram

/-- Whatever sets a counter back in RAM alone, or lets it overflow, finds 0 in flash. -/
def ClearsStored (device : Device) : Event → Prop
  | .operate op => ∀ schedule, op ≠ .manualBackwash → Clears schedule device.ram op →
      storedHours schedule device = 0
  | .alarm => ∀ schedule : Schedule, schedule.enable device.ram.settings ≠ 0 →
      schedule.elapsed device.ram = 4294967295 → storedHours schedule device = 0
  | .check reachesCycle =>
      -- The automatic backwash clears the reminder's hours as well, after they were stored.
      reachesCycle = true → Schedule.automatic.Due device.ram →
        if Schedule.reminder.enable device.ram.settings = 0 then storedHours .reminder device = 0
        else Schedule.reminder.Due device.ram ∨ Schedule.reminder.elapsed device.ram = 0
  | .reboot _ | .factorySet _ => True

theorem notAhead_iff (booted : Booted device) :
    NotAhead device ↔ ∀ schedule, storedHours schedule device ≤ schedule.elapsed device.ram := by
  refine ⟨fun notAhead => notAhead.stored_le, fun stored_le => ⟨stored_le, ?_⟩⟩
  intro schedule ram due
  obtain ⟨-, -, enable, elapsed⟩ := @Booted.restart schedule device booted ram
  have interval := @Booted.restart_interval schedule device booted ram
  obtain ⟨on, reached⟩ := due
  simp only [step] at on reached
  rw [enable] at on
  rw [interval, elapsed] at reached
  exact ⟨on, UInt32.le_trans reached (stored_le schedule)⟩

theorem le_zero_iff {hours : UInt32} : hours ≤ 0 ↔ hours = 0 := by
  rw [UInt32.le_iff_toNat_le, ← UInt32.toNat_inj]
  simp

theorem le_succ_iff {stored hours : UInt32} (behind : stored ≤ hours) :
    stored ≤ hours + 1 ↔ (hours = 4294967295 → stored = 0) := by
  have inRange := hours.toNat_lt
  rw [UInt32.le_iff_toNat_le] at behind
  rw [UInt32.le_iff_toNat_le, ← UInt32.toNat_inj, ← UInt32.toNat_inj, UInt32.toNat_add]
  change stored.toNat ≤ (hours.toNat + 1) % 4294967296 ↔ (hours.toNat = 4294967295 → stored.toNat = 0)
  omega

/-! ### One step -/

theorem operate_stored_le_iff (behind : storedHours schedule device ≤ schedule.elapsed device.ram) :
    storedHours schedule (device.step op) ≤ schedule.elapsed (device.step op).ram ↔
      (op ≠ .manualBackwash → Clears schedule device.ram op → storedHours schedule device = 0) := by
  by_cases manual : op = .manualBackwash
  · subst manual
    rw [storedHours_manual]
    refine iff_of_true (UInt32.le_iff_toNat_le.mpr (Nat.zero_le _)) fun other => absurd rfl other
  · rw [storedHours_step manual]
    by_cases clears : Clears schedule device.ram op
    · have zero : schedule.elapsed (device.step op).ram = 0 := elapsed_of_clears clears
      rw [zero, le_zero_iff]
      exact ⟨fun none _ _ => none, fun none => none manual clears⟩
    · have same : schedule.elapsed (device.step op).ram = schedule.elapsed device.ram :=
        elapsed_of_not_clears clears
      rw [same]
      exact iff_of_true behind fun _ clearing => absurd clearing clears

theorem elapsed_alarm :
    schedule.elapsed (rtcCounterIncrease device).ram =
      if schedule.enable device.ram.settings ≠ 0 then schedule.elapsed device.ram + 1
      else schedule.elapsed device.ram := by
  cases schedule <;> rfl

theorem alarm_stored_le_iff (behind : storedHours schedule device ≤ schedule.elapsed device.ram) :
    storedHours schedule (rtcCounterIncrease device) ≤ schedule.elapsed (rtcCounterIncrease device).ram ↔
      (schedule.enable device.ram.settings ≠ 0 → schedule.elapsed device.ram = 4294967295 →
        storedHours schedule device = 0) := by
  have kept : storedHours schedule (rtcCounterIncrease device) = storedHours schedule device := rfl
  rw [kept, elapsed_alarm]
  by_cases on : schedule.enable device.ram.settings ≠ 0
  · rw [if_pos on, le_succ_iff behind]
    exact ⟨fun safe _ => safe, fun safe => safe on⟩
  · rw [if_neg on]
    exact iff_of_true behind fun enabled => absurd enabled on

theorem checkReminder_stored_le (behind : storedHours .reminder device ≤ Schedule.reminder.elapsed device.ram) :
    storedHours .reminder (checkReminder device) ≤ Schedule.reminder.elapsed (checkReminder device).ram := by
  rw [storedHours_checkReminder]
  split
  · rename_i off
    rw [checkReminder_of_off off]
    exact behind
  · exact UInt32.le_refl _

theorem checkReminder_elapsed_eq_zero_iff (on : Schedule.reminder.enable device.ram.settings ≠ 0) :
    Schedule.reminder.elapsed (checkReminder device).ram = 0 ↔
      Schedule.reminder.Due device.ram ∨ Schedule.reminder.elapsed device.ram = 0 := by
  by_cases due : Schedule.reminder.Due device.ram
  · rw [checkReminder_of_due due]
    exact iff_of_true rfl (.inl due)
  · rw [checkReminder_of_running on due]
    exact ⟨.inr, fun either => either.resolve_left due⟩

theorem check_reminder_stored_le_iff {reachesCycle : Bool}
    (behind : storedHours .reminder device ≤ Schedule.reminder.elapsed device.ram) :
    storedHours .reminder (rtcCheck device reachesCycle) ≤
        Schedule.reminder.elapsed (rtcCheck device reachesCycle).ram ↔
      ClearsStored device (.check reachesCycle) := by
  obtain ⟨stored, elapsed⟩ := @reminder_checkAutomatic (checkReminder device) reachesCycle
  simp only [automatic_due_checkReminder] at elapsed
  rw [rtcCheck, stored, elapsed]
  by_cases cleared : reachesCycle = true ∧ Schedule.automatic.Due device.ram
  · rw [if_pos cleared, le_zero_iff, storedHours_checkReminder]
    obtain ⟨reaches, due⟩ := cleared
    have condition : ClearsStored device (.check reachesCycle) ↔
        if Schedule.reminder.enable device.ram.settings = 0 then storedHours .reminder device = 0
        else Schedule.reminder.Due device.ram ∨ Schedule.reminder.elapsed device.ram = 0 :=
      ⟨fun safe => safe reaches due, fun safe _ _ => safe⟩
    rw [condition]
    by_cases off : Schedule.reminder.enable device.ram.settings = 0
    · rw [if_pos off, if_pos off]
    · rw [if_neg off, if_neg off]
      exact checkReminder_elapsed_eq_zero_iff off
  · rw [if_neg cleared]
    exact iff_of_true (checkReminder_stored_le behind) fun reaches due => absurd ⟨reaches, due⟩ cleared

theorem check_automatic_stored_le {reachesCycle : Bool}
    (behind : storedHours .automatic device ≤ Schedule.automatic.elapsed device.ram) :
    storedHours .automatic (rtcCheck device reachesCycle) ≤
      Schedule.automatic.elapsed (rtcCheck device reachesCycle).ram := by
  obtain ⟨stored, elapsed⟩ := @automatic_checkAutomatic (checkReminder device) reachesCycle
  rw [rtcCheck, stored]
  split
  · rename_i off
    have notDue : ¬Schedule.automatic.Due (checkReminder device).ram := fun due => due.1 off
    rw [elapsed, if_neg notDue, checkReminder_automatic.2]
    simp only [Schedule.elapsed, checkReminder_automatic.1]
    exact behind
  · exact UInt32.le_refl _

/-- A step keeps the stored hours behind exactly when what it sets back was 0 in flash. -/
theorem step_notAhead_iff (booted : Booted device) (notAhead : NotAhead device) (event : Event) :
    NotAhead (step device event) ↔ ClearsStored device event := by
  have behind := notAhead.stored_le
  rw [notAhead_iff (booted.step event)]
  cases event with
  | operate op =>
      simp only [step, ClearsStored]
      exact forall_congr' fun schedule => operate_stored_le_iff (behind schedule)
  | alarm => exact forall_congr' fun schedule => alarm_stored_le_iff (behind schedule)
  | check reachesCycle =>
      rw [← check_reminder_stored_le_iff (behind .reminder)]
      constructor
      · intro all
        exact all .reminder
      · intro reminder schedule
        cases schedule with
        | reminder => exact reminder
        | automatic => exact check_automatic_stored_le (behind .automatic)
  | reboot ram =>
      refine iff_of_true (fun schedule => ?_) trivial
      cases schedule <;> exact UInt32.le_refl _
  | factorySet ram =>
      refine iff_of_true (fun schedule => ?_) trivial
      cases schedule <;> exact UInt32.le_refl _

theorem firstBoot_notAhead (ram : Ram) : NotAhead (flashInit emptyStore ram) := by
  rw [notAhead_iff (firstBoot_booted ram)]
  intro schedule
  cases schedule <;> exact UInt32.le_refl _

/-- No restart brings a schedule forward, in any state of a run, exactly when
no step of the run sets back in RAM what flash still counts. -/
theorem restart_notAhead_iff (ram : Ram) (events : List Event) :
    Throughout step NotAhead (flashInit emptyStore ram) events ↔
      EachStep step ClearsStored (flashInit emptyStore ram) events := by
  apply throughout_iff_eachStep Booted (firstBoot_booted ram) (firstBoot_notAhead ram)
  · intro device event booted _ _
    exact booted.step event
  · intro device event booted notAhead
    exact step_notAhead_iff booted notAhead event

/-- An hour is counted and stored, and a backwash clears it in RAM only. -/
theorem backwash_leaves_hours :
    ¬Throughout step NotAhead (flashInit emptyStore blankRam)
      [.alarm, .check false, .operate (.moto true)] := by
  intro holds
  have behind := holds.last.stored_le .automatic
  revert behind
  decide +kernel

/-! ## The remaining hours -/

/-- `syr_remain_auto_time_get`, which `UserMain30WinFun` shows as well: a 32-bit difference. -/
def syrRemainAutoTimeGet (ram : Ram) : UInt32 :=
  ram.settings.automaticWeek.toUInt32 * 7 * 24 + ram.settings.automaticDay.toUInt32 * 24 -
    ram.rtcAutomaticTime

/-- The events with every alarm followed by its check. -/
inductive HourEvent where
  | operate (op : Op)
  | hour (reachesCycle : Bool)
  | reboot (ram : Ram)
  | factorySet (ram : Ram)

def hourStep (device : Device) : HourEvent → Device
  | .operate op => step device (.operate op)
  | .hour reachesCycle => step (step device .alarm) (.check reachesCycle)
  | .reboot ram => step device (.reboot ram)
  | .factorySet ram => step device (.factorySet ram)

/-- The automatic hours have not passed their interval, and what remains of it is a true difference. -/
structure WithinInterval (device : Device) : Prop where
  elapsed_le : device.ram.rtcAutomaticTime ≤ Schedule.automatic.interval device.ram.settings
  remains : (syrRemainAutoTimeGet device.ram).toNat + device.ram.rtcAutomaticTime.toNat =
    (Schedule.automatic.interval device.ram.settings).toNat

/-- A new interval is not shorter than the hours already counted, and a boot
does not load more hours than its interval has. -/
def FitsInterval (device : Device) : HourEvent → Prop
  | .operate (.autoTime value) =>
      device.ram.rtcAutomaticTime ≤ intervalHours (value / 7).toUInt8 (value % 7).toUInt8
  | .operate _ => True
  | .hour _ => True
  | .reboot _ => storedHours .automatic device ≤ Schedule.automatic.interval device.ram.settings
  | .factorySet _ => storedHours .automatic device ≤ intervalHours 8 5

theorem withinInterval_iff :
    WithinInterval device ↔
      device.ram.rtcAutomaticTime ≤ Schedule.automatic.interval device.ram.settings := by
  refine ⟨fun within => within.elapsed_le, fun elapsed_le => ⟨elapsed_le, ?_⟩⟩
  have remain : syrRemainAutoTimeGet device.ram =
      Schedule.automatic.interval device.ram.settings - device.ram.rtcAutomaticTime := rfl
  rw [remain, UInt32.toNat_sub_of_le _ _ elapsed_le]
  rw [UInt32.le_iff_toNat_le] at elapsed_le
  omega

/-- Outside of `syr_auto_time_set`, an interval changes only when its hours start again. -/
theorem interval_operate (keeps : ¬Clears .automatic device.ram op) (other : ∀ value, op ≠ .autoTime value) :
    Schedule.automatic.interval (device.step op).ram.settings =
      Schedule.automatic.interval device.ram.settings := by
  cases op with
  | autoTime value => exact absurd rfl (other value)
  | moto reachesCycle => cases reachesCycle <;> rfl
  | range value =>
      have same : ¬(value.toUInt8 = 0 ∧ 9 < device.ram.settings.automaticWeek) := keeps
      simp only [Device.step, Op.effect, syrRangeSet_clamps, Schedule.interval, Schedule.week, Schedule.day,
        if_neg same]
  | reminderSave week day enable =>
      by_cases leaves : enable = 2
      · simp only [Device.step, Op.effect, Ram.userMain4Save, if_pos leaves]
      · rw [step_reminderSave leaves]
        simp only [after, Schedule.intervalSave, Schedule.switchSave, Ram.reminderInterval,
          Ram.reminderSwitch]
        split <;> split <;> rfl
  | automaticSave week day enable =>
      by_cases leaves : enable = 2
      · simp only [Device.step, Op.effect, Ram.userMain5Save, if_pos leaves]
      · have same : ¬(device.ram.settings.automaticWeek ≠ week ∨ device.ram.settings.automaticDay ≠ day) :=
          fun changed => keeps ⟨rfl, leaves, changed⟩
        rw [step_automaticSave leaves]
        simp only [after, Schedule.intervalSave, Schedule.switchSave, Ram.automaticInterval, if_neg same,
          Ram.automaticSwitch]
        split <;> rfl
  | power value =>
      simp only [Device.step, Op.effect, Ram.powerSet]
      split <;> rfl
  | deltaSave enable =>
      simp only [Device.step, Op.effect, Ram.userMain6Save]
      split <;> rfl
  | _ => rfl

theorem operate_within_iff (within : WithinInterval device) (op : Op) :
    WithinInterval (device.step op) ↔ FitsInterval device (.operate op) := by
  rw [withinInterval_iff]
  by_cases shortened : ∃ value, op = .autoTime value
  · obtain ⟨value, rfl⟩ := shortened
    exact Iff.rfl
  · have other : ∀ value, op ≠ .autoTime value := fun value same => shortened ⟨value, same⟩
    have free : FitsInterval device (.operate op) := by
      cases op with
      | autoTime value => exact absurd rfl (other value)
      | _ => exact trivial
    refine iff_of_true ?_ free
    by_cases clears : Clears .automatic device.ram op
    · have zero : (device.step op).ram.rtcAutomaticTime = 0 := elapsed_of_clears clears
      rw [zero]
      exact UInt32.le_iff_toNat_le.mpr (Nat.zero_le _)
    · have same : (device.step op).ram.rtcAutomaticTime = device.ram.rtcAutomaticTime :=
        elapsed_of_not_clears clears
      rw [same, interval_operate clears other]
      exact within.elapsed_le

theorem interval_checkAutomatic (reachesCycle : Bool) :
    Schedule.automatic.interval (checkAutomatic device reachesCycle).ram.settings =
      Schedule.automatic.interval device.ram.settings := by
  rw [checkAutomatic]
  split
  · split
    · cases reachesCycle <;> rfl
    · rfl
  · rfl

/-- The check leaves an enabled counter below its interval, or at 0. -/
theorem hour_within (within : WithinInterval device) (reachesCycle : Bool) :
    WithinInterval (hourStep device (.hour reachesCycle)) := by
  obtain ⟨-, elapsed⟩ := @automatic_checkAutomatic (checkReminder (rtcCounterIncrease device)) reachesCycle
  have settings : (checkReminder (rtcCounterIncrease device)).ram.settings = device.ram.settings :=
    checkReminder_settings
  have hours := (@checkReminder_automatic (rtcCounterIncrease device)).1
  rw [withinInterval_iff]
  change Schedule.automatic.elapsed (checkAutomatic (checkReminder (rtcCounterIncrease device)) reachesCycle).ram ≤ _
  simp only [hourStep, step, rtcCheck]
  rw [interval_checkAutomatic, elapsed, settings]
  split
  · exact UInt32.le_iff_toNat_le.mpr (Nat.zero_le _)
  · rename_i notDue
    by_cases on : device.ram.settings.automaticEnable ≠ 0
    · rw [Schedule.Due, settings] at notDue
      rcases UInt32.le_total (Schedule.automatic.interval device.ram.settings)
        (Schedule.automatic.elapsed (checkReminder (rtcCounterIncrease device)).ram) with reached | below
      · exact absurd ⟨on, reached⟩ notDue
      · exact below
    · have still : (rtcCounterIncrease device).ram.rtcAutomaticTime = device.ram.rtcAutomaticTime := if_neg on
      rw [Schedule.elapsed, hours, still]
      exact within.elapsed_le

theorem loadedInterval_default (flash : Flash) (ram : Ram) :
    Schedule.automatic.interval (flashInit (setDefault flash) ram).ram.settings = intervalHours 8 5 := by
  have week := congrArg (fun loaded => Settings.automaticWeek loaded.1)
    (loaded_deviceFactorySet ⟨ram, flash⟩ ram)
  have day := congrArg (fun loaded => Settings.automaticDay loaded.1)
    (loaded_deviceFactorySet ⟨ram, flash⟩ ram)
  exact congrArg₂ intervalHours week day

theorem hourStep_within_iff (booted : Booted device) (within : WithinInterval device) (event : HourEvent) :
    WithinInterval (hourStep device event) ↔ FitsInterval device event := by
  cases event with
  | operate op => exact operate_within_iff within op
  | hour reachesCycle => exact iff_of_true (hour_within within reachesCycle) trivial
  | reboot ram =>
      obtain ⟨-, -, -, elapsed⟩ := @Booted.restart .automatic device booted ram
      have interval := @Booted.restart_interval .automatic device booted ram
      rw [withinInterval_iff, FitsInterval, ← interval, ← elapsed]
      rfl
  | factorySet ram =>
      have hours : (device.deviceFactorySet ram).ram.rtcAutomaticTime = storedHours .automatic device := by
        have loaded := congrArg (fun loaded => loaded.2.2) (loaded_deviceFactorySet device ram)
        exact loaded
      rw [withinInterval_iff, FitsInterval, hourStep, step, hours]
      exact Iff.of_eq (congrArg _ (loadedInterval_default device.flash ram))

theorem hourStep_booted (booted : Booted device) (event : HourEvent) : Booted (hourStep device event) := by
  cases event with
  | operate op => exact booted.step (.operate op)
  | hour reachesCycle => exact (booted.step .alarm).step (.check reachesCycle)
  | reboot ram => exact booted.step (.reboot ram)
  | factorySet ram => exact booted.step (.factorySet ram)

/-- The elapsed hours stay within the interval in every state of a run exactly
when no remote command cuts the interval below them and no boot loads more of
them than the interval has. -/
theorem remaining_hours_iff (ram : Ram) (events : List HourEvent) :
    Throughout hourStep WithinInterval (flashInit emptyStore ram) events ↔
      EachStep hourStep FitsInterval (flashInit emptyStore ram) events := by
  have initial : WithinInterval (flashInit emptyStore ram) := by
    rw [withinInterval_iff]
    exact UInt32.le_iff_toNat_le.mpr (Nat.zero_le _)
  apply throughout_iff_eachStep Booted (firstBoot_booted ram) initial
  · intro device event booted _ _
    exact hourStep_booted booted event
  · intro device event booted within
    exact hourStep_within_iff booted within event

/-- After two hours the interval is set to no days at all. -/
theorem shortened_interval_wraps :
    ¬Throughout hourStep WithinInterval (flashInit emptyStore blankRam)
      [.hour false, .hour false, .operate (.autoTime 0)] := by
  intro holds
  have within := holds.last.elapsed_le
  revert within
  decide +kernel

end SyrFilter.Rtc
