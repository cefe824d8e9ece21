import SyrFilter.Rtc.Clock

namespace SyrFilter.Rtc

open SyrFilter.Lib SyrFilter.Storage

/-! # Intervals in RAM and in flash

Whatever else gets written under the wrong key, the six entries of the two
intervals and their switches are written by nothing but the operations about
them, and these write what they set.
-/

variable {schedule : Schedule} {ram : Ram} {device : Device} {op : Op}

/-- The interval and the switch in RAM are those in flash. -/
structure Stored (schedule : Schedule) (device : Device) : Prop where
  week : flashGet device.flash schedule.weekKey = (schedule.week device.ram.settings).toUInt32
  day : flashGet device.flash schedule.dayKey = (schedule.day device.ram.settings).toUInt32
  enable : flashGet device.flash schedule.enableKey = (schedule.enable device.ram.settings).toUInt32

/-- The device after the calls of an effect. -/
def after (device : Device) (effect : Effect) : Device :=
  { ram := effect.1, flash := applyWrites device.flash effect.2 }

theorem Stored.frame {next : Device} (stored : Stored schedule device)
    (week : schedule.week next.ram.settings = schedule.week device.ram.settings)
    (day : schedule.day next.ram.settings = schedule.day device.ram.settings)
    (enable : schedule.enable next.ram.settings = schedule.enable device.ram.settings)
    (same : ∀ id ∈ schedule.keys, flashGet next.flash id = flashGet device.flash id) :
    Stored schedule next := by
  refine ⟨?_, ?_, ?_⟩
  · rw [same _ (by simp [Schedule.keys]), week, stored.week]
  · rw [same _ (by simp [Schedule.keys]), day, stored.day]
  · rw [same _ (by simp [Schedule.keys]), enable, stored.enable]

theorem applyWrites_quiet {flash : Flash} {calls : List Action} (quiet : calls.filterMap flashId = []) :
    applyWrites flash calls = flash := by
  induction calls with
  | nil => rfl
  | cons action rest ih =>
      cases action with
      | flashSet id value => cases quiet
      | _ => exact ih quiet

/-- An effect that sets an interval and writes it. -/
theorem Stored.interval {week day : UInt8} {next : Ram} {calls : List Action}
    (stored : Stored schedule device) (setWeek : schedule.week next.settings = week)
    (setDay : schedule.day next.settings = day)
    (enable : schedule.enable next.settings = schedule.enable device.ram.settings)
    (quiet : calls.filterMap flashId = []) :
    Stored schedule (after device (next,
      .flashSet schedule.weekKey week.toUInt32 :: .flashSet schedule.dayKey day.toUInt32 :: calls)) := by
  have kept := stored.enable
  have flash : (after device (next,
      .flashSet schedule.weekKey week.toUInt32 :: .flashSet schedule.dayKey day.toUInt32 :: calls)).flash =
        flashSet (flashSet device.flash schedule.weekKey week.toUInt32) schedule.dayKey day.toUInt32 :=
    applyWrites_quiet quiet
  refine ⟨?_, ?_, ?_⟩
  · rw [flash]
    cases schedule <;> simp [after, Schedule.weekKey, Schedule.dayKey, setWeek]
  · rw [flash]
    cases schedule <;> simp [after, Schedule.weekKey, Schedule.dayKey, setDay]
  · rw [flash]
    cases schedule <;>
      simp_all [after, Schedule.weekKey, Schedule.dayKey, Schedule.enableKey]

/-- An effect that sets the switch and writes it. -/
theorem Stored.switch {value : UInt8} {next : Ram} {calls : List Action} (stored : Stored schedule device)
    (week : schedule.week next.settings = schedule.week device.ram.settings)
    (day : schedule.day next.settings = schedule.day device.ram.settings)
    (setEnable : schedule.enable next.settings = value) (quiet : calls.filterMap flashId = []) :
    Stored schedule (after device (next, .flashSet schedule.enableKey value.toUInt32 :: calls)) := by
  have keptWeek := stored.week
  have keptDay := stored.day
  have flash : (after device (next, .flashSet schedule.enableKey value.toUInt32 :: calls)).flash =
      flashSet device.flash schedule.enableKey value.toUInt32 := applyWrites_quiet quiet
  refine ⟨?_, ?_, ?_⟩
  · rw [flash]
    cases schedule <;> simp_all [after, Schedule.weekKey, Schedule.enableKey]
  · rw [flash]
    cases schedule <;> simp_all [after, Schedule.dayKey, Schedule.enableKey]
  · rw [flash]
    cases schedule <;> simp [after, Schedule.enableKey, setEnable]

/-- An effect that leaves the schedule alone. -/
theorem Stored.elsewhere {effect : Effect} (stored : Stored schedule device) (ids : List Nat)
    (week : schedule.week effect.1.settings = schedule.week device.ram.settings)
    (day : schedule.day effect.1.settings = schedule.day device.ram.settings)
    (enable : schedule.enable effect.1.settings = schedule.enable device.ram.settings)
    (written : effect.2.filterMap flashId = ids) (apart : ∀ id ∈ ids, id ∉ schedule.keys) :
    Stored schedule (after device effect) := by
  apply stored.frame week day enable
  intro id key
  refine flashGet_applyWrites fun value member => apart id ?_ key
  rw [← written]
  exact mem_flashIds member

theorem Stored.clampAutomatic (stored : Stored schedule device) :
    Stored schedule (after device device.ram.clampAutomatic) := by
  rw [Ram.clampAutomatic]
  split
  · cases schedule with
    | reminder => exact stored.elsewhere [4, 5] rfl rfl rfl rfl (by decide)
    | automatic => exact @Stored.interval _ _ 8 5 _ [] stored rfl rfl rfl rfl
  · exact stored

theorem Stored.clampReminder (stored : Stored schedule device) :
    Stored schedule (after device device.ram.clampReminder) := by
  rw [Ram.clampReminder]
  split
  · cases schedule with
    | reminder => exact @Stored.interval _ _ 8 5 _ [] stored rfl rfl rfl rfl
    | automatic => exact stored.elsewhere [1, 2] rfl rfl rfl rfl (by decide)
  · exact stored

theorem step_range (value : UInt32) :
    device.step (.range value) =
      let ranged := after device
        ({ device.ram with settings := { device.ram.settings with timeRange := value.toUInt8 } },
          [.flashSet 22 value.toUInt8.toUInt32, .deviceConfigPut "rsi" value.toUInt8.toUInt32])
      let clamped := after ranged ranged.ram.clampAutomatic
      after clamped clamped.ram.clampReminder := by
  simp only [Device.step, Op.effect, Ram.syrRangeSet, after, applyWrites, List.foldl_append]

theorem Stored.range (stored : Stored schedule device) (value : UInt32) :
    Stored schedule (device.step (.range value)) := by
  rw [step_range]
  apply Stored.clampReminder
  apply Stored.clampAutomatic
  cases schedule with
  | reminder => exact stored.elsewhere [22] rfl rfl rfl rfl (by decide)
  | automatic => exact stored.elsewhere [22] rfl rfl rfl rfl (by decide)

/-! ## The saves of the two windows -/

namespace Schedule

/-- RAM with another interval, switch and count of hours for a schedule. -/
def set (schedule : Schedule) (ram : Ram) (week day enable : UInt8) (hours : UInt32) : Ram :=
  match schedule with
  | .reminder =>
      { ram with
        settings :=
          { ram.settings with reminderWeek := week, reminderDay := day, reminderEnable := enable }
        rtcReminderTime := hours }
  | .automatic =>
      { ram with
        settings :=
          { ram.settings with automaticWeek := week, automaticDay := day, automaticEnable := enable }
        rtcAutomaticTime := hours }

/-- The interval half of the window's save. -/
def intervalSave (schedule : Schedule) (ram : Ram) (week day : UInt8) : Effect :=
  match schedule with
  | .reminder => ram.reminderInterval week day
  | .automatic => ram.automaticInterval week day

/-- The switch half of the window's save. -/
def switchSave (schedule : Schedule) (ram : Ram) (enable : UInt8) : Effect :=
  match schedule with
  | .reminder => ram.reminderSwitch enable
  | .automatic => ram.automaticSwitch enable

variable {other : Schedule} {week day enable : UInt8} {hours : UInt32}

@[simp] theorem week_set : schedule.week (schedule.set ram week day enable hours).settings = week := by
  cases schedule <;> rfl

@[simp] theorem day_set : schedule.day (schedule.set ram week day enable hours).settings = day := by
  cases schedule <;> rfl

@[simp] theorem enable_set :
    schedule.enable (schedule.set ram week day enable hours).settings = enable := by
  cases schedule <;> rfl

theorem set_self :
    schedule.set ram (schedule.week ram.settings) (schedule.day ram.settings)
      (schedule.enable ram.settings) (schedule.elapsed ram) = ram := by
  cases schedule <;> rfl

/-- The other schedule shares neither variables nor keys. -/
theorem set_apart (different : other ≠ schedule) :
    other.week (schedule.set ram week day enable hours).settings = other.week ram.settings ∧
      other.day (schedule.set ram week day enable hours).settings = other.day ram.settings ∧
      other.enable (schedule.set ram week day enable hours).settings = other.enable ram.settings := by
  cases schedule with
  | reminder =>
      cases other with
      | reminder => exact absurd rfl different
      | automatic => exact ⟨rfl, rfl, rfl⟩
  | automatic =>
      cases other with
      | reminder => exact ⟨rfl, rfl, rfl⟩
      | automatic => exact absurd rfl different

theorem keys_apart (different : other ≠ schedule) : ∀ id ∈ schedule.keys, id ∉ other.keys := by
  cases schedule <;> cases other <;> first | exact absurd rfl different | decide

theorem intervalSave_eq (schedule : Schedule) (ram : Ram) (week day : UInt8) :
    schedule.intervalSave ram week day =
      if schedule.week ram.settings ≠ week ∨ schedule.day ram.settings ≠ day then
        (schedule.set ram week day (schedule.enable ram.settings) 0,
          [.flashSet schedule.weekKey week.toUInt32, .flashSet schedule.dayKey day.toUInt32])
      else (ram, []) := by
  cases schedule <;> rfl

theorem switchSave_eq (schedule : Schedule) (ram : Ram) (enable : UInt8) :
    schedule.switchSave ram enable =
      if schedule.enable ram.settings ≠ enable then
        (schedule.set ram (schedule.week ram.settings) (schedule.day ram.settings) enable
            (schedule.elapsed ram),
          [.flashSet schedule.enableKey enable.toUInt32])
      else (ram, []) := by
  cases schedule <;> rfl

end Schedule

theorem Stored.intervalSave {other : Schedule} (stored : Stored other device) (schedule : Schedule)
    (week day : UInt8) : Stored other (after device (schedule.intervalSave device.ram week day)) := by
  rw [Schedule.intervalSave_eq]
  split
  · by_cases same : other = schedule
    · subst same
      exact @Stored.interval _ _ week day _ [] stored Schedule.week_set Schedule.day_set
        Schedule.enable_set rfl
    · obtain ⟨sameWeek, sameDay, sameEnable⟩ := Schedule.set_apart same
      refine stored.elsewhere [schedule.weekKey, schedule.dayKey] sameWeek sameDay sameEnable rfl ?_
      exact fun id member => Schedule.keys_apart same id (List.mem_append_left [schedule.enableKey] member)
  · exact stored

theorem Stored.switchSave {other : Schedule} (stored : Stored other device) (schedule : Schedule)
    (enable : UInt8) : Stored other (after device (schedule.switchSave device.ram enable)) := by
  rw [Schedule.switchSave_eq]
  split
  · by_cases same : other = schedule
    · subst same
      exact @Stored.switch _ _ enable _ [] stored Schedule.week_set Schedule.day_set
        Schedule.enable_set rfl
    · obtain ⟨sameWeek, sameDay, sameEnable⟩ := Schedule.set_apart same
      refine stored.elsewhere [schedule.enableKey] sameWeek sameDay sameEnable rfl ?_
      exact fun id member =>
        Schedule.keys_apart same id (List.mem_append_right [schedule.weekKey, schedule.dayKey] member)
  · exact stored

/-- The two windows save in the same two parts. -/
theorem step_reminderSave {week day enable : UInt8} (saves : enable ≠ 2) :
    device.step (.reminderSave week day enable) =
      let set := after device (Schedule.reminder.intervalSave device.ram week day)
      after set (Schedule.reminder.switchSave set.ram enable) := by
  simp only [Device.step, Op.effect, Ram.userMain4Save, if_neg saves, after, applyWrites, List.foldl_append,
    List.foldl_cons, List.foldl_nil, Schedule.intervalSave, Schedule.switchSave]

theorem step_automaticSave {week day enable : UInt8} (saves : enable ≠ 2) :
    device.step (.automaticSave week day enable) =
      let set := after device (Schedule.automatic.intervalSave device.ram week day)
      after set (Schedule.automatic.switchSave set.ram enable) := by
  simp only [Device.step, Op.effect, Ram.userMain5Save, if_neg saves, after, applyWrites, List.foldl_append,
    List.foldl_cons, List.foldl_nil, Schedule.intervalSave, Schedule.switchSave]

/-! ## Operations -/

theorem Stored.operate_elsewhere (stored : Stored schedule device)
    (week : schedule.week (op.effect device.ram).1.settings = schedule.week device.ram.settings)
    (day : schedule.day (op.effect device.ram).1.settings = schedule.day device.ram.settings)
    (enable : schedule.enable (op.effect device.ram).1.settings = schedule.enable device.ram.settings)
    (apart : ∀ id ∈ schedule.keys, id ∉ writtenIds op) : Stored schedule (device.step op) :=
  stored.frame week day enable fun id key => flashGet_step (apart id key)

theorem Stored.operate (stored : Stored schedule device) (op : Op) : Stored schedule (device.step op) := by
  cases op with
  | range value => exact stored.range value
  | remindTime value =>
      cases schedule with
      | reminder =>
          exact @Stored.interval _ _ (value / 7).toUInt8 (value % 7).toUInt8 _ [_] stored rfl rfl rfl rfl
      | automatic => exact stored.elsewhere [1, 2] rfl rfl rfl rfl (by decide)
  | autoTime value =>
      cases schedule with
      | reminder => exact stored.elsewhere [4, 5] rfl rfl rfl rfl (by decide)
      | automatic =>
          exact @Stored.interval _ _ (value / 7).toUInt8 (value % 7).toUInt8 _ [_] stored rfl rfl rfl rfl
  | switchRemind value =>
      cases schedule with
      | reminder => exact @Stored.switch _ _ value _ [_, _] stored rfl rfl rfl rfl
      | automatic => exact stored.elsewhere [3] rfl rfl rfl rfl (by decide)
  | switchAuto value =>
      cases schedule with
      | reminder => exact stored.elsewhere [6] rfl rfl rfl rfl (by decide)
      | automatic => exact @Stored.switch _ _ value _ [_, _] stored rfl rfl rfl rfl
  | reminderSave week day enable =>
      by_cases leaves : enable = 2
      · simp only [Device.step, Op.effect, Ram.userMain4Save, if_pos leaves]
        exact stored
      · rw [step_reminderSave leaves]
        exact (stored.intervalSave .reminder week day).switchSave .reminder enable
  | automaticSave week day enable =>
      by_cases leaves : enable = 2
      · simp only [Device.step, Op.effect, Ram.userMain5Save, if_pos leaves]
        exact stored
      · rw [step_automaticSave leaves]
        exact (stored.intervalSave .automatic week day).switchSave .automatic enable
  | moto reachesCycle =>
      cases reachesCycle with
      | false => exact stored
      | true => cases schedule <;> exact stored.elsewhere [] rfl rfl rfl rfl (by decide)
  | power value =>
      simp only [Device.step, Op.effect, Ram.powerSet]
      split
      · cases schedule <;> exact stored.elsewhere [19] rfl rfl rfl rfl (by decide)
      · exact stored
  | deltaSave enable =>
      simp only [Device.step, Op.effect, Ram.userMain6Save]
      split
      · cases schedule <;> exact stored.elsewhere [7] rfl rfl rfl rfl (by decide)
      · exact stored
  | _ =>
      cases schedule <;>
        exact stored.operate_elsewhere rfl rfl rfl
          (by simp [Schedule.keys, Schedule.weekKey, Schedule.dayKey, Schedule.enableKey, writtenIds])

/-! ## Clock and boot -/

theorem Stored.checkReminder (stored : Stored schedule device) : Stored schedule (checkReminder device) := by
  rw [Rtc.checkReminder]
  split
  · split
    · have cleared : Stored schedule (after device ({ device.ram with rtcReminderTime := 0 }, [.flashSet 16 0])) := by
        cases schedule <;> exact stored.elsewhere [16] rfl rfl rfl rfl (by decide)
      exact cleared
    · have written : Stored schedule
          (after device (device.ram, [.flashSet 16 device.ram.rtcReminderTime])) := by
        cases schedule <;> exact stored.elsewhere [16] rfl rfl rfl rfl (by decide)
      exact written
  · exact stored

theorem checkReminder_settings : (checkReminder device).ram.settings = device.ram.settings := by
  rw [checkReminder]
  split
  · split <;> rfl
  · rfl

theorem Stored.checkAutomatic (stored : Stored schedule device) (reachesCycle : Bool) :
    Stored schedule (checkAutomatic device reachesCycle) := by
  rw [Rtc.checkAutomatic]
  split
  · split
    · have cleared : Stored schedule
          (after device ({ device.ram with rtcAutomaticTime := 0 }, [.flashSet 17 0])) := by
        cases schedule <;> exact stored.elsewhere [17] rfl rfl rfl rfl (by decide)
      exact (cleared.operate .automaticBackwash).operate (.moto reachesCycle)
    · have written : Stored schedule
          (after device (device.ram, [.flashSet 17 device.ram.rtcAutomaticTime])) := by
        cases schedule <;> exact stored.elsewhere [17] rfl rfl rfl rfl (by decide)
      exact written
  · exact stored

/-- The entries of a schedule fit the 8-bit variables they are loaded into. -/
def FitsBytes (schedule : Schedule) (flash : Flash) : Prop := ∀ id ∈ schedule.keys, flashGet flash id < 256

theorem toUInt32_toUInt8 {value : UInt32} (small : value < 256) : value.toUInt8.toUInt32 = value := by
  rw [UInt32.lt_iff_toNat_lt] at small
  apply UInt32.toNat.inj
  rw [UInt8.toNat_toUInt32, UInt32.toNat_toUInt8]
  exact Nat.mod_eq_of_lt small

theorem toUInt32_lt (value : UInt8) : value.toUInt32 < 256 := by
  rw [UInt32.lt_iff_toNat_lt, UInt8.toNat_toUInt32]
  exact value.toNat_lt

theorem Stored.fitsBytes (stored : Stored schedule device) : FitsBytes schedule device.flash := by
  intro id key
  simp only [Schedule.keys, List.mem_cons, List.not_mem_nil, or_false] at key
  rcases key with rfl | rfl | rfl
  · rw [stored.week]
    exact toUInt32_lt _
  · rw [stored.day]
    exact toUInt32_lt _
  · rw [stored.enable]
    exact toUInt32_lt _

theorem FitsBytes.setDefault {flash : Flash} (fits : FitsBytes schedule flash) :
    FitsBytes schedule (setDefault flash) := by
  have week := fits schedule.weekKey (by simp [Schedule.keys])
  have enable := fits schedule.enableKey (by simp [Schedule.keys])
  cases schedule with
  | reminder =>
      simp only [Schedule.weekKey, Schedule.enableKey] at week enable
      simp [FitsBytes, Schedule.keys, Schedule.weekKey, Schedule.dayKey, Schedule.enableKey,
        Storage.setDefault, defaultWrites, week, enable]
  | automatic =>
      simp [FitsBytes, Schedule.keys, Schedule.weekKey, Schedule.dayKey, Schedule.enableKey,
        Storage.setDefault, defaultWrites]

theorem FitsBytes.load {flash : Flash} (fits : FitsBytes schedule flash) (ram : Ram) :
    Stored schedule { ram := flash2Mem flash ram, flash } := by
  have week := fits schedule.weekKey (by simp [Schedule.keys])
  have day := fits schedule.dayKey (by simp [Schedule.keys])
  have enable := fits schedule.enableKey (by simp [Schedule.keys])
  cases schedule with
  | reminder => exact ⟨(toUInt32_toUInt8 week).symm, (toUInt32_toUInt8 day).symm, (toUInt32_toUInt8 enable).symm⟩
  | automatic => exact ⟨(toUInt32_toUInt8 week).symm, (toUInt32_toUInt8 day).symm, (toUInt32_toUInt8 enable).symm⟩

theorem FitsBytes.flashInit {flash : Flash} (fits : FitsBytes schedule flash) (ram : Ram) :
    Stored schedule (flashInit flash ram) := by
  have marked : FitsBytes schedule (flashSet flash 0 1) := by
    intro id key
    have other : id ≠ 0 := by
      rintro rfl
      cases schedule <;> revert key <;> decide
    rw [flashGet_flashSet_of_ne flash 1 other]
    exact fits id key
  rw [Storage.flashInit]
  split
  · exact marked.setDefault.load ram
  · exact fits.load ram

theorem emptyStore_fitsBytes : FitsBytes schedule emptyStore := by
  cases schedule <;> simp [FitsBytes, Schedule.keys, Schedule.weekKey, Schedule.dayKey, Schedule.enableKey] <;>
    decide

theorem Stored.step (stored : Stored schedule device) (event : Event) : Stored schedule (step device event) := by
  cases event with
  | operate op => exact stored.operate op
  | alarm => exact ⟨stored.week, stored.day, stored.enable⟩
  | check reachesCycle => exact stored.checkReminder.checkAutomatic reachesCycle
  | reboot ram => exact stored.fitsBytes.flashInit ram
  | factorySet ram => exact stored.fitsBytes.setDefault.flashInit ram

/-- What holds in every state after the first boot. -/
structure Booted (device : Device) : Prop where
  marked : flashGet device.flash 0 ≠ 0
  stored : ∀ schedule, Stored schedule device

theorem zero_not_mem_writtenIds (op : Op) : 0 ∉ writtenIds op := by
  cases op <;> simp [writtenIds]

theorem flashGet_zero_setDefault (flash : Flash) : flashGet (setDefault flash) 0 = flashGet flash 0 := by
  simp [setDefault, defaultWrites]

theorem flashInit_marked (flash : Flash) (ram : Ram) : flashGet (flashInit flash ram).flash 0 ≠ 0 := by
  rw [flashInit]
  split
  · rw [flashGet_zero_setDefault, flashGet_flashSet_self _ _ (by decide)]
    decide
  · rename_i marked
    exact marked

theorem check_marked {reachesCycle : Bool} :
    flashGet (rtcCheck device reachesCycle).flash 0 = flashGet device.flash 0 := by
  have reminder : flashGet (checkReminder device).flash 0 = flashGet device.flash 0 := by
    rw [checkReminder]
    split
    · split <;> exact @flashGet_flashSet_of_ne 16 0 _ _ (by decide)
    · rfl
  rw [rtcCheck, ← reminder, checkAutomatic]
  split
  · split
    · rw [flashGet_step (zero_not_mem_writtenIds _), flashGet_step (zero_not_mem_writtenIds _)]
      exact @flashGet_flashSet_of_ne 17 0 _ _ (by decide)
    · exact @flashGet_flashSet_of_ne 17 0 _ _ (by decide)
  · rfl

theorem Booted.step (booted : Booted device) (event : Event) : Booted (step device event) := by
  refine ⟨?_, fun schedule => (booted.stored schedule).step event⟩
  cases event with
  | operate op =>
      rw [Rtc.step, flashGet_step (zero_not_mem_writtenIds op)]
      exact booted.marked
  | alarm => exact booted.marked
  | check reachesCycle =>
      rw [Rtc.step, check_marked]
      exact booted.marked
  | reboot ram => exact flashInit_marked _ _
  | factorySet ram => exact flashInit_marked _ _

theorem firstBoot_booted (ram : Ram) : Booted (flashInit emptyStore ram) :=
  ⟨flashInit_marked _ _, fun _ => emptyStore_fitsBytes.flashInit ram⟩

/-- A restart brings back the stored hours, and the interval and switch as they are. -/
theorem Booted.restart (booted : Booted device) (ram : Ram) :
    schedule.week (flashInit device.flash ram).ram.settings = schedule.week device.ram.settings ∧
      schedule.day (flashInit device.flash ram).ram.settings = schedule.day device.ram.settings ∧
      schedule.enable (flashInit device.flash ram).ram.settings = schedule.enable device.ram.settings ∧
      schedule.elapsed (flashInit device.flash ram).ram = storedHours schedule device := by
  have stored := booted.stored schedule
  have week := congrArg UInt32.toUInt8 stored.week
  have day := congrArg UInt32.toUInt8 stored.day
  have enable := congrArg UInt32.toUInt8 stored.enable
  rw [UInt8.toUInt8_toUInt32] at week day enable
  rw [flashInit]
  simp only [if_neg booted.marked]
  cases schedule with
  | reminder => exact ⟨week, day, enable, rfl⟩
  | automatic => exact ⟨week, day, enable, rfl⟩

theorem Booted.restart_interval (booted : Booted device) (ram : Ram) :
    schedule.interval (flashInit device.flash ram).ram.settings = schedule.interval device.ram.settings := by
  obtain ⟨week, day, -, -⟩ := @Booted.restart schedule device booted ram
  rw [Schedule.interval, week, day, Schedule.interval]

end SyrFilter.Rtc
