import SyrFilter.Lib.Runs
import SyrFilter.Storage.Reset

namespace SyrFilter.Rtc

open SyrFilter.Lib SyrFilter.Storage

/-! # The hour counters

`applications/rtc.c`: two schedules, each an interval, a switch and a counter of
elapsed hours.  The alarm counts in RAM, the check that follows it acts on a
counter that has run out and stores one that has not.  Every other place that
sets a counter back is among the setting operations.
-/

inductive Schedule where
  | reminder
  | automatic
deriving DecidableEq, Repr

/-- `Week * 7 * 24 + Day * 24` -/
def intervalHours (week day : UInt8) : UInt32 := week.toUInt32 * 7 * 24 + day.toUInt32 * 24

namespace Schedule

def week : Schedule → Settings → UInt8
  | .reminder, settings => settings.reminderWeek
  | .automatic, settings => settings.automaticWeek

def day : Schedule → Settings → UInt8
  | .reminder, settings => settings.reminderDay
  | .automatic, settings => settings.automaticDay

def enable : Schedule → Settings → UInt8
  | .reminder, settings => settings.reminderEnable
  | .automatic, settings => settings.automaticEnable

def interval (schedule : Schedule) (settings : Settings) : UInt32 :=
  intervalHours (schedule.week settings) (schedule.day settings)

/-- `RTC_Reminder_Time` or `RTC_Automatic_Time`. -/
def elapsed : Schedule → Ram → UInt32
  | .reminder, ram => ram.rtcReminderTime
  | .automatic, ram => ram.rtcAutomaticTime

def weekKey : Schedule → Nat
  | .reminder => 1
  | .automatic => 4

def dayKey : Schedule → Nat
  | .reminder => 2
  | .automatic => 5

def enableKey : Schedule → Nat
  | .reminder => 3
  | .automatic => 6

def keys (schedule : Schedule) : List Nat := [schedule.weekKey, schedule.dayKey, schedule.enableKey]

/-- The key under which the elapsed hours are stored. -/
def hoursKey : Schedule → Nat
  | .reminder => 16
  | .automatic => 17

/-- The switch is on and the hours have reached the interval. -/
def Due (schedule : Schedule) (ram : Ram) : Prop :=
  schedule.enable ram.settings ≠ 0 ∧ schedule.interval ram.settings ≤ schedule.elapsed ram

instance (schedule : Schedule) (ram : Ram) : Decidable (schedule.Due ram) :=
  inferInstanceAs (Decidable (_ ∧ _))

end Schedule

/-! ## The alarm and the check -/

/-- `RTC_Counter_Increase`. -/
def rtcCounterIncrease (device : Device) : Device :=
  { device with
    ram :=
      { device.ram with
        rtcReminderTime :=
          if device.ram.settings.reminderEnable ≠ 0 then device.ram.rtcReminderTime + 1
          else device.ram.rtcReminderTime
        rtcAutomaticTime :=
          if device.ram.settings.automaticEnable ≠ 0 then device.ram.rtcAutomaticTime + 1
          else device.ram.rtcAutomaticTime } }

/-- The first half of the body of `RTC_Check_Callback`. -/
def checkReminder (device : Device) : Device :=
  if device.ram.settings.reminderEnable ≠ 0 then
    if Schedule.reminder.interval device.ram.settings ≤ device.ram.rtcReminderTime then
      { ram := { device.ram with rtcReminderTime := 0 }, flash := flashSet device.flash 16 0 }
    else { device with flash := flashSet device.flash 16 device.ram.rtcReminderTime }
  else device

/-- The second half: an automatic backwash counts itself and calls
`LcdtoBackwash`, which may reach `Moto_Cycle` and its `RTC_Clear`. -/
def checkAutomatic (device : Device) (reachesCycle : Bool) : Device :=
  if device.ram.settings.automaticEnable ≠ 0 then
    if Schedule.automatic.interval device.ram.settings ≤ device.ram.rtcAutomaticTime then
      Device.step
        (Device.step
          { ram := { device.ram with rtcAutomaticTime := 0 }, flash := flashSet device.flash 17 0 }
          .automaticBackwash)
        (.moto reachesCycle)
    else { device with flash := flashSet device.flash 17 device.ram.rtcAutomaticTime }
  else device

def rtcCheck (device : Device) (reachesCycle : Bool) : Device :=
  checkAutomatic (checkReminder device) reachesCycle

inductive Event where
  | operate (op : Op)
  | alarm
  | check (reachesCycle : Bool)
  /-- A reset with the RAM the start-up code leaves. -/
  | reboot (ram : Ram)
  | factorySet (ram : Ram)

def step (device : Device) : Event → Device
  | .operate op => device.step op
  | .alarm => rtcCounterIncrease device
  | .check reachesCycle => rtcCheck device reachesCycle
  | .reboot ram => flashInit device.flash ram
  | .factorySet ram => device.deviceFactorySet ram

/-! ## What an operation does to the counters -/

/-- The operation sets the counter in RAM back to 0. -/
def Clears (schedule : Schedule) (ram : Ram) : Op → Prop
  | .moto reachesCycle => reachesCycle = true
  | .range value => value.toUInt8 = 0 ∧ 9 < schedule.week ram.settings
  | .reminderSave week day enable =>
      schedule = .reminder ∧ enable ≠ 2 ∧
        (ram.settings.reminderWeek ≠ week ∨ ram.settings.reminderDay ≠ day)
  | .automaticSave week day enable =>
      schedule = .automatic ∧ enable ≠ 2 ∧
        (ram.settings.automaticWeek ≠ week ∨ ram.settings.automaticDay ≠ day)
  | .manualBackwash => True
  | _ => False

variable {schedule : Schedule} {ram : Ram} {device : Device} {op : Op}

/-- `syr_range_set` treats the two schedules alike, and one after the other. -/
theorem syrRangeSet_clamps (value : UInt32) :
    (ram.syrRangeSet value).1 =
      { ram with
        settings :=
          { ram.settings with
            timeRange := value.toUInt8
            automaticWeek :=
              if value.toUInt8 = 0 ∧ 9 < ram.settings.automaticWeek then 8
              else ram.settings.automaticWeek
            automaticDay :=
              if value.toUInt8 = 0 ∧ 9 < ram.settings.automaticWeek then 5
              else ram.settings.automaticDay
            reminderWeek :=
              if value.toUInt8 = 0 ∧ 9 < ram.settings.reminderWeek then 8
              else ram.settings.reminderWeek
            reminderDay :=
              if value.toUInt8 = 0 ∧ 9 < ram.settings.reminderWeek then 5
              else ram.settings.reminderDay }
        rtcAutomaticTime :=
          if value.toUInt8 = 0 ∧ 9 < ram.settings.automaticWeek then 0 else ram.rtcAutomaticTime
        rtcReminderTime :=
          if value.toUInt8 = 0 ∧ 9 < ram.settings.reminderWeek then 0 else ram.rtcReminderTime } := by
  by_cases zero : value.toUInt8 = 0
  · by_cases automatic : 9 < ram.settings.automaticWeek
    · by_cases reminder : 9 < ram.settings.reminderWeek
      · simp [Ram.syrRangeSet, Ram.clampAutomatic, Ram.clampReminder, zero, automatic, reminder]
      · simp [Ram.syrRangeSet, Ram.clampAutomatic, Ram.clampReminder, zero, automatic, reminder]
    · by_cases reminder : 9 < ram.settings.reminderWeek
      · simp [Ram.syrRangeSet, Ram.clampAutomatic, Ram.clampReminder, zero, automatic, reminder]
      · simp [Ram.syrRangeSet, Ram.clampAutomatic, Ram.clampReminder, zero, automatic, reminder]
  · simp [Ram.syrRangeSet, Ram.clampAutomatic, Ram.clampReminder, zero]

theorem elapsed_of_clears (clears : Clears schedule ram op) :
    schedule.elapsed (op.effect ram).1 = 0 := by
  cases op with
  | moto reachesCycle =>
      have reaches : reachesCycle = true := clears
      subst reaches
      cases schedule <;> rfl
  | range value =>
      rw [Op.effect, syrRangeSet_clamps]
      cases schedule with
      | reminder => exact if_pos clears
      | automatic => exact if_pos clears
  | reminderSave week day enable =>
      obtain ⟨rfl, saves, changed⟩ := clears
      simp only [Op.effect, Ram.userMain4Save, if_neg saves, Ram.reminderInterval, if_pos changed,
        Ram.reminderSwitch, Schedule.elapsed]
      split <;> rfl
  | automaticSave week day enable =>
      obtain ⟨rfl, saves, changed⟩ := clears
      simp only [Op.effect, Ram.userMain5Save, if_neg saves, Ram.automaticInterval, if_pos changed,
        Ram.automaticSwitch, Schedule.elapsed]
      split <;> rfl
  | manualBackwash => cases schedule <;> rfl
  | _ => exact clears.elim

theorem elapsed_of_not_clears (keeps : ¬Clears schedule ram op) :
    schedule.elapsed (op.effect ram).1 = schedule.elapsed ram := by
  cases op with
  | moto reachesCycle =>
      cases reachesCycle with
      | false => rfl
      | true => exact absurd rfl keeps
  | range value =>
      rw [Op.effect, syrRangeSet_clamps]
      cases schedule with
      | reminder => exact if_neg keeps
      | automatic => exact if_neg keeps
  | reminderSave week day enable =>
      simp only [Op.effect, Ram.userMain4Save]
      by_cases leaves : enable = 2
      · rw [if_pos leaves]
      · rw [if_neg leaves]
        cases schedule with
        | reminder =>
            have same : ¬(ram.settings.reminderWeek ≠ week ∨ ram.settings.reminderDay ≠ day) :=
              fun changed => keeps ⟨rfl, leaves, changed⟩
            simp only [Ram.reminderInterval, if_neg same, Ram.reminderSwitch, Schedule.elapsed]
            split <;> rfl
        | automatic =>
            simp only [Ram.reminderInterval, Ram.reminderSwitch, Schedule.elapsed]
            split <;> split <;> rfl
  | automaticSave week day enable =>
      simp only [Op.effect, Ram.userMain5Save]
      by_cases leaves : enable = 2
      · rw [if_pos leaves]
      · rw [if_neg leaves]
        cases schedule with
        | reminder =>
            simp only [Ram.automaticInterval, Ram.automaticSwitch, Schedule.elapsed]
            split <;> split <;> rfl
        | automatic =>
            have same : ¬(ram.settings.automaticWeek ≠ week ∨ ram.settings.automaticDay ≠ day) :=
              fun changed => keeps ⟨rfl, leaves, changed⟩
            simp only [Ram.automaticInterval, if_neg same, Ram.automaticSwitch, Schedule.elapsed]
            split <;> rfl
  | manualBackwash => exact absurd trivial keeps
  | power value =>
      simp only [Op.effect, Ram.powerSet]
      cases schedule <;> split <;> rfl
  | deltaSave enable =>
      simp only [Op.effect, Ram.userMain6Save]
      cases schedule <;> split <;> rfl
  | _ => cases schedule <;> rfl

/-! ## What an operation does to the store -/

def storedHours (schedule : Schedule) (device : Device) : UInt32 :=
  flashGet device.flash schedule.hoursKey

/-- The ids an operation may pass to `Flash_Set`. -/
def writtenIds : Op → List Nat
  | .moto _ | .wifiApEnable _ => []
  | .backwashtime _ => [14]
  | .tdslimit _ => [13]
  | .tdscalib _ => [21]
  | .range _ => [22, 4, 5, 1, 2]
  | .remindTime _ => [1, 2]
  | .autoTime _ => [4, 5]
  | .switchRemind _ => [3]
  | .switchAuto _ => [6]
  | .switchDelta _ | .deltaSave _ => [7]
  | .language _ => [15]
  | .countManual _ | .manualReset => [8]
  | .manualBackwash => [8, 16, 17]
  | .countAuto _ | .automaticReset | .automaticBackwash => [9]
  | .countDelta _ | .deltaReset | .deltaBackwash => [10]
  | .countError _ | .errorReset | .errorCounted => [11]
  | .telemetryInterval _ => [24]
  | .apTimeout _ => [26]
  | .reportInterval _ => [25]
  | .telemetryTimeout _ => [23]
  | .power _ => [19]
  | .reminderSave _ _ _ => [1, 2, 3]
  | .automaticSave _ _ _ => [4, 5, 6]

theorem mem_ite_actions {condition : Prop} [Decidable condition] {action : Action}
    {actions : List Action} {after before : Ram}
    (member : action ∈ (if condition then (after, actions) else (before, [])).2) : action ∈ actions := by
  split at member
  · exact member
  · cases member

def flashId : Action → Option Nat
  | .flashSet id _ => some id
  | _ => none

theorem mem_flashIds {id : Nat} {value : UInt32} {actions : List Action}
    (member : .flashSet id value ∈ actions) : id ∈ actions.filterMap flashId :=
  List.mem_filterMap.mpr ⟨_, member, rfl⟩

theorem mem_writtenIds {id : Nat} {value : UInt32} (member : .flashSet id value ∈ (op.effect ram).2) :
    id ∈ writtenIds op := by
  cases op with
  | moto reachesCycle => cases reachesCycle <;> cases member
  | range value =>
      simp only [Op.effect, Ram.syrRangeSet, List.mem_append] at member
      rcases member with (own | automatic) | reminder
      · have written : id ∈ [22] := mem_flashIds own
        exact List.mem_append_left [4, 5, 1, 2] written
      · have written : id ∈ [4, 5] := mem_flashIds (mem_ite_actions automatic)
        exact List.mem_append_right [22] (List.mem_append_left [1, 2] written)
      · have written : id ∈ [1, 2] := mem_flashIds (mem_ite_actions reminder)
        exact List.mem_append_right [22, 4, 5] written
  | reminderSave week day enable =>
      simp only [Op.effect, Ram.userMain4Save] at member
      split at member
      · cases member
      · rcases List.mem_append.mp member with saved | report
        · rcases List.mem_append.mp saved with interval | switch
          · have written : id ∈ [1, 2] := mem_flashIds (mem_ite_actions interval)
            exact List.mem_append_left [3] written
          · have written : id ∈ [3] := mem_flashIds (mem_ite_actions switch)
            exact List.mem_append_right [1, 2] written
        · cases mem_flashIds report
  | automaticSave week day enable =>
      simp only [Op.effect, Ram.userMain5Save] at member
      split at member
      · cases member
      · rcases List.mem_append.mp member with saved | report
        · rcases List.mem_append.mp saved with interval | switch
          · have written : id ∈ [4, 5] := mem_flashIds (mem_ite_actions interval)
            exact List.mem_append_left [6] written
          · have written : id ∈ [6] := mem_flashIds (mem_ite_actions switch)
            exact List.mem_append_right [4, 5] written
        · cases mem_flashIds report
  | power value => exact mem_flashIds (mem_ite_actions member)
  | deltaSave enable => exact mem_flashIds (mem_ite_actions member)
  | _ => exact mem_flashIds member

theorem flashGet_applyWrites {flash : Flash} {actions : List Action} {id : Nat}
    (quiet : ∀ value, .flashSet id value ∉ actions) :
    flashGet (applyWrites flash actions) id = flashGet flash id := by
  induction actions generalizing flash with
  | nil => rfl
  | cons action rest ih =>
      have restQuiet : ∀ value, .flashSet id value ∉ rest :=
        fun value member => quiet value (List.mem_cons_of_mem action member)
      refine (ih restQuiet).trans ?_
      cases action with
      | flashSet written value =>
          have different : id ≠ written := by
            rintro rfl
            exact quiet value List.mem_cons_self
          exact flashGet_flashSet_of_ne flash value different
      | _ => rfl

theorem flashGet_step {id : Nat} (other : id ∉ writtenIds op) :
    flashGet (device.step op).flash id = flashGet device.flash id :=
  flashGet_applyWrites fun _ member => other (mem_writtenIds member)

theorem storedHours_manual : storedHours schedule (device.step .manualBackwash) = 0 := by
  cases schedule <;>
    simp [storedHours, Device.step, Op.effect, Ram.userMain2Backwash, applyWrites, Schedule.hoursKey]

theorem storedHours_step (other : op ≠ .manualBackwash) :
    storedHours schedule (device.step op) = storedHours schedule device := by
  apply flashGet_step
  cases op with
  | manualBackwash => exact absurd rfl other
  | _ => cases schedule <;> simp [writtenIds, Schedule.hoursKey]

end SyrFilter.Rtc
