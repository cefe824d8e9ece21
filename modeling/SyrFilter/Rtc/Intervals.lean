import SyrFilter.Rtc.Stored

namespace SyrFilter.Rtc

open SyrFilter.Lib SyrFilter.Storage

/-! # Setting an interval at the display and from the network

`UserMain4InputFun` and `UserMain5InputFun` edit a week count, a day count and
a switch in temporaries and save them with the last `Enter`.  The data points
RSE and RSA carry the interval in days, SSE and SSA the switch.  Both ways
store the same values, but only the display starts the elapsed hours again.
-/

variable {schedule : Schedule} {device : Device}

/-- The temporaries of a window, loaded when it is drawn. -/
structure Temps where
  week : UInt8
  day : UInt8
  enable : UInt8
deriving DecidableEq, Repr

inductive Click where
  | up
  | down
  | enter
deriving DecidableEq, Repr

namespace Temps

def weekLimit (timeRange : UInt8) : UInt8 := if timeRange ≠ 0 then 52 else 8

/-- An interval of no weeks and no days becomes one day. -/
def atLeastOneDay (temps : Temps) : Temps :=
  if temps.week = 0 ∧ temps.day = 0 then { temps with day := 1 } else temps

def clickUp (timeRange nowSetting : UInt8) (temps : Temps) : Temps :=
  if nowSetting = 0 then
    { temps with week := if weekLimit timeRange ≤ temps.week then 0 else temps.week + 1 }.atLeastOneDay
  else if nowSetting = 1 then
    { temps with day := if 6 ≤ temps.day then 0 else temps.day + 1 }.atLeastOneDay
  else if nowSetting = 2 then { temps with enable := if temps.enable < 2 then temps.enable + 1 else 0 }
  else temps

def clickDown (timeRange nowSetting : UInt8) (temps : Temps) : Temps :=
  if nowSetting = 0 then
    { temps with week := if temps.week ≤ 0 then weekLimit timeRange else temps.week - 1 }.atLeastOneDay
  else if nowSetting = 1 then
    { temps with day := if temps.day ≤ 0 then 6 else temps.day - 1 }.atLeastOneDay
  else if nowSetting = 2 then { temps with enable := if 0 < temps.enable then temps.enable - 1 else 2 }
  else temps

end Temps

namespace Schedule

/-- The save of the schedule's window. -/
def save (schedule : Schedule) (temps : Temps) : Op :=
  match schedule with
  | .reminder => .reminderSave temps.week temps.day temps.enable
  | .automatic => .automaticSave temps.week temps.day temps.enable

/-- `syr_remind_time_set` or `syr_auto_time_set`. -/
def timeSet : Schedule → UInt32 → Op
  | .reminder, value => .remindTime value
  | .automatic, value => .autoTime value

/-- `syr_switch_remind_set` or `syr_switch_auto_set`. -/
def switchSet : Schedule → UInt8 → Op
  | .reminder, value => .switchRemind value
  | .automatic, value => .switchAuto value

end Schedule

/-- The interval of the temporaries differs from the one in force. -/
def ChangesInterval (schedule : Schedule) (settings : Settings) (temps : Temps) : Prop :=
  schedule.week settings ≠ temps.week ∨ schedule.day settings ≠ temps.day

/-- The same values through RSE and SSE, or RSA and SSA. -/
def setRemotely (schedule : Schedule) (device : Device) (temps : Temps) : Device :=
  (device.step (schedule.timeSet (temps.week.toUInt32 * 7 + temps.day.toUInt32))).step
    (schedule.switchSet temps.enable)

/-! ## The windows at work -/

/-- The device, the temporaries of the two windows and `NowSetting`, the row
under edit, which they share. -/
structure Windows where
  device : Device
  temps : Schedule → Temps
  nowSetting : UInt8

def isSave : Event → Bool
  | .operate (.reminderSave _ _ _) | .operate (.automaticSave _ _ _) => true
  | _ => false

inductive WindowEvent where
  /-- Anything besides a window's own save. -/
  | clock (event : Event) (other : isSave event = false)
  /-- `UserMain4WinFun` or `UserMain5WinFun`. -/
  | winFun (schedule : Schedule)
  /-- The main window is drawn and takes `NowSetting` back. -/
  | home
  | click (schedule : Schedule) (click : Click)

namespace Windows

variable {windows : Windows}

def enter (windows : Windows) (schedule : Schedule) : Windows :=
  if (windows.temps schedule).enable = 2 then { windows with nowSetting := 0 }
  else if windows.nowSetting = 0 ∨ windows.nowSetting = 1 then
    { windows with nowSetting := windows.nowSetting + 1 }
  else if windows.nowSetting = 2 then
    { windows with
      device := windows.device.step (schedule.save (windows.temps schedule))
      nowSetting := 0 }
  else windows

def step (windows : Windows) : WindowEvent → Windows
  | .clock event _ => { windows with device := Rtc.step windows.device event }
  | .winFun schedule =>
      { windows with
        temps := Function.update windows.temps schedule
          { week := schedule.week windows.device.ram.settings
            day := schedule.day windows.device.ram.settings
            enable := schedule.enable windows.device.ram.settings } }
  | .home => { windows with nowSetting := 0 }
  | .click schedule .up =>
      { windows with
        temps := Function.update windows.temps schedule
          ((windows.temps schedule).clickUp windows.device.ram.settings.timeRange windows.nowSetting) }
  | .click schedule .down =>
      { windows with
        temps := Function.update windows.temps schedule
          ((windows.temps schedule).clickDown windows.device.ram.settings.timeRange windows.nowSetting) }
  | .click schedule .enter => windows.enter schedule

def firstBoot (ram : Ram) : Windows where
  device := flashInit emptyStore ram
  temps := fun _ => { week := 0, day := 0, enable := 0 }
  nowSetting := 0

/-- `Enter` would save the window's temporaries now. -/
def Saves (windows : Windows) (schedule : Schedule) : Prop :=
  windows.nowSetting = 2 ∧ (windows.temps schedule).enable ≠ 2

end Windows

/-! ## Both ways on one device -/

/-- The device with a new interval and switch, in RAM and in flash, and with
the elapsed hours given. -/
def withInterval (schedule : Schedule) (device : Device) (temps : Temps) (hours : UInt32) : Device :=
  { ram :=
      match schedule with
      | .reminder =>
          { device.ram with
            settings :=
              { device.ram.settings with
                reminderWeek := temps.week, reminderDay := temps.day, reminderEnable := temps.enable }
            rtcReminderTime := hours }
      | .automatic =>
          { device.ram with
            settings :=
              { device.ram.settings with
                automaticWeek := temps.week, automaticDay := temps.day, automaticEnable := temps.enable }
            rtcAutomaticTime := hours }
    flash :=
      flashSet (flashSet (flashSet device.flash schedule.weekKey temps.week.toUInt32) schedule.dayKey
        temps.day.toUInt32) schedule.enableKey temps.enable.toUInt32 }

theorem split_days {week day : UInt8} (short : day < 7) :
    ((week.toUInt32 * 7 + day.toUInt32) / 7).toUInt8 = week ∧
      ((week.toUInt32 * 7 + day.toUInt32) % 7).toUInt8 = day := by
  have weekLt := week.toNat_lt
  rw [UInt8.lt_iff_toNat_lt] at short
  have days : (week.toUInt32 * 7 + day.toUInt32).toNat = week.toNat * 7 + day.toNat := by
    rw [UInt32.toNat_add, UInt32.toNat_mul, UInt8.toNat_toUInt32, UInt8.toNat_toUInt32]
    change (week.toNat * 7 % 4294967296 + day.toNat) % 4294967296 = _
    have bound : day.toNat < 7 := short
    omega
  have bound : day.toNat < 7 := short
  refine ⟨?_, ?_⟩
  · apply UInt8.toNat.inj
    rw [UInt32.toNat_toUInt8, UInt32.toNat_div, days]
    change (week.toNat * 7 + day.toNat) / 7 % 256 = week.toNat
    omega
  · apply UInt8.toNat.inj
    rw [UInt32.toNat_toUInt8, UInt32.toNat_mod, days]
    change (week.toNat * 7 + day.toNat) % 7 % 256 = day.toNat
    omega

theorem setRemotely_eq {temps : Temps} (short : temps.day < 7) :
    setRemotely schedule device temps =
      withInterval schedule device temps (schedule.elapsed device.ram) := by
  obtain ⟨week, day⟩ := @split_days temps.week temps.day short
  cases schedule with
  | reminder =>
      simp only [setRemotely, Schedule.timeSet, Schedule.switchSet, Device.step, Op.effect,
        Ram.syrRemindTimeSet, Ram.syrSwitchRemindSet, week, day]
      rfl
  | automatic =>
      simp only [setRemotely, Schedule.timeSet, Schedule.switchSet, Device.step, Op.effect,
        Ram.syrAutoTimeSet, Ram.syrSwitchAutoSet, week, day]
      rfl

/-! What the display does not write, flash holds already. -/

theorem intervalSave_of_stored (stored : Stored schedule device) (week day : UInt8) :
    after device (schedule.intervalSave device.ram week day) =
      { ram :=
          schedule.set device.ram week day (schedule.enable device.ram.settings)
            (if schedule.week device.ram.settings ≠ week ∨ schedule.day device.ram.settings ≠ day then 0
            else schedule.elapsed device.ram)
        flash :=
          flashSet (flashSet device.flash schedule.weekKey week.toUInt32) schedule.dayKey
            day.toUInt32 } := by
  rw [Schedule.intervalSave_eq]
  by_cases changed : schedule.week device.ram.settings ≠ week ∨ schedule.day device.ram.settings ≠ day
  · rw [if_pos changed, if_pos changed]
    rfl
  · rw [if_neg changed, if_neg changed]
    simp only [not_or, not_not] at changed
    obtain ⟨rfl, rfl⟩ := changed
    rw [Schedule.set_self, flashSet_of_flashGet stored.week, flashSet_of_flashGet stored.day]
    rfl

theorem switchSave_of_stored (stored : Stored schedule device) (enable : UInt8) :
    after device (schedule.switchSave device.ram enable) =
      { ram :=
          schedule.set device.ram (schedule.week device.ram.settings) (schedule.day device.ram.settings)
            enable (schedule.elapsed device.ram)
        flash := flashSet device.flash schedule.enableKey enable.toUInt32 } := by
  rw [Schedule.switchSave_eq]
  by_cases changed : schedule.enable device.ram.settings ≠ enable
  · rw [if_pos changed]
    rfl
  · rw [if_neg changed]
    rw [not_not] at changed
    subst changed
    rw [Schedule.set_self, flashSet_of_flashGet stored.enable]
    rfl

instance (settings : Settings) (temps : Temps) : Decidable (ChangesInterval schedule settings temps) :=
  inferInstanceAs (Decidable (_ ∨ _))

theorem save_eq {temps : Temps} (stored : Stored schedule device) (saves : temps.enable ≠ 2) :
    device.step (schedule.save temps) =
      withInterval schedule device temps
        (if ChangesInterval schedule device.ram.settings temps then 0 else schedule.elapsed device.ram) := by
  have parts : device.step (schedule.save temps) =
      let set := after device (schedule.intervalSave device.ram temps.week temps.day)
      after set (schedule.switchSave set.ram temps.enable) := by
    cases schedule with
    | reminder => exact step_reminderSave saves
    | automatic => exact step_automaticSave saves
  have interval := intervalSave_of_stored stored temps.week temps.day
  have switch := switchSave_of_stored (stored.intervalSave schedule temps.week temps.day) temps.enable
  rw [parts]
  refine switch.trans ?_
  rw [interval]
  cases schedule <;> rfl

theorem elapsed_withInterval {temps : Temps} {hours : UInt32} :
    schedule.elapsed (withInterval schedule device temps hours).ram = hours := by
  cases schedule <;> rfl

/-- On a device whose store is in order the two ways differ in the elapsed hours only. -/
theorem save_eq_setRemotely_iff {temps : Temps} (stored : Stored schedule device) (saves : temps.enable ≠ 2)
    (short : temps.day < 7) :
    device.step (schedule.save temps) = setRemotely schedule device temps ↔
      (ChangesInterval schedule device.ram.settings temps → schedule.elapsed device.ram = 0) := by
  rw [save_eq stored saves, setRemotely_eq short]
  by_cases changes : ChangesInterval schedule device.ram.settings temps
  · rw [if_pos changes]
    constructor
    · intro same _
      have hours := congrArg (fun device => schedule.elapsed device.ram) same
      simp only [elapsed_withInterval] at hours
      exact hours.symm
    · intro none
      rw [none changes]
  · rw [if_neg changes]
    exact iff_of_true rfl fun changing => absurd changing changes

/-! ## Runs -/

theorem mod_seven_lt (value : UInt32) : (value % 7).toUInt8 < 7 := by
  have below : value.toNat % 7 < 7 := Nat.mod_lt _ (by decide)
  rw [UInt8.lt_iff_toNat_lt, UInt32.toNat_toUInt8, UInt32.toNat_mod]
  change value.toNat % 7 % 256 < 7
  omega

theorem day_operate {op : Op} (short : schedule.day device.ram.settings < 7)
    (other : isSave (.operate op) = false) : schedule.day (device.step op).ram.settings < 7 := by
  cases op with
  | remindTime value =>
      cases schedule with
      | reminder => exact mod_seven_lt value
      | automatic => exact short
  | autoTime value =>
      cases schedule with
      | reminder => exact short
      | automatic => exact mod_seven_lt value
  | range value =>
      simp only [Device.step, Op.effect, syrRangeSet_clamps]
      cases schedule with
      | reminder =>
          simp only [Schedule.day]
          split
          · decide
          · exact short
      | automatic =>
          simp only [Schedule.day]
          split
          · decide
          · exact short
  | reminderSave week day enable => cases other
  | automaticSave week day enable => cases other
  | moto reachesCycle => cases schedule <;> cases reachesCycle <;> exact short
  | power value =>
      simp only [Device.step, Op.effect, Ram.powerSet]
      cases schedule <;> split <;> exact short
  | deltaSave enable =>
      simp only [Device.step, Op.effect, Ram.userMain6Save]
      cases schedule <;> split <;> exact short
  | _ => cases schedule <;> exact short

theorem day_check (reachesCycle : Bool) :
    schedule.day (rtcCheck device reachesCycle).ram.settings = schedule.day device.ram.settings := by
  have settings := @checkReminder_settings device
  rw [rtcCheck, checkAutomatic]
  split
  · split
    · rw [← settings]
      cases schedule <;> cases reachesCycle <;> rfl
    · rw [← settings]
  · rw [settings]

theorem day_factorySet (ram : Ram) : schedule.day (device.deviceFactorySet ram).ram.settings < 7 := by
  have loaded := congrArg Prod.fst (loaded_deviceFactorySet device ram)
  have settings : (device.deviceFactorySet ram).ram.settings = (overDefaults (loadedFrom device.flash)).1 := loaded
  rw [settings]
  cases schedule with
  | reminder => exact (by decide : (1 : UInt8) < 7)
  | automatic => exact (by decide : (5 : UInt8) < 7)

theorem day_step {event : Event} (booted : Booted device) (short : schedule.day device.ram.settings < 7)
    (other : isSave event = false) : schedule.day (step device event).ram.settings < 7 := by
  cases event with
  | operate op => exact day_operate short other
  | alarm => cases schedule <;> exact short
  | check reachesCycle =>
      rw [step, day_check]
      exact short
  | reboot ram =>
      obtain ⟨-, day, -, -⟩ := @Booted.restart schedule device booted ram
      rw [step, day]
      exact short
  | factorySet ram => exact day_factorySet ram

namespace Temps

theorem atLeastOneDay_short {temps : Temps} (short : temps.day < 7) : temps.atLeastOneDay.day < 7 := by
  rw [atLeastOneDay]
  split
  · exact (by decide : (1 : UInt8) < 7)
  · exact short

theorem clickUp_short {temps : Temps} (timeRange nowSetting : UInt8) (short : temps.day < 7) :
    (temps.clickUp timeRange nowSetting).day < 7 := by
  rw [clickUp]
  split
  · exact atLeastOneDay_short short
  split
  · apply atLeastOneDay_short
    dsimp only
    split
    · decide
    · rename_i below
      rw [UInt8.le_iff_toNat_le] at below
      rw [UInt8.lt_iff_toNat_lt, UInt8.toNat_add]
      change ¬6 ≤ temps.day.toNat at below
      change (temps.day.toNat + 1) % 256 < 7
      omega
  split
  · exact short
  · exact short

theorem clickDown_short {temps : Temps} (timeRange nowSetting : UInt8) (short : temps.day < 7) :
    (temps.clickDown timeRange nowSetting).day < 7 := by
  rw [clickDown]
  split
  · exact atLeastOneDay_short short
  split
  · apply atLeastOneDay_short
    dsimp only
    split
    · decide
    · rename_i above
      rw [UInt8.le_iff_toNat_le] at above
      rw [UInt8.lt_iff_toNat_lt] at short ⊢
      have one : (1 : UInt8) ≤ temps.day := UInt8.le_iff_toNat_le.mpr (Nat.lt_of_not_le above)
      rw [UInt8.toNat_sub_of_le _ _ one]
      exact Nat.lt_of_le_of_lt (Nat.sub_le _ _) short
  split
  · exact short
  · exact short

end Temps

namespace Windows

variable {windows : Windows} {event : WindowEvent}

/-- The store is in order and every day count, kept or under edit, is one of a week. -/
structure Sound (windows : Windows) : Prop where
  booted : Booted windows.device
  day_lt : ∀ schedule : Schedule, schedule.day windows.device.ram.settings < 7
  temps_lt : ∀ schedule, (windows.temps schedule).day < 7

theorem Sound.edit {nowSetting : UInt8} {edited : Temps} (sound : windows.Sound) (short : edited.day < 7) :
    Sound { windows with temps := Function.update windows.temps schedule edited, nowSetting } := by
  refine ⟨sound.booted, sound.day_lt, fun other => ?_⟩
  dsimp only
  by_cases same : other = schedule
  · subst same
    rw [Function.update_self]
    exact short
  · rw [Function.update_of_ne same]
    exact sound.temps_lt other

theorem day_save {temps : Temps} (stored : Stored schedule device) (saves : temps.enable ≠ 2)
    (short : ∀ schedule : Schedule, schedule.day device.ram.settings < 7) (edited : temps.day < 7)
    (other : Schedule) : other.day (device.step (schedule.save temps)).ram.settings < 7 := by
  rw [save_eq stored saves]
  cases schedule with
  | reminder =>
      cases other with
      | reminder => exact edited
      | automatic => exact short .automatic
  | automatic =>
      cases other with
      | reminder => exact short .reminder
      | automatic => exact edited

theorem Sound.enter (sound : windows.Sound) (schedule : Schedule) : (windows.enter schedule).Sound := by
  rw [Windows.enter]
  split
  · exact ⟨sound.booted, sound.day_lt, sound.temps_lt⟩
  split
  · exact ⟨sound.booted, sound.day_lt, sound.temps_lt⟩
  split
  · rename_i saves _ _
    refine ⟨sound.booted.step (.operate _), fun other => ?_, sound.temps_lt⟩
    exact day_save (sound.booted.stored schedule) saves sound.day_lt (sound.temps_lt schedule) other
  · exact sound

theorem Sound.step (sound : windows.Sound) (event : WindowEvent) : (windows.step event).Sound := by
  cases event with
  | clock event other =>
      exact ⟨sound.booted.step event, fun schedule => day_step sound.booted (sound.day_lt schedule) other,
        sound.temps_lt⟩
  | winFun schedule => exact sound.edit (sound.day_lt schedule)
  | home => exact ⟨sound.booted, sound.day_lt, sound.temps_lt⟩
  | click schedule click =>
      cases click with
      | up => exact sound.edit (Temps.clickUp_short _ _ (sound.temps_lt schedule))
      | down => exact sound.edit (Temps.clickDown_short _ _ (sound.temps_lt schedule))
      | enter => exact sound.enter schedule

theorem firstBoot_sound (ram : Ram) : (firstBoot ram).Sound := by
  refine ⟨firstBoot_booted ram, fun schedule => ?_, fun schedule => ?_⟩
  · cases schedule with
    | reminder => exact (by decide : (1 : UInt8) < 7)
    | automatic => exact (by decide : (5 : UInt8) < 7)
  · exact (by decide : (0 : UInt8) < 7)

end Windows

/-! ## Results -/

/-- In any state a device comes to, a save at the display leads to the device
that the same values from the network lead to exactly when it leaves the
interval as it is or no hour of it has elapsed. -/
theorem display_save_eq_remote_iff (ram : Ram) (events : List WindowEvent) (schedule : Schedule)
    (saves : (run Windows.step (Windows.firstBoot ram) events).Saves schedule) :
    ((run Windows.step (Windows.firstBoot ram) events).step (.click schedule .enter)).device =
        setRemotely schedule (run Windows.step (Windows.firstBoot ram) events).device
          ((run Windows.step (Windows.firstBoot ram) events).temps schedule) ↔
      (ChangesInterval schedule (run Windows.step (Windows.firstBoot ram) events).device.ram.settings
          ((run Windows.step (Windows.firstBoot ram) events).temps schedule) →
        schedule.elapsed (run Windows.step (Windows.firstBoot ram) events).device.ram = 0) := by
  have throughout : Throughout Windows.step Windows.Sound (Windows.firstBoot ram) events :=
    throughout_of_step (Windows.firstBoot_sound ram) fun _ event sound => sound.step event
  have sound := throughout.last
  obtain ⟨lastRow, notExit⟩ := saves
  rw [← save_eq_setRemotely_iff (sound.booted.stored schedule) notExit (sound.temps_lt schedule)]
  have notEarlier : ¬((run Windows.step (Windows.firstBoot ram) events).nowSetting = 0 ∨
      (run Windows.step (Windows.firstBoot ram) events).nowSetting = 1) := by
    rw [lastRow]
    decide
  rw [Windows.step, Windows.enter, if_neg notExit, if_neg notEarlier, if_pos lastRow]

/-- The reminder switched on in a window that keeps the interval. -/
theorem display_switch_eq_remote :
    (run Windows.step (Windows.firstBoot blankRam)
        [.winFun .reminder, .click .reminder .enter, .click .reminder .enter,
          .click .reminder .up]).Saves .reminder ∧
      ((run Windows.step (Windows.firstBoot blankRam)
        [.winFun .reminder, .click .reminder .enter, .click .reminder .enter,
          .click .reminder .up]).step (.click .reminder .enter)).device =
        setRemotely .reminder
          (run Windows.step (Windows.firstBoot blankRam)
            [.winFun .reminder, .click .reminder .enter, .click .reminder .enter,
              .click .reminder .up]).device
          ((run Windows.step (Windows.firstBoot blankRam)
            [.winFun .reminder, .click .reminder .enter, .click .reminder .enter,
              .click .reminder .up]).temps .reminder) := by
  have saves : (run Windows.step (Windows.firstBoot blankRam)
      [.winFun .reminder, .click .reminder .enter, .click .reminder .enter,
        .click .reminder .up]).Saves .reminder := ⟨by decide +kernel, by decide +kernel⟩
  exact ⟨saves, (display_save_eq_remote_iff blankRam _ .reminder saves).mpr fun _ => by decide +kernel⟩

/-- An hour has elapsed, and the automatic interval is shortened to five days. -/
def shortenedAtDisplay : List WindowEvent :=
  [.clock .alarm rfl, .winFun .automatic, .click .automatic .up, .click .automatic .enter,
    .click .automatic .enter]

theorem display_save_ne_remote :
    (run Windows.step (Windows.firstBoot blankRam) shortenedAtDisplay).Saves .automatic ∧
      ((run Windows.step (Windows.firstBoot blankRam) shortenedAtDisplay).step
          (.click .automatic .enter)).device ≠
        setRemotely .automatic (run Windows.step (Windows.firstBoot blankRam) shortenedAtDisplay).device
          ((run Windows.step (Windows.firstBoot blankRam) shortenedAtDisplay).temps .automatic) := by
  refine ⟨⟨by decide +kernel, by decide +kernel⟩, fun same => ?_⟩
  have hours := congrArg (fun device => device.ram.rtcAutomaticTime) same
  revert hours
  decide +kernel

end SyrFilter.Rtc
