import SyrFilter.Rtc.Intervals

namespace SyrFilter.Rtc

open SyrFilter.Lib SyrFilter.Storage

/-! # Legal intervals

`UserMain4InputFun` and `UserMain5InputFun` keep what they edit within a week
of days and a year of weeks, and `UserMain28InputFun` edits the range through
`syr_range_set`, which brings long intervals back.  `syr_remind_time_set` and
`syr_auto_time_set` take whatever the network sends, and a window saves what
it edited under the range of that time.
-/

/-- The windows that edit an interval or the range. -/
inductive EditWindow where
  /-- `userMain4Win` and `userMain5Win`. -/
  | interval (schedule : Schedule)
  /-- `userMain28Win`. -/
  | range
deriving DecidableEq, Repr

/-- The two interval windows, `Time_Range_Temp` and `NowButtonId` of the range
window, and which of the three is the top window. -/
structure Editor where
  windows : Windows
  timeRangeTemp : UInt8
  nowButtonId : UInt8
  top : Option EditWindow

inductive EditEvent where
  /-- The window comes to the top, or is drawn again there. -/
  | windowFunction (window : EditWindow)
  /-- Another window comes to the top. -/
  | covered
  /-- `lcd_refresh_from_sleep` back to the main window. -/
  | home
  | click (click : Click)
  | rseSet (value : UInt32)
  | rsaSet (value : UInt32)
  | rsiSet (value : UInt32)
deriving DecidableEq, Repr

namespace Editor

variable {editor : Editor}

/-- A remote command. -/
def operate (editor : Editor) (op : Op) (other : isSave (.operate op) = false) : Editor :=
  { editor with windows := editor.windows.step (.clock (.operate op) other) }

def windowFunction (editor : Editor) : EditWindow → Editor
  | .interval schedule => { editor with windows := editor.windows.step (.winFun schedule) }
  | .range =>
      { editor with timeRangeTemp := editor.windows.device.ram.settings.timeRange, nowButtonId := 0 }

/-- The two `Enter` that end an interval window. -/
def Closes (editor : Editor) (schedule : Schedule) : Click → Prop
  | .enter => (editor.windows.temps schedule).enable = 2 ∨ editor.windows.nowSetting = 2
  | _ => False

instance (schedule : Schedule) (click : Click) : Decidable (editor.Closes schedule click) :=
  match click with
  | .enter => inferInstanceAs (Decidable (_ ∨ _))
  | .up => inferInstanceAs (Decidable False)
  | .down => inferInstanceAs (Decidable False)

/-- `UserMain4InputFun` or `UserMain5InputFun`. -/
def intervalInputFun (editor : Editor) (schedule : Schedule) (click : Click) : Editor :=
  { editor with
    windows := editor.windows.step (.click schedule click)
    top := if editor.Closes schedule click then none else editor.top }

/-- `Up` and `Down` of `UserMain28InputFun`. -/
def rangeToggle (editor : Editor) : Editor :=
  if editor.nowButtonId = 0 then
    { editor with timeRangeTemp := if editor.timeRangeTemp ≠ 0 then 0 else 1 }
  else if editor.nowButtonId = 1 then { editor with nowButtonId := 2 }
  else if editor.nowButtonId = 2 then { editor with nowButtonId := 1 }
  else editor

/-- `Enter` of `UserMain28InputFun`. -/
def rangeEnter (editor : Editor) : Editor :=
  if editor.nowButtonId = 0 then { editor with nowButtonId := 1 }
  else if editor.nowButtonId = 1 then
    { editor.operate (.range editor.timeRangeTemp.toUInt32) rfl with top := none }
  else if editor.nowButtonId = 2 then { editor with top := none }
  else editor

def userMain28InputFun (editor : Editor) : Click → Editor
  | .enter => editor.rangeEnter
  | _ => editor.rangeToggle

def step (editor : Editor) : EditEvent → Editor
  | .windowFunction window => { editor.windowFunction window with top := some window }
  | .covered => { editor with top := none }
  | .home => { editor with windows := editor.windows.step .home, top := none }
  | .click click =>
      match editor.top with
      | some (.interval schedule) => editor.intervalInputFun schedule click
      | some .range => editor.userMain28InputFun click
      | none => editor
  | .rseSet value => editor.operate (.remindTime value) rfl
  | .rsaSet value => editor.operate (.autoTime value) rfl
  | .rsiSet value => editor.operate (.range value) rfl

def firstBoot (ram : Ram) : Editor where
  windows := Windows.firstBoot ram
  timeRangeTemp := 0
  nowButtonId := 0
  top := none

/-- The settings of the device. -/
def settings (editor : Editor) : Settings := editor.windows.device.ram.settings

end Editor

/-! ## Legal intervals -/

/-- What the interval windows let through under the long range. -/
structure Editable (week day : UInt8) : Prop where
  day_le : day ≤ 6
  some_day : ¬(week = 0 ∧ day = 0)
  week_le : week ≤ 52

structure LegalInterval (timeRange week day : UInt8) : Prop extends Editable week day where
  short : timeRange = 0 → week ≤ 9

def Editor.Legal (editor : Editor) : Prop :=
  ∀ schedule : Schedule,
    LegalInterval editor.settings.timeRange (schedule.week editor.settings) (schedule.day editor.settings)

/-- Days that fill, in the 8 bits of a week count, at least a day, at most the
weeks of a year, and at most nine weeks in the short range. -/
def LegalDays (timeRange : UInt8) (value : UInt32) : Prop :=
  0 < value % 1792 ∧ value % 1792 < 371 ∧ (timeRange = 0 → value % 1792 < 70)

/-- A remote interval is legal for the range in force, and so are the weeks
that a window is about to save. -/
def KeepsLegal (editor : Editor) : EditEvent → Prop
  | .rseSet value => LegalDays editor.settings.timeRange value
  | .rsaSet value => LegalDays editor.settings.timeRange value
  | .click .enter =>
      ∀ schedule, editor.top = some (.interval schedule) → editor.windows.Saves schedule →
        editor.settings.timeRange = 0 → (editor.windows.temps schedule).week ≤ 9
  | _ => True

variable {editor : Editor}

theorem toNat_weeks (value : UInt32) : ((value / 7).toUInt8).toNat = (value % 1792).toNat / 7 := by
  rw [UInt32.toNat_toUInt8, UInt32.toNat_div, UInt32.toNat_mod]
  change value.toNat / 7 % 256 = value.toNat % 1792 / 7
  omega

theorem toNat_days (value : UInt32) : ((value % 7).toUInt8).toNat = (value % 1792).toNat % 7 := by
  rw [UInt32.toNat_toUInt8, UInt32.toNat_mod, UInt32.toNat_mod]
  change value.toNat % 7 % 256 = value.toNat % 1792 % 7
  omega

theorem week_le_iff {value : UInt32} (limit : UInt8) :
    (value / 7).toUInt8 ≤ limit ↔ (value % 1792).toNat < (limit.toNat + 1) * 7 := by
  rw [UInt8.le_iff_toNat_le, toNat_weeks]
  omega

theorem some_day_iff {value : UInt32} :
    ¬((value / 7).toUInt8 = 0 ∧ (value % 7).toUInt8 = 0) ↔ 0 < (value % 1792).toNat := by
  rw [← UInt8.toNat_inj, ← UInt8.toNat_inj, toNat_weeks, toNat_days]
  change ¬((value % 1792).toNat / 7 = 0 ∧ (value % 1792).toNat % 7 = 0) ↔ _
  omega

theorem legalInterval_iff_legalDays {timeRange : UInt8} {value : UInt32} :
    LegalInterval timeRange (value / 7).toUInt8 (value % 7).toUInt8 ↔ LegalDays timeRange value := by
  have days : (value % 7).toUInt8 ≤ 6 := by
    rw [UInt8.le_iff_toNat_le, toNat_days]
    exact Nat.le_of_lt_succ (Nat.mod_lt _ (by decide))
  rw [LegalDays, UInt32.lt_iff_toNat_lt, UInt32.lt_iff_toNat_lt, UInt32.lt_iff_toNat_lt]
  constructor
  · intro legal
    exact ⟨some_day_iff.mp legal.some_day, (week_le_iff 52).mp legal.week_le,
      fun range => (week_le_iff 9).mp (legal.short range)⟩
  · rintro ⟨some, year, short⟩
    exact ⟨⟨days, some_day_iff.mpr some, (week_le_iff 52).mpr year⟩,
      fun range => (week_le_iff 9).mpr (short range)⟩

/-! ## Editing -/

namespace Temps

variable {temps : Temps} {timeRange nowSetting : UInt8}

def Editable (temps : Temps) : Prop := Rtc.Editable temps.week temps.day

theorem weekLimit_le : weekLimit timeRange ≤ 52 := by
  rw [weekLimit]
  split <;> decide

theorem editable_atLeastOneDay (day_le : temps.day ≤ 6) (week_le : temps.week ≤ 52) :
    temps.atLeastOneDay.Editable := by
  rw [atLeastOneDay]
  split
  · have one : ¬(1 : UInt8) = 0 := by decide
    exact ⟨(by decide : (1 : UInt8) ≤ 6), fun none => absurd none.2 one, week_le⟩
  · rename_i some
    exact ⟨day_le, some, week_le⟩

theorem succ_le {value limit : UInt8} (below : ¬limit ≤ value) : value + 1 ≤ limit := by
  rw [UInt8.le_iff_toNat_le] at below ⊢
  rw [UInt8.toNat_add]
  change (value.toNat + 1) % 256 ≤ limit.toNat
  omega

theorem pred_le {value limit : UInt8} (above : ¬value ≤ 0) (bound : value ≤ limit) : value - 1 ≤ limit := by
  rw [UInt8.le_iff_toNat_le] at above bound ⊢
  have one : (1 : UInt8) ≤ value := UInt8.le_iff_toNat_le.mpr (Nat.lt_of_not_le above)
  rw [UInt8.toNat_sub_of_le _ _ one]
  exact (Nat.sub_le _ _).trans bound

theorem Editable.clickUp (editable : temps.Editable) : (temps.clickUp timeRange nowSetting).Editable := by
  rw [Temps.clickUp]
  split
  · refine editable_atLeastOneDay editable.day_le ?_
    dsimp only
    split
    · decide
    · rename_i below
      exact UInt8.le_trans (succ_le below) weekLimit_le
  split
  · refine editable_atLeastOneDay ?_ editable.week_le
    dsimp only
    split
    · decide
    · rename_i below
      exact succ_le below
  split
  · exact editable
  · exact editable

theorem Editable.clickDown (editable : temps.Editable) :
    (temps.clickDown timeRange nowSetting).Editable := by
  rw [Temps.clickDown]
  split
  · refine editable_atLeastOneDay editable.day_le ?_
    dsimp only
    split
    · exact weekLimit_le
    · rename_i above
      exact pred_le above editable.week_le
  split
  · refine editable_atLeastOneDay ?_ editable.week_le
    dsimp only
    split
    · decide
    · rename_i above
      exact pred_le above editable.day_le
  split
  · exact editable
  · exact editable

end Temps

namespace Editor

/-- The store is in order and the window on top edits an interval it may save. -/
structure Sound (editor : Editor) : Prop where
  windows : editor.windows.Sound
  temps : ∀ schedule, editor.top = some (.interval schedule) → (editor.windows.temps schedule).Editable

theorem sound_closed {windows : Windows} {timeRangeTemp nowButtonId : UInt8} (kept : windows.Sound) : Sound { windows, timeRangeTemp, nowButtonId, top := none } :=
  ⟨kept, fun _ open_ => nomatch open_⟩

theorem Sound.operate (sound : editor.Sound) {op : Op} (other : isSave (.operate op) = false) :
    (editor.operate op other).Sound :=
  ⟨sound.windows.step (.clock (.operate op) other), sound.temps⟩

theorem Sound.windowFunction (sound : editor.Sound) (legal : editor.Legal) (window : EditWindow) :
    (editor.step (.windowFunction window)).Sound := by
  cases window with
  | range => exact ⟨sound.windows, fun _ open_ => nomatch open_⟩
  | interval schedule =>
      refine ⟨sound.windows.step (.winFun schedule), fun other open_ => ?_⟩
      cases open_
      have loaded : (editor.step (.windowFunction (.interval schedule))).windows.temps schedule =
          { week := schedule.week editor.settings
            day := schedule.day editor.settings
            enable := schedule.enable editor.settings } := Function.update_self ..
      rw [loaded]
      exact (legal schedule).toEditable

theorem Sound.intervalInputFun (sound : editor.Sound) {schedule : Schedule}
    (open_ : editor.top = some (.interval schedule)) (click : Click) :
    (editor.intervalInputFun schedule click).Sound := by
  refine ⟨sound.windows.step _, fun other still => ?_⟩
  have same : other = schedule := by
    simp only [Editor.intervalInputFun] at still
    split at still
    · cases still
    · rw [open_] at still
      cases still
      rfl
  subst same
  have editable := sound.temps other open_
  cases click with
  | up =>
      have edited : (editor.windows.step (.click other .up)).temps other = _ := Function.update_self ..
      rw [Editor.intervalInputFun, edited]
      exact editable.clickUp
  | down =>
      have edited : (editor.windows.step (.click other .down)).temps other = _ := Function.update_self ..
      rw [Editor.intervalInputFun, edited]
      exact editable.clickDown
  | enter =>
      have kept : (editor.windows.enter other).temps = editor.windows.temps := by
        rw [Windows.enter]
        split
        · rfl
        split
        · rfl
        split
        · rfl
        · rfl
      rw [Editor.intervalInputFun]
      change ((editor.windows.enter other).temps other).Editable
      rw [kept]
      exact editable

/-! ## Setting an interval -/

/-- When one interval is set, legality is a matter of that interval. -/
theorem legal_set_iff {set : Editor} (schedule : Schedule) (legal : editor.Legal)
    (range : set.settings.timeRange = editor.settings.timeRange)
    (apart : ∀ other, other ≠ schedule → other.week set.settings = other.week editor.settings ∧
      other.day set.settings = other.day editor.settings) :
    set.Legal ↔
      LegalInterval editor.settings.timeRange (schedule.week set.settings) (schedule.day set.settings) := by
  constructor
  · intro kept
    rw [← range]
    exact kept schedule
  · intro interval other
    rw [range]
    rcases eq_or_ne other schedule with rfl | different
    · exact interval
    · obtain ⟨week, day⟩ := apart other different
      rw [week, day]
      exact legal other

theorem timeSet_legal_iff (schedule : Schedule) (legal : editor.Legal) (value : UInt32)
    (other : isSave (.operate (schedule.timeSet value)) = false) :
    (editor.operate (schedule.timeSet value) other).Legal ↔ LegalDays editor.settings.timeRange value := by
  rw [← legalInterval_iff_legalDays]
  cases schedule with
  | reminder =>
      refine legal_set_iff .reminder legal rfl fun apart different => ?_
      cases apart with
      | reminder => exact absurd rfl different
      | automatic => exact ⟨rfl, rfl⟩
  | automatic =>
      refine legal_set_iff .automatic legal rfl fun apart different => ?_
      cases apart with
      | reminder => exact ⟨rfl, rfl⟩
      | automatic => exact absurd rfl different

theorem range_interval (schedule : Schedule) (value : UInt32) (device : Device) :
    schedule.week (device.step (.range value)).ram.settings =
        (if value.toUInt8 = 0 ∧ 9 < schedule.week device.ram.settings then 8
        else schedule.week device.ram.settings) ∧
      schedule.day (device.step (.range value)).ram.settings =
        (if value.toUInt8 = 0 ∧ 9 < schedule.week device.ram.settings then 5
        else schedule.day device.ram.settings) ∧
      (device.step (.range value)).ram.settings.timeRange = value.toUInt8 := by
  rw [Device.step, Op.effect, syrRangeSet_clamps]
  cases schedule with
  | reminder => exact ⟨rfl, rfl, rfl⟩
  | automatic => exact ⟨rfl, rfl, rfl⟩

/-- `syr_range_set` clamps what a shorter range would not allow. -/
theorem range_legal (legal : editor.Legal) (value : UInt32) : (editor.operate (.range value) rfl).Legal := by
  intro schedule
  obtain ⟨week, day, range⟩ := range_interval schedule value editor.windows.device
  change LegalInterval (editor.windows.device.step (.range value)).ram.settings.timeRange
    (schedule.week (editor.windows.device.step (.range value)).ram.settings)
    (schedule.day (editor.windows.device.step (.range value)).ram.settings)
  rw [week, day, range]
  split
  · exact ⟨⟨by decide, by decide, by decide⟩, fun _ => by decide⟩
  · rename_i unclamped
    refine ⟨(legal schedule).toEditable, fun zero => ?_⟩
    rw [← UInt8.not_lt]
    exact fun long => unclamped ⟨zero, long⟩

theorem save_settings {temps : Temps} {device : Device} (schedule : Schedule)
    (stored : Stored schedule device) (saves : temps.enable ≠ 2) :
    schedule.week (device.step (schedule.save temps)).ram.settings = temps.week ∧
      schedule.day (device.step (schedule.save temps)).ram.settings = temps.day ∧
      (device.step (schedule.save temps)).ram.settings.timeRange = device.ram.settings.timeRange ∧
      ∀ other, other ≠ schedule →
        other.week (device.step (schedule.save temps)).ram.settings = other.week device.ram.settings ∧
          other.day (device.step (schedule.save temps)).ram.settings = other.day device.ram.settings := by
  rw [save_eq stored saves]
  cases schedule with
  | reminder =>
      refine ⟨rfl, rfl, rfl, fun other different => ?_⟩
      cases other with
      | reminder => exact absurd rfl different
      | automatic => exact ⟨rfl, rfl⟩
  | automatic =>
      refine ⟨rfl, rfl, rfl, fun other different => ?_⟩
      cases other with
      | reminder => exact ⟨rfl, rfl⟩
      | automatic => exact absurd rfl different

theorem enter_device_of_saves {windows : Windows} {schedule : Schedule} (saves : windows.Saves schedule) :
    (windows.enter schedule).device = windows.device.step (schedule.save (windows.temps schedule)) := by
  obtain ⟨lastRow, notExit⟩ := saves
  have notEarlier : ¬(windows.nowSetting = 0 ∨ windows.nowSetting = 1) := by
    rw [lastRow]
    decide
  rw [Windows.enter, if_neg notExit, if_neg notEarlier, if_pos lastRow]

theorem enter_device_of_not_saves {windows : Windows} {schedule : Schedule}
    (stays : ¬windows.Saves schedule) : (windows.enter schedule).device = windows.device := by
  rw [Windows.enter]
  split
  · rfl
  split
  · rfl
  split
  · rename_i notExit _ lastRow
    exact absurd ⟨lastRow, notExit⟩ stays
  · rfl

theorem enter_legal_iff (sound : editor.Sound) (legal : editor.Legal) {schedule : Schedule}
    (open_ : editor.top = some (.interval schedule)) :
    (editor.intervalInputFun schedule .enter).Legal ↔
      (editor.windows.Saves schedule → editor.settings.timeRange = 0 →
        (editor.windows.temps schedule).week ≤ 9) := by
  by_cases saves : editor.windows.Saves schedule
  · obtain ⟨week, day, range, apart⟩ :=
      save_settings schedule (sound.windows.booted.stored schedule) saves.2
    have device := enter_device_of_saves saves
    have settings : (editor.intervalInputFun schedule .enter).settings =
        (editor.windows.device.step (schedule.save (editor.windows.temps schedule))).ram.settings :=
      congrArg (fun device => device.ram.settings) device
    rw [← settings] at week day range apart
    rw [legal_set_iff schedule legal range apart, week, day]
    exact ⟨fun interval _ => interval.short, fun short => ⟨sound.temps schedule open_, short saves⟩⟩
  · have device := enter_device_of_not_saves saves
    have settings : (editor.intervalInputFun schedule .enter).settings = editor.settings :=
      congrArg (fun device => device.ram.settings) device
    refine iff_of_true (fun other => ?_) fun saving => absurd saving saves
    rw [settings]
    exact legal other

/-! ## Runs -/

theorem rangeToggle_same (editor : Editor) :
    editor.rangeToggle.windows = editor.windows ∧ editor.rangeToggle.top = editor.top := by
  rw [rangeToggle]
  split
  · exact ⟨rfl, rfl⟩
  split
  · exact ⟨rfl, rfl⟩
  split
  · exact ⟨rfl, rfl⟩
  · exact ⟨rfl, rfl⟩

theorem Sound.step (sound : editor.Sound) (legal : editor.Legal) (event : EditEvent) :
    (editor.step event).Sound := by
  cases event with
  | windowFunction window => exact sound.windowFunction legal window
  | covered => exact sound_closed sound.windows
  | home => exact sound_closed (sound.windows.step .home)
  | click click =>
      rw [Editor.step]
      split
      · rename_i schedule open_
        exact sound.intervalInputFun open_ click
      · have toggled : editor.rangeToggle.Sound := by
          obtain ⟨windows, top⟩ := rangeToggle_same editor
          refine ⟨windows ▸ sound.windows, ?_⟩
          rw [windows, top]
          exact sound.temps
        cases click with
        | up => exact toggled
        | down => exact toggled
        | enter =>
            rw [userMain28InputFun, rangeEnter]
            split
            · exact ⟨sound.windows, sound.temps⟩
            split
            · exact sound_closed (sound.operate rfl).windows
            split
            · exact sound_closed sound.windows
            · exact sound
      · exact sound
  | rseSet value => exact sound.operate rfl
  | rsaSet value => exact sound.operate rfl
  | rsiSet value => exact sound.operate rfl

theorem step_legal_iff (sound : editor.Sound) (legal : editor.Legal) (event : EditEvent) :
    (editor.step event).Legal ↔ KeepsLegal editor event := by
  cases event with
  | windowFunction window =>
      cases window with
      | interval schedule => exact iff_of_true legal trivial
      | range => exact iff_of_true legal trivial
  | covered => exact iff_of_true legal trivial
  | home => exact iff_of_true legal trivial
  | click click =>
      rw [step]
      split
      · rename_i schedule open_
        cases click with
        | up => exact iff_of_true legal trivial
        | down => exact iff_of_true legal trivial
        | enter =>
            refine (enter_legal_iff sound legal open_).trans ?_
            constructor
            · intro short other still
              rw [open_] at still
              cases still
              exact short
            · exact fun short => short schedule open_
      · rename_i open_
        have toggled : editor.rangeToggle.Legal := by
          rw [Legal, settings, (rangeToggle_same editor).1]
          exact legal
        cases click with
        | up => exact iff_of_true toggled trivial
        | down => exact iff_of_true toggled trivial
        | enter =>
            have free : KeepsLegal editor (.click .enter) := by
              intro schedule still
              rw [open_] at still
              cases still
            refine iff_of_true ?_ free
            rw [userMain28InputFun, rangeEnter]
            split
            · exact legal
            split
            · exact range_legal legal _
            split
            · exact legal
            · exact legal
      · rename_i closed
        cases click with
        | up => exact iff_of_true legal trivial
        | down => exact iff_of_true legal trivial
        | enter =>
            refine iff_of_true legal fun schedule still => ?_
            rw [closed] at still
            cases still
  | rseSet value => exact timeSet_legal_iff .reminder legal value rfl
  | rsaSet value => exact timeSet_legal_iff .automatic legal value rfl
  | rsiSet value => exact iff_of_true (range_legal legal value) trivial

theorem firstBoot_legal (ram : Ram) : (firstBoot ram).Legal := by
  intro schedule
  cases schedule with
  | reminder =>
      have legal : LegalInterval 0 0 1 := ⟨⟨by decide, by decide, by decide⟩, fun _ => by decide⟩
      exact legal
  | automatic =>
      have legal : LegalInterval 0 8 5 := ⟨⟨by decide, by decide, by decide⟩, fun _ => by decide⟩
      exact legal

end Editor

/-- From first boot, both intervals are legal throughout a run exactly when
every remote interval is legal for the range of its moment and no window saves
more than nine weeks after the range has become the short one. -/
theorem intervals_legal_iff (ram : Ram) (events : List EditEvent) :
    Throughout Editor.step Editor.Legal (Editor.firstBoot ram) events ↔
      EachStep Editor.step KeepsLegal (Editor.firstBoot ram) events := by
  have sound : (Editor.firstBoot ram).Sound := Editor.sound_closed (Windows.firstBoot_sound ram)
  apply throughout_iff_eachStep Editor.Sound sound (Editor.firstBoot_legal ram)
  · exact fun _ event kept legal _ => kept.step legal event
  · exact fun _ event kept legal => Editor.step_legal_iff kept legal event

/-- A remote interval of no days. -/
theorem no_days_illegal :
    ¬Throughout Editor.step Editor.Legal (Editor.firstBoot blankRam) [.rsaSet 0] := by
  intro legal
  have zero := (legal 1 .automatic).some_day
  revert zero
  decide +kernel

end SyrFilter.Rtc
