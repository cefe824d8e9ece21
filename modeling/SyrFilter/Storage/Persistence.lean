import SyrFilter.Lib.Runs
import SyrFilter.Storage.Settings

namespace SyrFilter.Storage

open SyrFilter.Lib

/-! # Settings across a reboot

A device is synced when `Flash2Mem` would load the settings it already holds.
Most operations write the key of the setting they change.  Seven were left
behind when entries of `Key_list` moved, and write the key of another setting
or none at all.
-/

/-- `Flash2Mem` would change no setting. -/
def Device.Synced (device : Device) : Prop :=
  (flash2Mem device.flash device.ram).settings = device.ram.settings

/-- The keys of the settings that an operation is about. -/
def Op.about : Op → List Key
  | .moto _ | .wifiApEnable _ => []
  | .backwashtime _ => [.settingBackwashtime]
  | .tdslimit _ => [.settingHardness]
  | .tdscalib _ => [.tdsCnd]
  | .range _ => [.timeRange, .automaticWeek, .automaticDay, .reminderWeek, .reminderDay]
  | .remindTime _ => [.reminderWeek, .reminderDay]
  | .autoTime _ => [.automaticWeek, .automaticDay]
  | .switchRemind _ => [.reminderEnable]
  | .switchAuto _ => [.automaticEnable]
  | .switchDelta _ | .deltaSave _ => [.deltapressEnable]
  | .language _ => [.settingLanguage]
  | .countManual _ | .manualReset => [.counterManual]
  | .manualBackwash => [.counterManual, .rtcReminderTime, .rtcAutomaticTime]
  | .countAuto _ | .automaticReset | .automaticBackwash => [.counterAutomatic]
  | .countDelta _ | .deltaReset | .deltaBackwash => [.counterDeltapress]
  | .countError _ | .errorReset | .errorCounted => [.counterError]
  | .telemetryInterval _ => [.telemetryInterval]
  | .apTimeout _ => [.apTimeout]
  | .reportInterval _ => [.reportInterval]
  | .telemetryTimeout _ => [.telemetryTimeout]
  | .power _ => [.batState]
  | .reminderSave _ _ _ => [.reminderWeek, .reminderDay, .reminderEnable]
  | .automaticSave _ _ _ => [.automaticWeek, .automaticDay, .automaticEnable]

/-- Every `Flash_Set` of the operation names an entry of `Key_list`, and only the
settings the operation is about change in flash. -/
def Device.WritesOwnKeys (device : Device) (op : Op) : Prop :=
  (∀ id value, Action.flashSet id value ∈ (op.effect device.ram).2 → id < keyList.length) ∧
    ∀ key, key ∉ op.about → (device.step op).flash key = device.flash key

/-- The operations whose `Flash_Set` carries an outdated key id. -/
def Op.misaddressed : Op → Bool
  | .tdscalib _ | .range _ | .telemetryInterval _ | .telemetryTimeout _ => true
  | .apTimeout _ | .reportInterval _ | .power _ => true
  | _ => false

/-- A misaddressed operation does no harm when it rewrites what its own setting
and the one it hits already hold. -/
def Device.AddressesOwnKeys (device : Device) : Op → Prop
  | .tdscalib value =>
      device.ram.settings.tdsCndValue = (Ram.tdscalibValue value).toUInt8 ∧
        device.ram.settings.telemetryTimeout = (Ram.tdscalibValue value).toUInt8.toUInt32
  | .range value =>
      device.ram.settings.timeRange = value.toUInt8 ∧
        device.ram.settings.telemetryInterval = value.toUInt8.toUInt32
  | .telemetryInterval value =>
      device.ram.settings.telemetryInterval = value ∧ device.ram.settings.apTimeout = value
  | .telemetryTimeout value =>
      device.ram.settings.telemetryTimeout = value ∧ device.ram.settings.reportInterval = value
  | .apTimeout _ | .reportInterval _ => False
  | .power value => device.ram.settings.lowVoltageFlag = value
  | _ => True

/-! ## Effects that store what they set -/

/-- Every `Flash_Set` among the calls names one of the listed keys. -/
def WritesWithin (actions : List Action) (about : List Key) : Prop :=
  ∀ id value, Action.flashSet id value ∈ actions → ∃ key ∈ about, keyList[id]? = some key

/-- The calls bring the flash in line with the RAM the effect leaves, touching
only the listed keys. -/
structure Stores (ram : Ram) (effect : Effect) (about : List Key) : Prop where
  loads : ∀ flash, loadSettings flash = ram.settings →
    loadSettings (applyWrites flash effect.2) = effect.1.settings
  within : WritesWithin effect.2 about

theorem applyWrites_append (flash : Flash) (first second : List Action) :
    applyWrites flash (first ++ second) = applyWrites (applyWrites flash first) second :=
  List.foldl_append

theorem WritesWithin.append {first second : List Action} {about : List Key}
    (left : WritesWithin first about) (right : WritesWithin second about) :
    WritesWithin (first ++ second) about := by
  intro id value member
  rcases List.mem_append.mp member with inFirst | inSecond
  · exact left id value inFirst
  · exact right id value inSecond

theorem WritesWithin.mono {actions : List Action} {about wider : List Key}
    (within : WritesWithin actions about) (included : about ⊆ wider) :
    WritesWithin actions wider := by
  intro id value member
  obtain ⟨key, listed, found⟩ := within id value member
  exact ⟨key, included listed, found⟩

theorem WritesWithin.known {actions : List Action} {about : List Key} {id : Nat} {value : UInt32}
    (within : WritesWithin actions about) (member : .flashSet id value ∈ actions) :
    id < keyList.length := by
  obtain ⟨key, _, found⟩ := within id value member
  exact (List.getElem?_eq_some_iff.mp found).1

theorem WritesWithin.keeps {actions : List Action} {about : List Key} {key : Key}
    (within : WritesWithin actions about) (other : key ∉ about) (flash : Flash) :
    applyWrites flash actions key = flash key := by
  induction actions generalizing flash with
  | nil => rfl
  | cons action rest ih =>
      have restWithin : WritesWithin rest about :=
        fun id value member => within id value (List.mem_cons_of_mem action member)
      refine (ih restWithin _).trans ?_
      cases action with
      | flashSet id value =>
          obtain ⟨written, listed, found⟩ := within id value List.mem_cons_self
          have different : key ≠ written := fun same => other (same ▸ listed)
          simp only [flashSet, found, Function.update_of_ne different]
      | _ => rfl

theorem Stores.append {ram middle after : Ram} {first second : List Action} {about : List Key}
    (left : Stores ram (middle, first) about) (right : Stores middle (after, second) about) :
    Stores ram (after, first ++ second) about := by
  refine ⟨fun flash synced => ?_, left.within.append right.within⟩
  rw [applyWrites_append]
  exact right.loads _ (left.loads flash synced)

theorem Stores.mono {ram : Ram} {effect : Effect} {about wider : List Key}
    (stores : Stores ram effect about) (included : about ⊆ wider) : Stores ram effect wider :=
  ⟨stores.loads, stores.within.mono included⟩

theorem Stores.none (ram : Ram) (about : List Key) : Stores ram (ram, []) about :=
  ⟨fun _ synced => synced, fun _ _ member => absurd member List.not_mem_nil⟩

theorem Stores.calls {ram after : Ram} {actions extra : List Action} {about : List Key}
    (stores : Stores ram (after, actions) about)
    (quiet : ∀ id value, Action.flashSet id value ∉ extra) :
    Stores ram (after, actions ++ extra) about := by
  have none : WritesWithin extra [] := fun id value member => absurd member (quiet id value)
  refine ⟨fun flash synced => ?_, stores.within.append (none.mono (List.nil_subset about))⟩
  rw [applyWrites_append]
  have kept : applyWrites (applyWrites flash actions) extra = applyWrites flash actions :=
    funext fun key => none.keeps List.not_mem_nil _
  rw [kept]
  exact stores.loads flash synced

theorem Stores.guarded {ram : Ram} {effect : Effect} {about : List Key} {condition : Prop}
    [Decidable condition] (stores : Stores ram effect about) :
    Stores ram (if condition then effect else (ram, [])) about := by
  split
  · exact stores
  · exact Stores.none ram about

namespace Ram

variable (ram : Ram)

theorem clampAutomatic_stores : Stores ram ram.clampAutomatic [.automaticWeek, .automaticDay] := by
  refine Stores.guarded ⟨fun flash synced => ?_, ?_⟩
  · simp [← synced, applyWrites, loadSettings]
  · simp [WritesWithin, or_imp, forall_and, keyList]

theorem clampReminder_stores : Stores ram ram.clampReminder [.reminderWeek, .reminderDay] := by
  refine Stores.guarded ⟨fun flash synced => ?_, ?_⟩
  · simp [← synced, applyWrites, loadSettings]
  · simp [WritesWithin, or_imp, forall_and, keyList]

theorem clamps_keep : ram.clampAutomatic.1.clampReminder.1.settings.timeRange = ram.settings.timeRange ∧
    ram.clampAutomatic.1.clampReminder.1.settings.telemetryInterval = ram.settings.telemetryInterval := by
  rw [clampReminder]
  split <;> unfold clampAutomatic <;> split <;> exact ⟨rfl, rfl⟩

theorem clamps_stores :
    Stores ram (ram.clampAutomatic.1.clampReminder.1,
        ram.clampAutomatic.2 ++ ram.clampAutomatic.1.clampReminder.2)
      [.automaticWeek, .automaticDay, .reminderWeek, .reminderDay] := by
  have automatic := ram.clampAutomatic_stores
  have reminder := ram.clampAutomatic.1.clampReminder_stores
  exact (automatic.mono (by simp)).append (reminder.mono (by simp))

theorem reminderInterval_stores (week day : UInt8) :
    Stores ram (ram.reminderInterval week day) [.reminderWeek, .reminderDay] := by
  refine Stores.guarded ⟨fun flash synced => ?_, ?_⟩
  · simp [← synced, applyWrites, loadSettings]
  · simp [WritesWithin, or_imp, forall_and, keyList]

theorem reminderSwitch_stores (enable : UInt8) :
    Stores ram (ram.reminderSwitch enable) [.reminderEnable] := by
  refine Stores.guarded ⟨fun flash synced => ?_, ?_⟩
  · simp [← synced, applyWrites, loadSettings]
  · simp [WritesWithin, keyList]

theorem automaticInterval_stores (week day : UInt8) :
    Stores ram (ram.automaticInterval week day) [.automaticWeek, .automaticDay] := by
  refine Stores.guarded ⟨fun flash synced => ?_, ?_⟩
  · simp [← synced, applyWrites, loadSettings]
  · simp [WritesWithin, or_imp, forall_and, keyList]

theorem automaticSwitch_stores (enable : UInt8) :
    Stores ram (ram.automaticSwitch enable) [.automaticEnable] := by
  refine Stores.guarded ⟨fun flash synced => ?_, ?_⟩
  · simp [← synced, applyWrites, loadSettings]
  · simp [WritesWithin, keyList]

theorem save_stores {interval switch report : List Action} {middle after : Ram}
    {week day enable : Key} (first : Stores ram (middle, interval) [week, day])
    (second : Stores middle (after, switch) [enable])
    (quiet : ∀ id value, Action.flashSet id value ∉ report) :
    Stores ram (after, interval ++ switch ++ report) [week, day, enable] := by
  have widened : Stores ram (middle, interval) [week, day, enable] := first.mono (by simp)
  have widenedSwitch : Stores middle (after, switch) [week, day, enable] := second.mono (by simp)
  exact (widened.append widenedSwitch).calls quiet

theorem userMain4Save_stores (week day enable : UInt8) :
    Stores ram (ram.userMain4Save week day enable)
      [.reminderWeek, .reminderDay, .reminderEnable] := by
  rw [userMain4Save]
  split
  · exact Stores.none ram _
  · exact ram.save_stores (ram.reminderInterval_stores week day)
      (reminderSwitch_stores _ enable) (by simp)

theorem userMain5Save_stores (week day enable : UInt8) :
    Stores ram (ram.userMain5Save week day enable)
      [.automaticWeek, .automaticDay, .automaticEnable] := by
  rw [userMain5Save]
  split
  · exact Stores.none ram _
  · exact ram.save_stores (ram.automaticInterval_stores week day)
      (automaticSwitch_stores _ enable) (by simp)

theorem userMain6Save_stores (enable : UInt8) :
    Stores ram (ram.userMain6Save enable) [.deltapressEnable] := by
  refine Stores.guarded ⟨fun flash synced => ?_, ?_⟩
  · simp [← synced, applyWrites, loadSettings]
  · simp [WritesWithin, keyList]

theorem syrRemindTimeSet_stores (value : UInt32) :
    Stores ram (ram.syrRemindTimeSet value) [.reminderWeek, .reminderDay] := by
  rw [syrRemindTimeSet]
  generalize (value / 7).toUInt8 = week, (value % 7).toUInt8 = day
  refine ⟨fun flash synced => ?_, ?_⟩
  · simp [← synced, applyWrites, loadSettings]
  · simp [WritesWithin, or_imp, forall_and, keyList]

theorem syrAutoTimeSet_stores (value : UInt32) :
    Stores ram (ram.syrAutoTimeSet value) [.automaticWeek, .automaticDay] := by
  rw [syrAutoTimeSet]
  generalize (value / 7).toUInt8 = week, (value % 7).toUInt8 = day
  refine ⟨fun flash synced => ?_, ?_⟩
  · simp [← synced, applyWrites, loadSettings]
  · simp [WritesWithin, or_imp, forall_and, keyList]

theorem syrMotoSet_stores (reachesCycle : Bool) : Stores ram (ram.syrMotoSet reachesCycle) [] :=
  Stores.guarded ⟨fun _ synced => synced, by simp [WritesWithin]⟩

theorem effect_stores {op : Op} (addressed : op.misaddressed = false) :
    Stores ram (op.effect ram) op.about := by
  cases op with
  | tdscalib | range | telemetryInterval | telemetryTimeout => contradiction
  | apTimeout | reportInterval | power => contradiction
  | moto reachesCycle => exact ram.syrMotoSet_stores reachesCycle
  | remindTime value => exact ram.syrRemindTimeSet_stores value
  | autoTime value => exact ram.syrAutoTimeSet_stores value
  | reminderSave week day enable => exact ram.userMain4Save_stores week day enable
  | automaticSave week day enable => exact ram.userMain5Save_stores week day enable
  | deltaSave enable => exact ram.userMain6Save_stores enable
  -- The rest write one value each, or a fixed few, without a branch.
  | backwashtime | tdslimit | switchRemind | switchAuto | switchDelta | language | wifiApEnable =>
      refine ⟨fun flash synced => ?_, ?_⟩
      · simp [Op.effect, syrBackwashtimeSet, syrTdslimitSet, syrSwitchRemindSet, syrSwitchAutoSet,
          syrSwitchDeltaSet, syrLanguageSet, syrWifiApEnableSet, ← synced, applyWrites, loadSettings]
      · simp [Op.effect, syrBackwashtimeSet, syrTdslimitSet, syrSwitchRemindSet, syrSwitchAutoSet,
          syrSwitchDeltaSet, syrLanguageSet, syrWifiApEnableSet, Op.about, WritesWithin, keyList]
  | countManual | countAuto | countDelta | countError =>
      refine ⟨fun flash synced => ?_, ?_⟩
      · simp [Op.effect, syrCountManualSet, syrCountAutoSet, syrCountDeltaSet, syrCountErrorSet,
          ← synced, applyWrites, loadSettings]
      · simp [Op.effect, syrCountManualSet, syrCountAutoSet, syrCountDeltaSet, syrCountErrorSet,
          Op.about, WritesWithin, keyList]
  | manualReset | automaticReset | deltaReset | errorReset =>
      refine ⟨fun flash synced => ?_, ?_⟩
      · simp [Op.effect, userMain9Reset, userMain10Reset, userMain11Reset, userMain12Reset,
          ← synced, applyWrites, loadSettings]
      · simp [Op.effect, userMain9Reset, userMain10Reset, userMain11Reset, userMain12Reset,
          Op.about, WritesWithin, keyList]
  | manualBackwash | automaticBackwash | deltaBackwash | errorCounted =>
      refine ⟨fun flash synced => ?_, ?_⟩
      · simp [Op.effect, userMain2Backwash, jumptoAutomatic, jumptoDelta, Ram.countError,
          ← synced, applyWrites, loadSettings]
      · simp [Op.effect, userMain2Backwash, jumptoAutomatic, jumptoDelta, Ram.countError,
          Op.about, WritesWithin, or_imp, forall_and, keyList]

end Ram

/-! ## One step -/

/-- The settings with the range that `syr_range_set` is given. -/
def Ram.withRange (ram : Ram) (value : UInt32) : Ram :=
  { ram with settings := { ram.settings with timeRange := value.toUInt8 } }

namespace Device

variable {device : Device}

theorem synced_iff : device.Synced ↔ loadSettings device.flash = device.ram.settings := Iff.rfl

theorem step_of_stores {op : Op} (synced : device.Synced)
    (stores : Stores device.ram (op.effect device.ram) op.about) :
    (device.step op).Synced ∧ device.WritesOwnKeys op := by
  refine ⟨stores.loads device.flash synced, fun id value member => stores.within.known member, ?_⟩
  exact fun key other => stores.within.keeps other device.flash

theorem step_of_unchanged {op : Op} (synced : device.Synced)
    (flash : (device.step op).flash = device.flash)
    (settings : (device.step op).ram.settings = device.ram.settings)
    (known : ∀ id value, Action.flashSet id value ∈ (op.effect device.ram).2 →
      id < keyList.length) :
    (device.step op).Synced ∧ device.WritesOwnKeys op := by
  refine ⟨?_, known, fun key _ => by rw [flash]⟩
  rw [synced_iff, flash, settings]
  exact synced

theorem step_misplaced {op : Op} {own hit : Prop} (id : Nat) (value : UInt32)
    (synced : device.Synced) (known : ∀ other written,
      Action.flashSet other written ∈ (op.effect device.ram).2 → other < keyList.length)
    (writes : (device.step op).flash = flashSet device.flash id value)
    (settings : own → (device.step op).ram.settings = device.ram.settings)
    (read : hit → flashGet device.flash id = value)
    (seen : loadSettings (flashSet device.flash id value) = (device.step op).ram.settings →
      own ∧ hit) :
    (device.step op).Synced ∧ device.WritesOwnKeys op ↔ own ∧ hit := by
  constructor
  · intro holds
    have kept := synced_iff.mp holds.1
    rw [writes] at kept
    exact seen kept
  · intro holds
    have unchanged : (device.step op).flash = device.flash :=
      writes.trans (flashSet_of_flashGet (read holds.2))
    exact step_of_unchanged synced unchanged (settings holds.1) known

theorem step_tdscalib (synced : device.Synced) (value : UInt16) :
    (device.step (.tdscalib value)).Synced ∧ device.WritesOwnKeys (.tdscalib value) ↔
      device.AddressesOwnKeys (.tdscalib value) := by
  have loaded := synced_iff.mp synced
  refine step_misplaced 21 _ synced ?known rfl ?settings ?read ?seen
  case known => simp [Op.effect, Ram.syrTdscalibSet, keyList]
  case settings =>
    intro own
    simp only [step, Op.effect, Ram.syrTdscalibSet, ← own]
  case read =>
    intro hit
    rw [← hit, ← loaded]
    rfl
  case seen =>
    intro kept
    have own := congrArg Settings.tdsCndValue kept
    have hit := congrArg Settings.telemetryTimeout kept
    simp [step, Op.effect, Ram.syrTdscalibSet, loadSettings] at own hit
    exact ⟨by rw [← loaded]; exact own, hit.symm⟩

theorem step_telemetryInterval (synced : device.Synced) (value : UInt32) :
    (device.step (.telemetryInterval value)).Synced ∧
        device.WritesOwnKeys (.telemetryInterval value) ↔
      device.AddressesOwnKeys (.telemetryInterval value) := by
  have loaded := synced_iff.mp synced
  refine step_misplaced 24 _ synced ?known rfl ?settings ?read ?seen
  case known => simp [Op.effect, Ram.syrTelemetryIntervalSet, keyList]
  case settings =>
    intro own
    simp only [step, Op.effect, Ram.syrTelemetryIntervalSet, ← own]
  case read =>
    intro hit
    rw [← hit, ← loaded]
    rfl
  case seen =>
    intro kept
    have own := congrArg Settings.telemetryInterval kept
    have hit := congrArg Settings.apTimeout kept
    simp [step, Op.effect, Ram.syrTelemetryIntervalSet, loadSettings] at own hit
    exact ⟨by rw [← loaded]; exact own, hit.symm⟩

theorem step_telemetryTimeout (synced : device.Synced) (value : UInt32) :
    (device.step (.telemetryTimeout value)).Synced ∧
        device.WritesOwnKeys (.telemetryTimeout value) ↔
      device.AddressesOwnKeys (.telemetryTimeout value) := by
  have loaded := synced_iff.mp synced
  refine step_misplaced 23 _ synced ?known rfl ?settings ?read ?seen
  case known => simp [Op.effect, Ram.syrTelemetryTimeoutSet, keyList]
  case settings =>
    intro own
    simp only [step, Op.effect, Ram.syrTelemetryTimeoutSet, ← own]
  case read =>
    intro hit
    rw [← hit, ← loaded]
    rfl
  case seen =>
    intro kept
    have own := congrArg Settings.telemetryTimeout kept
    have hit := congrArg Settings.reportInterval kept
    simp [step, Op.effect, Ram.syrTelemetryTimeoutSet, loadSettings] at own hit
    exact ⟨by rw [← loaded]; exact own, hit.symm⟩

theorem step_power (synced : device.Synced) (value : UInt8) :
    (device.step (.power value)).Synced ∧ device.WritesOwnKeys (.power value) ↔
      device.AddressesOwnKeys (.power value) := by
  have loaded := synced_iff.mp synced
  by_cases same : device.ram.settings.lowVoltageFlag = value
  · have nothing : Op.effect device.ram (.power value) = (device.ram, []) :=
      if_neg (not_not_intro same.symm)
    refine iff_of_true (step_of_unchanged synced ?_ ?_ ?_) same
    · simp only [step, nothing, applyWrites, List.foldl_nil]
    · simp only [step, nothing]
    · simp [nothing]
  · have changed : Op.effect device.ram (.power value) =
        ({ device.ram with settings := { device.ram.settings with lowVoltageFlag := value } },
          [.flashSet 19 value.toUInt32, .deviceInfoPut "sup" value.toUInt32]) :=
      if_pos (Ne.symm same)
    refine iff_of_false (fun holds => same ?_) same
    have kept := congrArg Settings.lowVoltageFlag holds.1
    simp [step, changed, applyWrites, flash2Mem, loadSettings] at kept
    rw [← loaded]
    exact kept

theorem not_writesOwnKeys {op : Op} (id : Nat) (value : UInt32)
    (member : .flashSet id value ∈ (op.effect device.ram).2) (unknown : keyList.length ≤ id) :
    ¬device.WritesOwnKeys op :=
  fun holds => absurd (holds.1 id value member) (Nat.not_lt.mpr unknown)

theorem flash_range (value : UInt32) :
    (device.step (.range value)).flash =
      applyWrites (flashSet device.flash 22 value.toUInt8.toUInt32)
        ((device.ram.withRange value).clampAutomatic.2 ++
          (device.ram.withRange value).clampAutomatic.1.clampReminder.2) := by
  simp only [step, Op.effect, Ram.syrRangeSet, List.append_assoc, List.cons_append]
  rfl

/-- The clamps leave both keys alone, so each field is read off the stray write. -/
theorem addressesOwnKeys_of_range {value : UInt32} (synced : device.Synced)
    (kept : (device.step (.range value)).Synced) : device.AddressesOwnKeys (.range value) := by
  have loaded := synced_iff.mp synced
  have reloaded := synced_iff.mp kept
  rw [flash_range] at reloaded
  have clamps := (device.ram.withRange value).clamps_stores
  obtain ⟨sameRange, sameInterval⟩ := (device.ram.withRange value).clamps_keep
  have own := congrArg Settings.timeRange reloaded
  have hit := congrArg Settings.telemetryInterval reloaded
  have rangeKey := clamps.within.keeps (by decide : Key.timeRange ∉ _)
  have intervalKey := clamps.within.keeps (by decide : Key.telemetryInterval ∉ _)
  simp only [loadSettings, flashGet, keyList, List.getElem?_cons_succ, List.getElem?_cons_zero,
    rangeKey, intervalKey] at own hit
  refine ⟨?_, ?_⟩
  · rw [← loaded]
    exact own.trans sameRange
  · exact (hit.trans sameInterval).symm

theorem step_range_of_addressesOwnKeys {value : UInt32} (synced : device.Synced)
    (addresses : device.AddressesOwnKeys (.range value)) :
    (device.step (.range value)).Synced ∧ device.WritesOwnKeys (.range value) := by
  obtain ⟨own, hit⟩ := addresses
  have loaded := synced_iff.mp synced
  have clamps := (device.ram.withRange value).clamps_stores
  have held : flashGet device.flash 22 = value.toUInt8.toUInt32 := by
    rw [← hit, ← loaded]
    rfl
  have flash := @flash_range device value
  rw [flashSet_of_flashGet held] at flash
  have sameSettings : loadSettings device.flash = (device.ram.withRange value).settings := by
    rw [loaded]
    simp only [Ram.withRange, ← own]
  refine ⟨?_, fun id written member => ?_, fun key other => ?_⟩
  · rw [synced_iff, flash]
    exact clamps.loads device.flash sameSettings
  · simp only [Op.effect, Ram.syrRangeSet, List.cons_append, List.nil_append, List.mem_cons] at member
    rcases member with stray | report | clamp
    · cases stray
      decide
    · cases report
    · exact clamps.within.known clamp
  · rw [flash]
    have outside : key ∉ [Key.automaticWeek, .automaticDay, .reminderWeek, .reminderDay] :=
      fun listed => other (List.mem_cons_of_mem _ listed)
    exact clamps.within.keeps outside device.flash

theorem step_range (synced : device.Synced) (value : UInt32) :
    (device.step (.range value)).Synced ∧ device.WritesOwnKeys (.range value) ↔
      device.AddressesOwnKeys (.range value) :=
  ⟨fun holds => addressesOwnKeys_of_range synced holds.1, step_range_of_addressesOwnKeys synced⟩

theorem step_exact (synced : device.Synced) (op : Op) :
    (device.step op).Synced ∧ device.WritesOwnKeys op ↔ device.AddressesOwnKeys op := by
  cases op with
  | tdscalib value => exact step_tdscalib synced value
  | range value => exact step_range synced value
  | telemetryInterval value => exact step_telemetryInterval synced value
  | telemetryTimeout value => exact step_telemetryTimeout synced value
  | power value => exact step_power synced value
  | apTimeout value =>
      have stray : ¬device.WritesOwnKeys (.apTimeout value) :=
        not_writesOwnKeys 26 value (by simp [Op.effect, Ram.syrApTimeoutSet]) (by decide)
      exact iff_of_false (fun holds => stray holds.2) id
  | reportInterval value =>
      have stray : ¬device.WritesOwnKeys (.reportInterval value) :=
        not_writesOwnKeys 25 value (by simp [Op.effect, Ram.syrReportIntervalSet]) (by decide)
      exact iff_of_false (fun holds => stray holds.2) id
  | _ => exact iff_of_true (step_of_stores synced (device.ram.effect_stores rfl)) trivial

end Device

/-! ## Whole runs -/

theorem flashInit_synced (flash : Flash) (ram : Ram) : (flashInit flash ram).Synced := rfl

/-- From any boot, through any operations, the settings survive a reboot and
every write keeps to its own key exactly when every misaddressed operation
rewrites what is there already. -/
theorem settings_survive_iff_steps_address_own_keys (flash : Flash) (ram : Ram) (ops : List Op) :
    Throughout Device.step Device.Synced (flashInit flash ram) ops ∧
        EachStep Device.step Device.WritesOwnKeys (flashInit flash ram) ops ↔
      EachStep Device.step Device.AddressesOwnKeys (flashInit flash ram) ops := by
  refine throughout_and_eachStep_iff (fun _ => True) trivial (flashInit_synced flash ram) ?_ ?_
  · exact fun _ _ _ _ _ => trivial
  · exact fun _ op _ synced => Device.step_exact synced op

/-- The calibration factor set to 25 on a factory-new device is stored as the
telemetry timeout; the next boot loads the default 19 again. -/
theorem calibration_lost_after_reboot :
    ¬(Throughout Device.step Device.Synced (flashInit (fun _ => 0) ⟨loadSettings fun _ => 0, 0, 0, 0⟩)
          [.tdscalib 25] ∧
        EachStep Device.step Device.WritesOwnKeys
          (flashInit (fun _ => 0) ⟨loadSettings fun _ => 0, 0, 0, 0⟩) [.tdscalib 25]) := by
  intro holds
  have reloaded := congrArg Settings.tdsCndValue (holds.1 1)
  exact absurd reloaded (by decide)

end SyrFilter.Storage
