import SyrFilter.Telemetry.Alarm
import SyrFilter.Telemetry.Supply

namespace SyrFilter.Telemetry

open SyrFilter.Lib SyrFilter.Storage

/-! # The lockout on a low battery

`LowVoltageFlag` locks the motor.  A reading of the battery without supply sets
it, and either the supply or a battery that is clearly fresher takes it back.
The rule is stated below on four values only; `PowerCallback` follows it in
every call that returns.
-/

/-! ## The rule -/

structure Lockout where
  low : Bool
  mains : Bool
  /-- The last reading taken without supply. -/
  reading : Nat
  /-- `warning_value` -/
  warning : UInt8
deriving DecidableEq, Repr

namespace Lockout

variable (lockout : Lockout)

def lock (reading : Nat) : Lockout := { low := true, mains := false, reading, warning := 0x08 }

def poll (mains : Bool) (reading : Nat) : Lockout :=
  if mains then
    if lockout.mains then lockout else { lockout with low := false, mains := true, warning := 0xff }
  else if lockout.low then
    if lockout.reading + 100 < reading ∧ 3100 < reading then
      { low := false, mains := false, reading, warning := 0xff }
    else { lockout with mains := false, reading }
  else if reading ≤ 2860 then lock reading
  else { lockout with mains := false, reading }

variable {lockout}

theorem poll_locks {mains : Bool} {reading : Nat} (free : lockout.low = false)
    (locks : (lockout.poll mains reading).low = true) : mains = false ∧ reading ≤ 2860 := by
  cases mains with
  | true =>
      rw [poll, if_pos rfl] at locks
      split at locks
      · rw [free] at locks
        cases locks
      · cases locks
  | false =>
      rw [poll, if_neg Bool.false_ne_true, if_neg (by simp [free])] at locks
      split at locks
      · rename_i empty
        exact ⟨rfl, empty⟩
      · exact absurd (free.symm.trans locks) Bool.false_ne_true

theorem poll_unlocks {mains : Bool} {reading : Nat} (locked : lockout.low = true)
    (unlocks : (lockout.poll mains reading).low = false) :
    (mains = true ∧ lockout.mains = false) ∨
      (mains = false ∧ 3100 < reading ∧ lockout.reading + 100 < reading) := by
  cases mains with
  | true =>
      refine .inl ⟨rfl, ?_⟩
      rw [poll, if_pos rfl] at unlocks
      split at unlocks
      · exact absurd (locked.symm.trans unlocks) (by decide)
      · rename_i absent
        simpa using absent
  | false =>
      rw [poll, if_neg Bool.false_ne_true, if_pos locked] at unlocks
      split at unlocks
      · rename_i fresh
        exact .inr ⟨rfl, fresh.2, fresh.1⟩
      · exact absurd (locked.symm.trans unlocks) (by decide)

/-- A locked device is on its battery. -/
def OnBattery (lockout : Lockout) : Prop := lockout.low = true → lockout.mains = false

/-- The warning is the one of the lockout. -/
def Warned (lockout : Lockout) : Prop := lockout.warning = if lockout.low then 0x08 else 0xff

theorem poll_reading (mains : Bool) (reading : Nat) :
    (lockout.poll mains reading).reading = if mains then lockout.reading else reading := by
  rw [poll]
  split
  · split <;> rfl
  · split
    · split <;> rfl
    · split <;> rfl

theorem poll_onBattery (battery : lockout.OnBattery) (mains : Bool) (reading : Nat) :
    (lockout.poll mains reading).OnBattery := by
  rw [poll]
  split
  · split
    · exact battery
    · exact fun locked => nomatch locked
  · split
    · split
      · exact fun _ => rfl
      · exact fun _ => rfl
    · split
      · exact fun _ => rfl
      · exact fun _ => rfl

theorem poll_warned (warned : lockout.Warned) (mains : Bool) (reading : Nat) :
    (lockout.poll mains reading).Warned := by
  rw [poll]
  split
  · split
    · exact warned
    · rfl
  · split
    · split
      · rfl
      · exact warned
    · split
      · rfl
      · exact warned

theorem Warned.warning_iff (warned : lockout.Warned) : lockout.warning = 0x08 ↔ lockout.low = true := by
  rw [warned]
  split
  · rename_i locked
    exact iff_of_true rfl locked
  · rename_i free
    exact iff_of_false (by decide) free

end Lockout

/-! ## The code follows the rule -/

/-- The codes handed to `insert_warning_array`. -/
def warningCodes (calls : List Call) : List UInt8 :=
  calls.filterMap fun
    | .insertWarningArray code => some code
    | _ => none

theorem insertWarningArray_value (alarm : Alarm.State) (code : UInt8) :
    (Alarm.insertWarningArray alarm code).warning.value = code := by
  by_cases current : (alarm.history .warning).value = code
  · rw [Alarm.insertWarningArray, Alarm.insertArray_repeated current]
    exact current
  · exact congrArg Alarm.History.value (Alarm.history_insertArray current)

namespace State

variable {state : State}

/-- `LowVoltageFlag` -/
def lowVoltageFlag (state : State) : UInt8 := state.settings.lowVoltageFlag

/-- `warning_value` after the calls made so far. -/
def warningValue (alarm : Alarm.State) (state : State) : UInt8 :=
  ((warningCodes state.calls).foldl Alarm.insertWarningArray alarm).warning.value

def lockout (alarm : Alarm.State) (state : State) : Lockout where
  low := state.lowVoltageFlag ≠ 0
  mains := state.nowDcLevel ≠ 0
  reading := state.nowBatVoltage.toNat
  warning := state.warningValue alarm

theorem warningValue_call (alarm : Alarm.State) (made : List Call) :
    (state.call made).warningValue alarm =
      (warningCodes made).getLast?.getD (state.warningValue alarm) := by
  rw [warningValue, call, warningCodes, List.filterMap_append, ← warningCodes, ← warningCodes,
    List.foldl_append]
  cases warningCodes made using List.reverseRecOn with
  | nil => rfl
  | append_singleton codes code =>
      rw [List.foldl_append]
      simpa using insertWarningArray_value _ code

/-- What the lockout is made of, apart from the level of the supply. -/
structure SameBattery (before after : State) : Prop where
  device : after.device = before.device
  nowBatVoltage : after.nowBatVoltage = before.nowBatVoltage
  warnings : warningCodes after.calls = warningCodes before.calls

theorem start_sameBattery (id : TimerId) : SameBattery state (state.start id) := by
  rw [start]
  split
  · exact ⟨rfl, rfl, rfl⟩
  · exact ⟨rfl, rfl, rfl⟩

theorem modeSet_sameBattery (level : UInt8) :
    SameBattery state (state.telemetryIntervalModeSet level) := by
  rw [telemetryIntervalModeSet]
  split
  · have started := @start_sameBattery state .wti
    rw [andThen]
    split
    · exact started
    · exact ⟨started.device, started.nowBatVoltage, started.warnings⟩
  · have started := @start_sameBattery (state.stop .wti) .rcp
    exact ⟨started.device, started.nowBatVoltage, started.warnings⟩

theorem powerStateChange_sameBattery (level : UInt8) : SameBattery state (state.powerStateChange level) := by
  rw [powerStateChange]
  split
  · have changed := @modeSet_sameBattery ({ state with nowDcLevel := level }.call
      (if level ≠ 0 then [.sleepRequest] else [.screenTimerRefresh, .sleepRelease])) level
    refine ⟨changed.device, changed.nowBatVoltage, changed.warnings.trans ?_⟩
    rw [call, warningCodes, List.filterMap_append]
    split
    · exact List.append_nil _
    · exact List.append_nil _
  · exact ⟨rfl, rfl, rfl⟩

theorem powerStateChange_nowDcLevel (level : UInt8) : (state.powerStateChange level).nowDcLevel = level := by
  rw [powerStateChange]
  split
  · exact modeSet_nowDcLevel level
  · rename_i same
    exact not_not.mp same

theorem powerStateChange_lockout (alarm : Alarm.State) (level : UInt8) :
    (state.powerStateChange level).lockout alarm =
      { state.lockout alarm with mains := level ≠ 0 } := by
  have same := @powerStateChange_sameBattery state level
  rw [lockout, lockout, lowVoltageFlag, settings, warningValue, powerStateChange_nowDcLevel, same.device,
    same.nowBatVoltage, same.warnings]
  rfl

theorem operate_power (value : UInt8) : (state.operate (.power value)).lowVoltageFlag = value := by
  change (Ram.powerSet state.device.ram value).1.settings.lowVoltageFlag = value
  rw [Ram.powerSet]
  split
  · rfl
  · rename_i same
    exact (not_not.mp same).symm

theorem call_lowVoltageFlag (made : List Call) : (state.call made).lowVoltageFlag = state.lowVoltageFlag := rfl

theorem operate_errorCounted : (state.operate .errorCounted).lowVoltageFlag = state.lowVoltageFlag := rfl

theorem lockout_eq {alarm : Alarm.State} {low mains : Bool} {reading : Nat} {warning : UInt8}
    (flag : (state.lowVoltageFlag ≠ 0) ↔ low = true) (level : (state.nowDcLevel ≠ 0) ↔ mains = true)
    (sampled : state.nowBatVoltage.toNat = reading) (warned : state.warningValue alarm = warning) :
    state.lockout alarm = { low, mains, reading, warning } := by
  rw [lockout, sampled, warned, decide_eq_decide.mpr flag, decide_eq_decide.mpr level,
    Bool.decide_coe, Bool.decide_coe]

/-- The two comparisons of a sample with the last one, without overflow, are one. -/
theorem fresher_iff {past batValue : UInt32} (range : past ≤ 4095) :
    (past < batValue ∧ 100 + past < batValue) ↔ past.toNat + 100 < batValue.toNat := by
  have below : past.toNat ≤ 4095 := range
  have sum : (100 + past).toNat = 100 + past.toNat := by
    rw [UInt32.toNat_add]
    exact Nat.mod_eq_of_lt (by change 100 + _ < _; omega)
  rw [UInt32.lt_iff_toNat_lt, UInt32.lt_iff_toNat_lt, sum]
  omega

theorem batteryCheck_lockout (alarm : Alarm.State) {batValue : UInt32} (battery : state.nowDcLevel = 0)
    (range : state.nowBatVoltage ≤ 4095) :
    (state.batteryCheck batValue).lockout alarm = (state.lockout alarm).poll false batValue.toNat := by
  have level : (state.nowDcLevel ≠ 0) ↔ false = true := by simp [battery]
  have fresher := @fresher_iff state.nowBatVoltage batValue range
  have enoughIff : 3100 < batValue ↔ 3100 < batValue.toNat := UInt32.lt_iff_toNat_lt
  have emptyIff : batValue ≤ 2860 ↔ batValue.toNat ≤ 2860 := UInt32.le_iff_toNat_le
  rw [Lockout.poll, if_neg Bool.false_ne_true, batteryCheck]
  by_cases locked : state.lowVoltageFlag ≠ 0
  · have low : (state.lockout alarm).low = true := decide_eq_true locked
    rw [if_pos low]
    refine (congrArg (lockout alarm) (if_pos locked)).trans ?_
    by_cases fresh : state.nowBatVoltage < batValue ∧ 100 + state.nowBatVoltage < batValue
    · rw [if_pos fresh]
      by_cases enough : 3100 < batValue
      · rw [if_pos enough, if_pos ⟨fresher.mp fresh, enoughIff.mp enough⟩]
        refine lockout_eq ?_ level rfl (warningValue_call alarm _)
        rw [call_lowVoltageFlag, operate_power]
        simp
      · have short : ¬((state.lockout alarm).reading + 100 < batValue.toNat ∧ 3100 < batValue.toNat) :=
          fun both => enough (enoughIff.mpr both.2)
        rw [if_neg enough, if_neg short]
        refine lockout_eq ?_ level rfl (warningValue_call alarm _)
        rw [call_lowVoltageFlag, operate_errorCounted, operate_power]
        simpa using low
    · have stale : ¬((state.lockout alarm).reading + 100 < batValue.toNat ∧ 3100 < batValue.toNat) :=
        fun both => fresh (fresher.mpr both.1)
      rw [if_neg fresh, if_neg stale]
      exact lockout_eq (iff_of_true locked low) level rfl rfl
  · have free : ¬(state.lockout alarm).low = true := fun low => locked (of_decide_eq_true low)
    rw [if_neg free]
    refine (congrArg (lockout alarm) (if_neg locked)).trans ?_
    by_cases empty : batValue ≤ 2860
    · rw [if_pos empty, if_pos (emptyIff.mp empty)]
      refine lockout_eq ?_ level rfl (warningValue_call alarm _)
      rw [call_lowVoltageFlag, operate_errorCounted, operate_power]
      simp
    · rw [if_neg empty, if_neg (fun low => empty (emptyIff.mpr low))]
      exact lockout_eq (iff_of_false locked free) level rfl rfl

theorem supplyBack_lockout (alarm : Alarm.State) (mains : state.nowDcLevel ≠ 0) :
    state.supplyBack.lockout alarm =
      { state.lockout alarm with low := false, mains := true, warning := 0xff } := by
  rw [supplyBack]
  refine lockout_eq ?_ ?_ ?_ (warningValue_call alarm _)
  · refine iff_of_false (not_not.mpr ?_) Bool.false_ne_true
    split
    · exact operate_power 0
    · rename_i free
      exact not_not.mp free
  · refine iff_of_true ?_ rfl
    split <;> exact mains
  · split <;> rfl

/-- Where the rest of a function returns, it was reached. -/
theorem andThen_returns {rest : State → State} (returned : (state.andThen rest).halted = false) :
    state.halted = false ∧ state.andThen rest = rest state := by
  cases hung : state.halted with
  | true =>
      rw [andThen, if_pos hung, hung] at returned
      cases returned
  | false =>
      refine ⟨rfl, ?_⟩
      rw [andThen, if_neg (by simp [hung])]

/-- A call that returns follows the rule. -/
theorem powerCallback_lockout (alarm : Alarm.State) {dcVoltage batValue : UInt32}
    (range : state.nowBatVoltage ≤ 4095)
    (returned : (state.powerCallback dcVoltage batValue).halted = false) :
    (state.powerCallback dcVoltage batValue).lockout alarm =
      (state.lockout alarm).poll (getDcLevel dcVoltage ≠ 0) batValue.toNat := by
  have level := fun level => @powerStateChange_nowDcLevel { state with polled := true } level
  have changed := fun level => @powerStateChange_lockout { state with polled := true } alarm level
  have sampled : ∀ level,
      (({ state with polled := true } : State).powerStateChange level).nowBatVoltage ≤ 4095 := by
    intro level
    have same := @powerStateChange_sameBattery { state with polled := true } level
    rw [same.nowBatVoltage]
    exact range
  rw [powerCallback] at returned ⊢
  by_cases absent : getDcLevel dcVoltage = 0
  · rw [decide_eq_false (not_not.mpr absent), if_pos absent]
    rw [if_pos absent] at returned
    obtain ⟨-, goes⟩ := andThen_returns returned
    rw [goes, batteryCheck_lockout alarm (level 0) (sampled 0), changed]
    rfl
  · rw [decide_eq_true absent, if_neg absent, Lockout.poll, if_pos rfl]
    rw [if_neg absent] at returned
    by_cases battery : state.nowDcLevel = 0
    · have off : ¬(state.lockout alarm).mains = true := fun on => of_decide_eq_true on battery
      rw [if_pos battery] at returned ⊢
      obtain ⟨-, goes⟩ := andThen_returns returned
      have on : (({ state with polled := true } : State).powerStateChange 1).nowDcLevel ≠ 0 := by
        rw [level]
        decide
      rw [goes, supplyBack_lockout alarm on, changed, if_neg off]
      rfl
    · have on : (state.lockout alarm).mains = true := decide_eq_true battery
      rw [if_neg battery, if_pos on]
      rfl

/-- A call that does not return has changed nothing but the level and the timers. -/
theorem powerCallback_hung {dcVoltage batValue : UInt32}
    (hung : (state.powerCallback dcVoltage batValue).halted = true) :
    (state.powerCallback dcVoltage batValue).lowVoltageFlag = state.lowVoltageFlag := by
  have unchanged : ∀ {level : UInt8} {rest : State → State}, (∀ state, SameSupply state (rest state)) →
      ((({ state with polled := true } : State).powerStateChange level).andThen rest).halted = true →
      ((({ state with polled := true } : State).powerStateChange level).andThen rest).lowVoltageFlag =
        state.lowVoltageFlag := by
    intro level rest same stuck
    have device := (@powerStateChange_sameBattery { state with polled := true } level).device
    rw [andThen] at stuck ⊢
    split
    · rw [lowVoltageFlag, settings, device]
      rfl
    · rename_i moving
      rw [if_neg moving, (same _).halted] at stuck
      exact absurd stuck moving
  rw [powerCallback] at hung ⊢
  split
  · rename_i absent
    rw [if_pos absent] at hung
    exact unchanged (fun _ => batteryCheck_same batValue) hung
  · rename_i present
    rw [if_neg present] at hung
    split
    · rename_i battery
      rw [if_pos battery] at hung
      exact unchanged (fun _ => supplyBack_same) hung
    · rfl

/-! ## Values of the flag -/

def Flagged (state : State) : Prop := state.lowVoltageFlag = 0 ∨ state.lowVoltageFlag = 1

theorem Flagged.low_iff (flagged : state.Flagged) (alarm : Alarm.State) :
    (state.lockout alarm).low = true ↔ state.lowVoltageFlag = 1 := by
  refine decide_eq_true_iff.trans ?_
  rcases flagged with zero | one
  · rw [zero]
    decide
  · rw [one]
    decide

theorem Flagged.low_eq_false_iff (flagged : state.Flagged) (alarm : Alarm.State) :
    (state.lockout alarm).low = false ↔ state.lowVoltageFlag = 0 := by
  refine decide_eq_false_iff_not.trans ?_
  rcases flagged with zero | one
  · rw [zero]
    decide
  · rw [one]
    decide

theorem batteryCheck_flagged (flagged : state.Flagged) (batValue : UInt32) :
    (state.batteryCheck batValue).Flagged := by
  rw [batteryCheck]
  split
  · split
    · split
      · exact .inl (operate_power 0)
      · right
        rw [call_lowVoltageFlag, operate_errorCounted, operate_power]
    · exact flagged
  · split
    · right
      rw [call_lowVoltageFlag, operate_errorCounted, operate_power]
    · exact flagged

theorem supplyBack_flagged (flagged : state.Flagged) : state.supplyBack.Flagged := by
  rw [supplyBack]
  split
  · exact .inl (operate_power 0)
  · exact flagged

theorem powerCallback_flagged (flagged : state.Flagged) (dcVoltage batValue : UInt32) :
    (state.powerCallback dcVoltage batValue).Flagged := by
  have changed : ∀ level, (({ state with polled := true } : State).powerStateChange level).Flagged := by
    intro level
    have same := @powerStateChange_sameBattery { state with polled := true } level
    rw [Flagged, lowVoltageFlag, settings, same.device]
    exact flagged
  have andThen_flagged : ∀ {state : State} {rest : State → State}, state.Flagged → (rest state).Flagged →
      (state.andThen rest).Flagged := by
    intro state rest before after
    rw [andThen]
    split
    · exact before
    · exact after
  rw [powerCallback]
  split
  · exact andThen_flagged (changed 0) (batteryCheck_flagged (changed 0) batValue)
  split
  · exact andThen_flagged (changed 1) (supplyBack_flagged (changed 1))
  · exact flagged

end State

/-! ## Runs -/

/-- The two readings of one `PowerCallback`, 12 bits each. -/
structure Sample where
  dcVoltage : UInt32
  batValue : UInt32
  dcRange : dcVoltage ≤ 4095
  batRange : batValue ≤ 4095

namespace Sample

def Mains (sample : Sample) : Prop := State.getDcLevel sample.dcVoltage ≠ 0

instance (sample : Sample) : Decidable sample.Mains := inferInstanceAs (Decidable (_ ≠ _))

/-- The reading of the last sample without supply, 0 if there was none. -/
def previousReading (past : List Sample) : UInt32 :=
  ((past.filter fun sample => ¬sample.Mains).getLast?.map (·.batValue)).getD 0

theorem previousReading_range (past : List Sample) : previousReading past ≤ 4095 := by
  rw [previousReading]
  cases (past.filter fun sample => ¬sample.Mains).getLast? with
  | none => decide
  | some sample => exact sample.batRange

theorem previousReading_concat (past : List Sample) (sample : Sample) :
    previousReading (past ++ [sample]) = if sample.Mains then previousReading past else sample.batValue := by
  rw [previousReading, List.filter_append]
  split
  · rename_i mains
    simp [mains, previousReading]
  · rename_i battery
    simp [battery]

end Sample

def poll (state : State) (sample : Sample) : State :=
  step state (.powerCallback sample.dcVoltage sample.batValue)

theorem poll_running {state : State} (running : state.halted = false) (sample : Sample) :
    poll state sample = state.powerCallback sample.dcVoltage sample.batValue := by
  rw [poll, step, if_neg (by simp [running])]
  rfl

/-- A call that returns was made in a firmware that runs. -/
theorem running_of_poll {state : State} {sample : Sample} (returned : (poll state sample).halted = false) :
    state.halted = false := by
  cases hung : state.halted with
  | true =>
      rw [poll, step, if_pos hung, hung] at returned
      cases returned
  | false => rfl

theorem poll_hung {state : State} {sample : Sample} (hung : (poll state sample).halted = true) :
    (poll state sample).lowVoltageFlag = state.lowVoltageFlag := by
  rw [poll, step] at hung ⊢
  split
  · rfl
  · rename_i running
    rw [if_neg running] at hung
    exact State.powerCallback_hung hung

/-- A call that changes the flag returns. -/
theorem returns_of_flag {state : State} {sample : Sample}
    (changed : (poll state sample).lowVoltageFlag ≠ state.lowVoltageFlag) :
    (poll state sample).halted = false := by
  cases hung : (poll state sample).halted with
  | true => exact absurd (poll_hung hung) changed
  | false => rfl

/-- What holds after the samples `past`.  Once the firmware hangs no call
returns any more. -/
structure Locked (alarm : Alarm.State) (past : List Sample) (state : State) : Prop where
  flagged : state.Flagged
  reading : state.halted = false → state.nowBatVoltage = Sample.previousReading past
  onBattery : state.halted = false → (state.lockout alarm).OnBattery

namespace Locked

variable {alarm : Alarm.State} {past : List Sample} {state : State}

theorem range (locked : Locked alarm past state) (running : state.halted = false) :
    state.nowBatVoltage ≤ 4095 := by
  rw [locked.reading running]
  exact Sample.previousReading_range past

theorem lockout_poll (locked : Locked alarm past state) {sample : Sample}
    (returned : (poll state sample).halted = false) :
    (poll state sample).lockout alarm =
      (state.lockout alarm).poll sample.Mains sample.batValue.toNat := by
  have running := running_of_poll returned
  rw [poll_running running] at returned ⊢
  exact State.powerCallback_lockout alarm (locked.range running) returned

theorem poll (locked : Locked alarm past state) (sample : Sample) :
    Locked alarm (past ++ [sample]) (poll state sample) where
  flagged := by
    rw [Telemetry.poll, step]
    split
    · exact locked.flagged
    · exact State.powerCallback_flagged locked.flagged _ _
  reading := by
    intro returned
    have sampled := congrArg Lockout.reading (locked.lockout_poll returned)
    rw [Lockout.poll_reading] at sampled
    apply UInt32.toNat_inj.mp
    refine sampled.trans ?_
    rw [Sample.previousReading_concat, ← locked.reading (running_of_poll returned)]
    by_cases mains : sample.Mains
    · rw [if_pos mains, if_pos (decide_eq_true mains)]
      rfl
    · rw [if_neg mains, if_neg (by simp [mains])]
  onBattery := by
    intro returned
    rw [locked.lockout_poll returned]
    exact Lockout.poll_onBattery (locked.onBattery (running_of_poll returned)) _ _

end Locked

theorem locked_run {flash : Flash} {ram : Ram} (booted : (boot flash ram).Flagged) (alarm : Alarm.State)
    (past : List Sample) : Locked alarm past (run poll (boot flash ram) past) := by
  induction past using List.reverseRecOn with
  | nil => exact ⟨booted, fun _ => rfl, fun _ _ => rfl⟩
  | append_singleton past sample induction =>
      rw [run, List.foldl_append]
      exact induction.poll sample

theorem warned_run {flash : Flash} {ram : Ram} (free : (boot flash ram).lowVoltageFlag = 0)
    {alarm : Alarm.State} (calm : alarm.warning.value = 0xff) (past : List Sample)
    (returned : (run poll (boot flash ram) past).halted = false) :
    ((run poll (boot flash ram) past).lockout alarm).Warned := by
  induction past using List.reverseRecOn with
  | nil =>
      have low : ((boot flash ram).lockout alarm).low = false :=
        (State.Flagged.low_eq_false_iff (.inl free) alarm).mpr free
      rw [run_nil, Lockout.Warned, low]
      exact calm
  | append_singleton past sample induction =>
      have earlier := locked_run (.inl free) alarm past
      rw [run, List.foldl_append] at returned ⊢
      change (poll (run poll (boot flash ram) past) sample).halted = false at returned
      change ((poll (run poll (boot flash ram) past) sample).lockout alarm).Warned
      rw [earlier.lockout_poll returned]
      exact Lockout.poll_warned (induction (running_of_poll returned)) _ _

/-- The hysteresis of `LowVoltageFlag` over every run of `PowerCallback` from every boot: which
samples set it and which clear it, that it is set on battery only, and that `warning_value` goes
with it. -/
theorem low_battery_lockout {flash : Flash} {ram : Ram}
    (booted : (boot flash ram).lowVoltageFlag = 0 ∨ (boot flash ram).lowVoltageFlag = 1)
    (alarm : Alarm.State) (past : List Sample) (sample : Sample) :
    let before := run poll (boot flash ram) past
    let after := poll before sample
    (after.lowVoltageFlag = 0 ∨ after.lowVoltageFlag = 1) ∧
    (before.lowVoltageFlag = 0 → after.lowVoltageFlag = 1 →
      ¬sample.Mains ∧ sample.batValue ≤ 2860) ∧
    (before.lowVoltageFlag = 1 → after.lowVoltageFlag = 0 →
      (sample.Mains ∧ before.nowDcLevel = 0) ∨
        (¬sample.Mains ∧ 3100 < sample.batValue ∧
          (Sample.previousReading past).toNat + 100 < sample.batValue.toNat)) ∧
    (after.halted = false → after.lowVoltageFlag = 1 → after.nowDcLevel = 0) ∧
    ((boot flash ram).lowVoltageFlag = 0 → alarm.warning.value = 0xff → after.halted = false →
      (after.warningValue alarm = 0x08 ↔ after.lowVoltageFlag = 1)) := by
  intro before after
  have locked : Locked alarm past before := locked_run booted alarm past
  have next : Locked alarm (past ++ [sample]) after := locked.poll sample
  refine ⟨next.flagged, ?_, ?_, ?_, ?_⟩
  · intro free locks
    have returned : after.halted = false := returns_of_flag (by
      rw [free]
      intro same
      exact absurd (locks.symm.trans same) (by decide))
    have low : (after.lockout alarm).low = true := (next.flagged.low_iff alarm).mpr locks
    rw [locked.lockout_poll returned] at low
    obtain ⟨battery, empty⟩ := Lockout.poll_locks ((locked.flagged.low_eq_false_iff alarm).mpr free) low
    exact ⟨of_decide_eq_false battery, empty⟩
  · intro set clears
    have returned : after.halted = false := returns_of_flag (by
      rw [set]
      intro same
      exact absurd (clears.symm.trans same) (by decide))
    have low : (after.lockout alarm).low = false := (next.flagged.low_eq_false_iff alarm).mpr clears
    rw [locked.lockout_poll returned] at low
    rcases Lockout.poll_unlocks ((locked.flagged.low_iff alarm).mpr set) low with
      ⟨mains, absent⟩ | ⟨battery, enough, fresh⟩
    · exact .inl ⟨of_decide_eq_true mains, not_not.mp (of_decide_eq_false absent)⟩
    · have reading := locked.reading (running_of_poll returned)
      change before.nowBatVoltage.toNat + 100 < _ at fresh
      rw [reading] at fresh
      exact .inr ⟨of_decide_eq_false battery, enough, fresh⟩
  · intro returned set
    have battery := next.onBattery returned ((next.flagged.low_iff alarm).mpr set)
    exact not_not.mp (of_decide_eq_false battery)
  · intro free calm returned
    have final : run poll (boot flash ram) (past ++ [sample]) = after := by
      rw [run, List.foldl_append]
      rfl
    have warned := warned_run free calm (past ++ [sample])
    rw [final] at warned
    exact (warned returned).warning_iff.trans (next.flagged.low_iff alarm)

/-- An empty battery on a new device. -/
def emptyBattery : Sample := ⟨0, 2500, by decide, by decide⟩

theorem warned_of_empty_battery :
    (boot emptyStore blankRam).lowVoltageFlag = 0 ∧
    (poll (boot emptyStore blankRam) emptyBattery).lowVoltageFlag = 1 ∧
    (poll (boot emptyStore blankRam) emptyBattery).warningValue Alarm.initial = 0x08 := by
  have free : (boot emptyStore blankRam).lowVoltageFlag = 0 := by decide +kernel
  have locked : (poll (boot emptyStore blankRam) emptyBattery).lowVoltageFlag = 1 := by decide +kernel
  have returned : (poll (boot emptyStore blankRam) emptyBattery).halted = false := by decide +kernel
  obtain ⟨-, -, -, -, warned⟩ := low_battery_lockout (.inl free) Alarm.initial [] emptyBattery
  exact ⟨free, locked, (warned free rfl returned).mpr locked⟩

end SyrFilter.Telemetry
