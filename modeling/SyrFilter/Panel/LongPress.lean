import SyrFilter.Panel.Keys

namespace SyrFilter.Panel

open SyrFilter.Lib SyrFilter.Keys

/-! # One long press for each hold

A key latches its long press until the driver says that it is free again, so
the semaphore of a hold is released once, when enough long presses have been
reported, however the scans of the keys and the other threads interleave.
-/

/-- The long presses reported in the current hold and in those before it. -/
structure HoldLog where
  current : Nat
  finished : List Nat

namespace HoldLog

variable (log : HoldLog)

def record : ButtonEvent → HoldLog
  | .long => { log with current := log.current + 1 }
  | .longFree => ⟨0, log.current :: log.finished⟩
  | _ => log

def of (events : List ButtonEvent) : HoldLog := events.foldl record ⟨0, []⟩

/-- The holds with at least so many long presses. -/
def reaching (enough : Nat) : Nat :=
  log.finished.countP (enough ≤ ·) + if enough ≤ log.current then 1 else 0

theorem of_concat (events : List ButtonEvent) (event : ButtonEvent) :
    of (events ++ [event]) = (of events).record event := List.foldl_append

variable {log} {enough : Nat}

theorem reaching_long :
    (log.record .long).reaching enough = log.reaching enough + if enough = log.current + 1 then 1 else 0 := by
  simp only [record, reaching]
  grind

theorem reaching_longFree (positive : 0 < enough) : (log.record .longFree).reaching enough = log.reaching enough := by
  simp only [record, reaching, List.countP_cons, decide_eq_true_eq]
  grind

end HoldLog

/-- The long presses after which a key releases its semaphore. -/
def enough : Key → Nat
  | .k0 => 2
  | .k1 => 2
  | .k2 => 8

theorem two_le_enough (key : Key) : 2 ≤ enough key := by cases key <;> decide

namespace Keypad

variable {keypad : Keypad} {key other : Key} {log : HoldLog} {event : ButtonEvent}

/-- What the latch of a key and its semaphore have made of its holds. -/
structure Tally (keypad : Keypad) (key : Key) (log : HoldLog) : Prop where
  counter : (keypad.latch key).longSemCounter = min log.current (enough key - 1)
  once : (keypad.latch key).onceFlag = true ↔ enough key ≤ log.current
  released : keypad.released.count (.long key) = log.reaching (enough key)

namespace Tally

theorem of_same (tally : keypad.Tally key log) {later : Keypad} (latch : later.latch key = keypad.latch key)
    (released : later.released.count (.long key) = keypad.released.count (.long key)) : later.Tally key log := by
  constructor
  · rw [latch, tally.counter]
  · rw [latch, tally.once]
  · rw [released, tally.released]

theorem semRelease (tally : keypad.Tally key log) (other : Key) : (keypad.semRelease other).Tally key log := by
  rw [Keypad.semRelease]
  split
  · exact tally.of_same rfl (by simp [release, wakeScreen])
  · exact tally.of_same rfl rfl

theorem longFreeRelease (tally : keypad.Tally key log) :
    (keypad.longFreeRelease key).Tally key (log.record .longFree) := by
  have positive := two_le_enough key
  constructor
  · simp [Keypad.longFreeRelease, setLatch, wakeScreen, HoldLog.record]
  · simp only [Keypad.longFreeRelease, setLatch, wakeScreen, Function.update_self, HoldLog.record]
    simp only [Bool.false_eq_true, false_iff]
    omega
  · rw [HoldLog.reaching_longFree (by omega)]
    exact tally.released

/-- The two ways of latching a long press agree on what they latch. -/
theorem latches (tally : keypad.Tally key log) {later : Keypad}
    (already : (keypad.latch key).onceFlag = true →
      later.latch key = keypad.latch key ∧
        later.released.count (.long key) = keypad.released.count (.long key))
    (reached : (keypad.latch key).onceFlag = false → enough key - 1 ≤ (keypad.latch key).longSemCounter →
      later.latch key = { keypad.latch key with onceFlag := true } ∧
        later.released.count (.long key) = keypad.released.count (.long key) + 1)
    (counts : (keypad.latch key).onceFlag = false → (keypad.latch key).longSemCounter < enough key - 1 →
      later.latch key =
          { keypad.latch key with longSemCounter := ((keypad.latch key).longSemCounter + 1) % 256 } ∧
        later.released.count (.long key) = keypad.released.count (.long key)) :
    later.Tally key (log.record .long) := by
  have some := two_le_enough key
  have few : enough key ≤ 8 := by cases key <;> decide
  have current : (log.record .long).current = log.current + 1 := rfl
  have counter := tally.counter
  by_cases once : (keypad.latch key).onceFlag = true
  · obtain ⟨latch, released⟩ := already once
    have past := tally.once.mp once
    refine ⟨?_, ?_, ?_⟩
    · rw [latch, counter, current]
      omega
    · rw [latch, current]
      exact iff_of_true once (by omega)
    · rw [released, HoldLog.reaching_long, tally.released, if_neg (by omega)]
      rfl
  · have before : ¬enough key ≤ log.current := fun past => once (tally.once.mpr past)
    have notOnce : (keypad.latch key).onceFlag = false := by simpa using once
    by_cases full : enough key - 1 ≤ (keypad.latch key).longSemCounter
    · obtain ⟨latch, released⟩ := reached notOnce full
      refine ⟨?_, ?_, ?_⟩
      · rw [latch, current]
        show (keypad.latch key).longSemCounter = _
        omega
      · rw [latch, current]
        exact iff_of_true rfl (by omega)
      · rw [released, HoldLog.reaching_long, tally.released, if_pos (by omega)]
    · obtain ⟨latch, released⟩ := counts notOnce (by omega)
      refine ⟨?_, ?_, ?_⟩
      · rw [latch, current]
        show ((keypad.latch key).longSemCounter + 1) % 256 = _
        omega
      · rw [latch, current]
        exact iff_of_false once (by omega)
      · rw [released, HoldLog.reaching_long, tally.released, if_neg (by omega)]
        rfl

theorem longSemRelease (tally : keypad.Tally key log) (two : enough key = 2) :
    (keypad.longSemRelease key).Tally key (log.record .long) := by
  apply tally.latches
  · intro once
    rw [Keypad.longSemRelease]
    simp [once, release, wakeScreen]
  · intro notOnce full
    have positive : 0 < (keypad.latch key).longSemCounter := by omega
    rw [Keypad.longSemRelease]
    simp [notOnce, positive, release, wakeScreen, setLatch]
  · intro notOnce below
    have zero : (keypad.latch key).longSemCounter = 0 := by omega
    rw [Keypad.longSemRelease]
    simp [notOnce, zero, wakeScreen, setLatch]

theorem k2LongSemRelease (tally : keypad.Tally .k2 log) :
    keypad.k2LongSemRelease.Tally .k2 (log.record .long) := by
  have eight : enough .k2 = 8 := rfl
  apply tally.latches
  · intro once
    rw [Keypad.k2LongSemRelease]
    simp [once]
  · intro notOnce full
    have past : 6 < (keypad.latch .k2).longSemCounter := by omega
    rw [Keypad.k2LongSemRelease]
    simp [notOnce, past, release, wakeScreen, setLatch]
  · intro notOnce below
    have few : ¬6 < (keypad.latch .k2).longSemCounter := by omega
    rw [Keypad.k2LongSemRelease]
    simp [notOnce, few, wakeScreen, setLatch]

theorem callback (tally : keypad.Tally key log) (event : ButtonEvent) :
    (keypad.callback key event).Tally key (log.record event) := by
  cases event with
  | dowm =>
      have kept : log.record .dowm = log := rfl
      rw [kept]
      cases key <;> exact tally.semRelease _
  | long =>
      cases key with
      | k0 => exact tally.longSemRelease rfl
      | k1 => exact tally.longSemRelease rfl
      | k2 => exact tally.k2LongSemRelease
  | longFree => cases key <;> exact tally.longFreeRelease
  | up => cases key <;> exact tally
  | double => cases key <;> exact tally
  | noneTrigger => cases key <;> exact tally

end Tally

/-! ## The other keys -/

/-- What a callback leaves of the keys it does not belong to. -/
structure Apart (keypad : Keypad) (key : Key) (later : Keypad) : Prop where
  latch : later.latch key = keypad.latch key
  released : later.released.count (.long key) = keypad.released.count (.long key)

namespace Apart

theorem refl : keypad.Apart key keypad := ⟨rfl, rfl⟩

theorem wakeScreen : keypad.Apart key keypad.wakeScreen := ⟨rfl, rfl⟩

theorem semRelease : keypad.Apart key (keypad.semRelease other) := by
  rw [Keypad.semRelease]
  split
  · exact ⟨rfl, by simp [release, Keypad.wakeScreen]⟩
  · exact wakeScreen

variable (different : key ≠ other)
include different

theorem setLatch (latch : Latch) : keypad.Apart key (keypad.setLatch other latch) :=
  ⟨Function.update_of_ne different _ _, rfl⟩

theorem longSemRelease : keypad.Apart key (keypad.longSemRelease other) := by
  have unequal : Sem.long other ≠ Sem.long key := fun same => different (Sem.long.inj same).symm
  rw [Keypad.longSemRelease]
  split
  · exact ⟨rfl, by simp [release, Keypad.wakeScreen]⟩
  · split
    · refine ⟨(setLatch different _).latch, ?_⟩
      simp [release, Keypad.setLatch, Keypad.wakeScreen, unequal]
    · exact ⟨(setLatch different _).latch, rfl⟩

theorem longFreeRelease : keypad.Apart key (keypad.longFreeRelease other) := ⟨(setLatch different _).latch, rfl⟩

omit different in
theorem k2LongSemRelease (different : key ≠ .k2) : keypad.Apart key keypad.k2LongSemRelease := by
  have unequal : Sem.long .k2 ≠ Sem.long key := fun same => different (Sem.long.inj same).symm
  rw [Keypad.k2LongSemRelease]
  split
  · exact refl
  · split
    · refine ⟨(setLatch different _).latch, ?_⟩
      simp [release, Keypad.setLatch, Keypad.wakeScreen, unequal]
    · exact ⟨(setLatch different _).latch, rfl⟩

theorem callback (event : ButtonEvent) : keypad.Apart key (keypad.callback other event) := by
  cases event with
  | dowm => cases other <;> exact semRelease
  | long =>
      cases other with
      | k0 => exact longSemRelease different
      | k1 => exact longSemRelease different
      | k2 => exact k2LongSemRelease different
  | longFree => cases other <;> exact longFreeRelease different
  | up => cases other <;> exact refl
  | double => cases other <;> exact refl
  | noneTrigger => cases other <;> exact refl

end Apart

/-! ## Scans -/

theorem Tally.apart (tally : keypad.Tally key log) {later : Keypad} (apart : keypad.Apart key later) :
    later.Tally key log := tally.of_same apart.latch apart.released

theorem tally_callbacks (tally : keypad.Tally key log) (events : List ButtonEvent) :
    (events.foldl (fun keypad event => keypad.callback key event) keypad).Tally key (events.foldl HoldLog.record log) := by
  induction events generalizing keypad log with
  | nil => exact tally
  | cons event rest ih => exact ih (tally.callback event)

theorem tally_otherCallbacks (tally : keypad.Tally key log) (different : key ≠ other) (events : List ButtonEvent) :
    (events.foldl (fun keypad event => keypad.callback other event) keypad).Tally key log := by
  induction events generalizing keypad with
  | nil => exact tally
  | cons event rest ih => exact ih (tally.apart (Apart.callback different event))

theorem semRelease_button : (keypad.semRelease other).button = keypad.button := by
  rw [semRelease]
  split <;> rfl

theorem longSemRelease_button : (keypad.longSemRelease other).button = keypad.button := by
  rw [longSemRelease]
  split
  · rfl
  · split <;> rfl

theorem k2LongSemRelease_button : keypad.k2LongSemRelease.button = keypad.button := by
  rw [k2LongSemRelease]
  split
  · rfl
  · split <;> rfl

theorem callback_button : (keypad.callback other event).button = keypad.button := by
  cases event with
  | dowm => cases other <;> exact semRelease_button
  | long =>
      cases other with
      | k0 => exact longSemRelease_button
      | k1 => exact longSemRelease_button
      | k2 => exact k2LongSemRelease_button
  | longFree => cases other <;> rfl
  | up => cases other <;> rfl
  | double => cases other <;> rfl
  | noneTrigger => cases other <;> rfl

theorem callbacks_button (events : List ButtonEvent) :
    (events.foldl (fun keypad event => keypad.callback other event) keypad).button = keypad.button := by
  induction events generalizing keypad with
  | nil => rfl
  | cons event rest ih =>
      rw [List.foldl_cons, ih]
      exact callback_button

/-- The state of a key after the levels that its scans have read. -/
structure Follows (keypad : Keypad) (key : Key) (levels : List Bool) : Prop where
  button : keypad.button key = after Button.cycleProcess (buttonCreate false) levels
  tally : keypad.Tally key (HoldLog.of (emits Button.cycleProcess (buttonCreate false) levels))

variable {levels : List Bool}

theorem Follows.cycleKey (follows : keypad.Follows key levels) (level : Bool) :
    (keypad.cycleKey key level).Follows key (levels ++ [level]) := by
  constructor
  · rw [Keypad.cycleKey, callbacks_button, putButton]
    dsimp only
    rw [Function.update_self, after_concat, follows.button]
  · have scanned : (keypad.putButton key ((keypad.button key).cycleProcess level).1).Tally key
        (HoldLog.of (emits Button.cycleProcess (buttonCreate false) levels)) := follows.tally.of_same rfl rfl
    rw [emits_concat, ← follows.button, HoldLog.of, List.foldl_append]
    exact tally_callbacks scanned _

theorem Follows.cycleOther (follows : keypad.Follows key levels) (different : key ≠ other) (level : Bool) :
    (keypad.cycleKey other level).Follows key levels := by
  constructor
  · rw [Keypad.cycleKey, callbacks_button, putButton]
    dsimp only
    rw [Function.update_of_ne different, follows.button]
  · have scanned : (keypad.putButton other ((keypad.button other).cycleProcess level).1).Tally key
        (HoldLog.of (emits Button.cycleProcess (buttonCreate false) levels)) := follows.tally.of_same rfl rfl
    exact tally_otherCallbacks scanned different _

theorem deltaCallback_frame :
    (keypad.deltaCallback event).button = keypad.button ∧ (keypad.deltaCallback event).latch = keypad.latch ∧
      (keypad.deltaCallback event).released = keypad.released := by
  cases event with
  | dowm =>
      rw [deltaCallback, deltaRelease]
      split <;> exact ⟨rfl, rfl, rfl⟩
  | _ => exact ⟨rfl, rfl, rfl⟩

theorem deltaCallbacks_frame (events : List ButtonEvent) :
    (events.foldl deltaCallback keypad).button = keypad.button ∧ (events.foldl deltaCallback keypad).latch = keypad.latch ∧
      (events.foldl deltaCallback keypad).released = keypad.released := by
  induction events generalizing keypad with
  | nil => exact ⟨rfl, rfl, rfl⟩
  | cons event rest ih =>
      obtain ⟨button, latch, released⟩ := @ih (keypad.deltaCallback event)
      rw [List.foldl_cons, button, latch, released]
      exact deltaCallback_frame

theorem Follows.cycleDelta (follows : keypad.Follows key levels) (flow : Bool) :
    (keypad.cycleDelta flow).Follows key levels := by
  obtain ⟨button, latch, released⟩ :=
    @deltaCallbacks_frame { keypad with delta := (keypad.delta.cycleProcess flow).1 } (keypad.delta.cycleProcess flow).2
  constructor
  · rw [Keypad.cycleDelta, button, follows.button]
  · exact follows.tally.of_same (by rw [Keypad.cycleDelta, latch]) (by rw [Keypad.cycleDelta, released])

theorem Follows.buttonProcess (follows : keypad.Follows key levels) (read : Key → Bool) (flow : Bool) :
    (keypad.buttonProcess read flow).Follows key (levels ++ [read key]) := by
  rw [Keypad.buttonProcess]
  have sensed := follows.cycleDelta flow
  cases key with
  | k0 =>
      have second := sensed.cycleOther (by decide : Key.k0 ≠ .k2) (read .k2)
      have first := second.cycleOther (by decide : Key.k0 ≠ .k1) (read .k1)
      exact first.cycleKey (read .k0)
  | k1 =>
      have second := sensed.cycleOther (by decide : Key.k1 ≠ .k2) (read .k2)
      have own := second.cycleKey (read .k1)
      exact own.cycleOther (by decide : Key.k1 ≠ .k0) (read .k0)
  | k2 =>
      have own := sensed.cycleKey (read .k2)
      have first := own.cycleOther (by decide : Key.k2 ≠ .k1) (read .k1)
      exact first.cycleOther (by decide : Key.k2 ≠ .k0) (read .k0)

end Keypad

/-- What the scans of a run have read from a key. -/
def levelsOf (key : Key) (events : List KeypadEvent) : List Bool :=
  events.filterMap fun event =>
    match event with
    | .scan levels _ => some (levels key)
    | _ => none

/-- The events that the driver has triggered for a key. -/
def triggered (key : Key) (events : List KeypadEvent) : List ButtonEvent :=
  emits Button.cycleProcess (buttonCreate false) (levelsOf key events)

theorem follows_run {keypad : Keypad} {key : Key} {levels : List Bool} (follows : keypad.Follows key levels)
    (events : List KeypadEvent) : (run Keypad.step keypad events).Follows key (levels ++ levelsOf key events) := by
  induction events generalizing keypad levels with
  | nil => simpa [levelsOf] using follows
  | cons event rest ih =>
      cases event with
      | scan read flow =>
          have later := ih (follows.buttonProcess read flow)
          rw [List.append_assoc] at later
          exact later
      | lcd event => exact ih ⟨follows.button, follows.tally.of_same rfl rfl⟩
      | deltapressEnable value => exact ih ⟨follows.button, follows.tally.of_same rfl rfl⟩

theorem create_follows (lcd : Lcd) (deltapressEnable : Bool) (key : Key) :
    (Keypad.create lcd deltapressEnable).Follows key [] where
  button := rfl
  tally := by cases key <;> exact ⟨rfl, iff_of_false nofun (by decide), rfl⟩

/-! ## The display behind the keys -/

section Display

variable {keypad : Keypad} {key : Key} {event : ButtonEvent} {start lcd : Lcd}

/-- The display is where its own events have brought it. -/
def Reaches (start lcd : Lcd) : Prop := ∃ events, run Lcd.step start events = lcd

theorem Reaches.step (reaches : Reaches start lcd) (event : LcdEvent) : Reaches start (lcd.step event) := by
  obtain ⟨events, rfl⟩ := reaches
  exact ⟨events ++ [event], List.foldl_append⟩

theorem reaches_callback (reaches : Reaches start keypad.lcd) : Reaches start (keypad.callback key event).lcd := by
  have woken : Reaches start keypad.wakeScreen.lcd := reaches.step .key
  have clicks : Reaches start (keypad.semRelease key).lcd := by
    rw [Keypad.semRelease]
    split <;> exact woken
  have holds : Reaches start (keypad.longSemRelease key).lcd := by
    rw [Keypad.longSemRelease]
    split
    · exact woken
    · split <;> exact woken
  have enters : Reaches start keypad.k2LongSemRelease.lcd := by
    rw [Keypad.k2LongSemRelease]
    split
    · exact reaches
    · split <;> exact woken
  cases event with
  | dowm => cases key <;> exact clicks
  | long =>
      cases key with
      | k0 => exact holds
      | k1 => exact holds
      | k2 => exact enters
  | longFree => cases key <;> exact woken
  | _ => cases key <;> exact reaches

theorem reaches_deltaCallback (reaches : Reaches start keypad.lcd) : Reaches start (keypad.deltaCallback event).lcd := by
  cases event with
  | dowm =>
      rw [Keypad.deltaCallback, Keypad.deltaRelease]
      split
      · exact reaches.step .jump
      · exact reaches
  | _ => exact reaches

theorem reaches_cycleKey (reaches : Reaches start keypad.lcd) (key : Key) (level : Bool) :
    Reaches start (keypad.cycleKey key level).lcd := by
  have callbacks (events : List ButtonEvent) (keypad : Keypad) (reaches : Reaches start keypad.lcd) :
      Reaches start (events.foldl (fun keypad event => keypad.callback key event) keypad).lcd := by
    induction events generalizing keypad with
    | nil => exact reaches
    | cons event rest ih => exact ih _ (reaches_callback reaches)
  exact callbacks _ _ reaches

theorem reaches_cycleDelta (reaches : Reaches start keypad.lcd) (flow : Bool) :
    Reaches start (keypad.cycleDelta flow).lcd := by
  have callbacks (events : List ButtonEvent) (keypad : Keypad) (reaches : Reaches start keypad.lcd) :
      Reaches start (events.foldl Keypad.deltaCallback keypad).lcd := by
    induction events generalizing keypad with
    | nil => exact reaches
    | cons event rest ih => exact ih _ (reaches_deltaCallback reaches)
  exact callbacks _ _ reaches

/-- Keys and sensor move the display by the events of `Lcd.step` only. -/
theorem reaches_run (lcd : Lcd) (deltapressEnable : Bool) (events : List KeypadEvent) :
    Reaches lcd (run Keypad.step (Keypad.create lcd deltapressEnable) events).lcd := by
  have initial : Reaches lcd (Keypad.create lcd deltapressEnable).lcd := ⟨[], rfl⟩
  have preserved (keypad : Keypad) (event : KeypadEvent) (reaches : Reaches lcd keypad.lcd) :
      Reaches lcd (keypad.step event).lcd := by
    cases event with
    | scan levels flow =>
        have sensed := reaches_cycleDelta reaches flow
        exact reaches_cycleKey (reaches_cycleKey (reaches_cycleKey sensed .k2 _) .k1 _) .k0 _
    | lcd event => exact reaches.step event
    | deltapressEnable value => exact reaches
  have steps : Throughout Keypad.step (fun keypad => Reaches lcd keypad.lcd) (Keypad.create lcd deltapressEnable)
      events := throughout_of_step initial preserved
  exact steps.last

end Display

/-- In every run the long press of a key is released once for each hold that
reaches its number of long presses, the unfinished hold included. -/
theorem long_released_once (lcd : Lcd) (deltapressEnable : Bool) (key : Key) (events : List KeypadEvent) :
    (run Keypad.step (Keypad.create lcd deltapressEnable) events).released.count (.long key) =
      (HoldLog.of (triggered key events)).reaching (enough key) :=
  (follows_run (create_follows lcd deltapressEnable key) events).tally.released

end SyrFilter.Panel
