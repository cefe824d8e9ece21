import SyrFilter.Lib.Transducer

namespace SyrFilter.Keys

/-! # The button driver

`packages/button-v1.0.1/button.c` with the macros that `rtconfig.h` sets.  The
button thread calls `Button_Cycle_Process` every 10 ms, a scan, which reads the
level of the pin and puts out the events whose callbacks it triggers.
-/

/-- `Button_Event`, as a state and as an event. -/
inductive ButtonEvent where
  | dowm
  | up
  | double
  | long
  | longFree
  | noneTrigger
deriving DecidableEq, Repr

def buttonDebounceTime : Nat := 2
def buttonLongCycle : Nat := 25
def buttonDoubleTime : Nat := 15
def buttonLongTime : Nat := 100

/-- `Button_t`.  The counters are bytes; a level is what `rt_pin_read` gives. -/
structure Button where
  buttonState : ButtonEvent
  buttonLastState : ButtonEvent
  buttonTriggerLevel : Bool
  buttonLastLevel : Bool
  buttonTriggerEvent : ButtonEvent
  buttonCycle : Nat
  timerCount : Nat
  debounceTime : Nat
  longTime : Nat
  longFlag : Bool
deriving DecidableEq, Repr

/-- `Button_Create` -/
def buttonCreate (btnTriggerLevel : Bool) : Button where
  buttonState := .noneTrigger
  buttonLastState := .noneTrigger
  buttonTriggerLevel := btnTriggerLevel
  buttonLastLevel := true
  buttonTriggerEvent := .noneTrigger
  buttonCycle := 0
  timerCount := 0
  debounceTime := 0
  longTime := 0
  longFlag := false

namespace Button

variable {btn : Button} {level : Bool} {levels : List Bool}

/-- `++` on a byte. -/
def next (count : Nat) : Nat := (count + 1) % 256

/-! ## `Button_Cycle_Process` -/

/-- The state after a level that has been taken over. -/
def turn : ButtonEvent → ButtonEvent
  | .noneTrigger => .dowm
  | .double => .dowm
  | .dowm => .up
  | state => state

def takeOver (btn : Button) (level : Bool) : Button :=
  { btn with
    buttonLastLevel := level
    debounceTime := 0
    buttonState := turn btn.buttonState }

/-- A level that differs counts; the second one is taken over. -/
def debounce (btn : Button) (level : Bool) : Button :=
  if level ≠ btn.buttonLastLevel then
    if buttonDebounceTime ≤ next btn.debounceTime then btn.takeOver level
    else { btn with debounceTime := next btn.debounceTime }
  else btn

def longPress (btn : Button) : Button × List ButtonEvent :=
  if buttonLongCycle ≤ next btn.buttonCycle then
    ({ btn with buttonCycle := 0, buttonTriggerEvent := .long, longFlag := true }, [.long])
  else ({ btn with buttonCycle := next btn.buttonCycle }, [])

/-- A `Long_Time` that would overflow is put back to where long presses start. -/
def wrapLongTime (btn : Button) : Button :=
  if btn.longTime = 0xFF then { btn with longTime := buttonLongTime } else btn

def countLongTime (btn : Button) : Button :=
  { btn with buttonTriggerEvent := .dowm, longTime := next btn.longTime }

/-- `case BUTTON_DOWM` -/
def onDowm (btn : Button) : Button × List ButtonEvent :=
  if btn.buttonLastLevel = btn.buttonTriggerLevel then
    if buttonLongTime ≤ btn.countLongTime.longTime then
      (btn.countLongTime.longPress.1.wrapLongTime, btn.countLongTime.longPress.2)
    else (btn.countLongTime, [])
  else (btn, [])

/-- `case BUTTON_UP` -/
def onUp (btn : Button) : Button × List ButtonEvent :=
  if btn.longFlag then
    ({ btn with
        longFlag := false
        longTime := 0
        buttonState := .noneTrigger
        buttonLastState := .long }, [.longFree])
  else if btn.buttonTriggerEvent = .dowm then
    if btn.timerCount ≤ buttonDoubleTime ∧ btn.buttonLastState = .double then
      ({ btn with
          buttonTriggerEvent := .double
          buttonState := .noneTrigger
          buttonLastState := .noneTrigger }, [.double])
    else
      ({ btn with
          timerCount := 0
          longTime := 0
          buttonState := .double
          buttonLastState := .double }, [.dowm])
  else (btn, [])

/-- `case BUTTON_DOUBLE` -/
def onDouble (btn : Button) : Button × List ButtonEvent :=
  let counted := { btn with timerCount := next btn.timerCount }
  if buttonDoubleTime ≤ counted.timerCount then
    ({ counted with buttonState := .noneTrigger, buttonLastState := .noneTrigger }, [])
  else (counted, [])

/-- The `switch` of `Button_Cycle_Process`. -/
def dispatch (btn : Button) : Button × List ButtonEvent :=
  match btn.buttonState with
  | .dowm => btn.onDowm
  | .up => btn.onUp
  | .double => btn.onDouble
  | _ => (btn, [])

def cycleProcess (btn : Button) (level : Bool) : Button × List ButtonEvent := (btn.debounce level).dispatch

/-! ## What holds between scans -/

/-- The level that was taken over last is that of a pressed button. -/
def Pressed (btn : Button) : Prop := btn.buttonLastLevel = btn.buttonTriggerLevel

instance : Decidable btn.Pressed := inferInstanceAs (Decidable (_ = _))

structure InRange (btn : Button) : Prop where
  debouncing : btn.debounceTime < buttonDebounceTime
  cycling : btn.buttonCycle < buttonLongCycle
  timing : btn.longTime < 0xFF
  tapped : btn.buttonLastState = .double → btn.timerCount < buttonDoubleTime

structure WellFormed (btn : Button) : Prop extends InRange btn where
  state : btn.buttonState = if btn.Pressed then .dowm else if btn.buttonLastState = .double then .double else .noneTrigger
  event : btn.Pressed → btn.longFlag = false → btn.buttonTriggerEvent = .dowm
  flag : btn.longFlag = true → btn.Pressed

theorem buttonCreate_wellFormed : (buttonCreate false).WellFormed where
  debouncing := by decide
  cycling := by decide
  timing := by decide
  tapped := nofun
  state := by decide
  event := nofun
  flag := nofun

theorem next_of_lt {count : Nat} (small : count < 0xFF) : next count = count + 1 := by
  rw [next]
  omega

/-! ## One scan -/

/-- A scan that takes no level over. -/
theorem debounce_keeps (wellFormed : btn.WellFormed)
    (still : level = btn.buttonLastLevel ∨ btn.debounceTime = 0) :
    ∃ debounceTime < buttonDebounceTime, btn.debounce level = { btn with debounceTime } := by
  have small := wellFormed.debouncing
  by_cases same : level = btn.buttonLastLevel
  · exact ⟨btn.debounceTime, small, by simp [debounce, same]⟩
  · have zero : btn.debounceTime = 0 := still.resolve_left same
    exact ⟨1, by decide, by simp [debounce, same, zero, next, buttonDebounceTime]⟩

/-- A scan that takes a level over. -/
theorem debounce_turns (wellFormed : btn.WellFormed) (differs : level ≠ btn.buttonLastLevel)
    (second : btn.debounceTime ≠ 0) : btn.debounce level = btn.takeOver level := by
  have one : btn.debounceTime = 1 := by
    have small := wellFormed.debouncing
    simp only [buttonDebounceTime] at small
    omega
  simp [debounce, differs, one, next, buttonDebounceTime]

theorem longPress_fires (full : btn.buttonCycle + 1 = buttonLongCycle) :
    btn.longPress = ({ btn with buttonCycle := 0, buttonTriggerEvent := .long, longFlag := true }, [.long]) := by
  have step : next btn.buttonCycle = btn.buttonCycle + 1 :=
    next_of_lt (by simp only [buttonLongCycle] at full; omega)
  simp [longPress, step, full]

theorem longPress_counts (more : btn.buttonCycle + 1 < buttonLongCycle) :
    btn.longPress = ({ btn with buttonCycle := btn.buttonCycle + 1 }, []) := by
  have step : next btn.buttonCycle = btn.buttonCycle + 1 :=
    next_of_lt (by simp only [buttonLongCycle] at more; omega)
  simp [longPress, step, Nat.not_le.mpr more]

theorem wrapLongTime_eq :
    btn.wrapLongTime = { btn with longTime := if btn.longTime = 0xFF then buttonLongTime else btn.longTime } := by
  rw [wrapLongTime]
  split <;> rfl

theorem countLongTime_longTime (timing : btn.longTime < 0xFF) :
    btn.countLongTime.longTime = btn.longTime + 1 := next_of_lt timing

theorem onDowm_of_pressed (pressed : btn.Pressed) (timing : btn.longTime < 0xFF) :
    btn.onDowm =
      if buttonLongTime ≤ btn.longTime + 1 then
        (btn.countLongTime.longPress.1.wrapLongTime, btn.countLongTime.longPress.2)
      else (btn.countLongTime, []) := by
  have level : btn.buttonLastLevel = btn.buttonTriggerLevel := pressed
  rw [onDowm, if_pos level, countLongTime_longTime timing]

/-- The counter of a long press, away from the end of its byte. -/
def longTimeAfter (longTime : Nat) : Nat := if longTime + 1 = 0xFF then buttonLongTime else longTime + 1

section OnDowm

variable (pressed : btn.Pressed) (timing : btn.longTime < 0xFF)
include pressed timing

theorem onDowm_early (early : btn.longTime + 1 < buttonLongTime) :
    btn.onDowm = ({ btn with buttonTriggerEvent := .dowm, longTime := btn.longTime + 1 }, []) := by
  rw [onDowm_of_pressed pressed timing, if_neg (Nat.not_le.mpr early), countLongTime, next_of_lt timing]

theorem onDowm_fires (ripe : buttonLongTime ≤ btn.longTime + 1) (full : btn.buttonCycle + 1 = buttonLongCycle) :
    btn.onDowm =
      ({ btn with
          buttonTriggerEvent := .long
          longTime := longTimeAfter btn.longTime
          buttonCycle := 0
          longFlag := true }, [.long]) := by
  have fires := @longPress_fires btn.countLongTime full
  rw [onDowm_of_pressed pressed timing, if_pos ripe, fires, wrapLongTime_eq]
  dsimp only
  rw [countLongTime_longTime timing]
  rfl

theorem onDowm_counts (ripe : buttonLongTime ≤ btn.longTime + 1) (more : btn.buttonCycle + 1 < buttonLongCycle) :
    btn.onDowm =
      ({ btn with
          buttonTriggerEvent := .dowm
          longTime := longTimeAfter btn.longTime
          buttonCycle := btn.buttonCycle + 1 }, []) := by
  have counts := @longPress_counts btn.countLongTime more
  rw [onDowm_of_pressed pressed timing, if_pos ripe, counts, wrapLongTime_eq]
  dsimp only
  rw [countLongTime_longTime timing]
  rfl

end OnDowm

end Button

end SyrFilter.Keys
