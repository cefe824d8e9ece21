import Mathlib.Data.List.Count
import SyrFilter.Keys.Reports
import SyrFilter.Panel.Lcd

namespace SyrFilter.Panel

open SyrFilter.Lib SyrFilter.Keys

/-! # The keys

`applications/key.c`: three keys and the flow sensor, each a button of the
driver whose events release semaphores.  `Button_Create` puts a button in front
of the list, so a scan goes from the sensor back to `Key0`.  The sensor has a
callback for `BUTTON_DOWM` only, and nobody has one for `BUTTON_DOUBLE`.
-/

inductive Key where
  | k0
  | k1
  | k2
deriving DecidableEq, Repr

inductive Sem where
  /-- `K0_Sem`, `K1_Sem`, `K2_Sem` -/
  | click (key : Key)
  /-- `K0_Long_Sem`, `K1_Long_Sem`, `K2_Long_Sem` -/
  | long (key : Key)
deriving DecidableEq, Repr

/-- `Kn_OnceFlag` and `Kn_Long_Sem_Counter`. -/
structure Latch where
  onceFlag : Bool
  longSemCounter : Nat
deriving DecidableEq

structure Keypad where
  button : Key → Button
  delta : Button
  latch : Key → Latch
  lcd : Lcd
  deltapressEnable : Bool
  /-- The semaphores released, in order. -/
  released : List Sem
  /-- Calls of `JumptoDelta`. -/
  deltaJumps : Nat

namespace Keypad

variable (keypad : Keypad)

def release (sem : Sem) : Keypad := { keypad with released := keypad.released ++ [sem] }

def setLatch (key : Key) (latch : Latch) : Keypad := { keypad with latch := Function.update keypad.latch key latch }

/-- `OpenLcdDisplay` and `ScreenTimerRefresh`. -/
def wakeScreen : Keypad := { keypad with lcd := keypad.lcd.openLcdDisplay.screenTimerRefresh }

def semRelease (key : Key) : Keypad :=
  if keypad.wakeScreen.lcd.lcdFlag = .operable then keypad.wakeScreen.release (.click key) else keypad.wakeScreen

def k0SemRelease : Keypad := keypad.semRelease .k0

def k1SemRelease : Keypad := keypad.semRelease .k1

def k2SemRelease : Keypad := keypad.semRelease .k2

/-- The long press of a key that repeats its click once it has been released. -/
def longSemRelease (key : Key) : Keypad :=
  let latch := keypad.latch key
  if latch.onceFlag then keypad.wakeScreen.release (.click key)
  else if 0 < latch.longSemCounter then
    (keypad.wakeScreen.setLatch key { latch with onceFlag := true }).release (.long key)
  else keypad.wakeScreen.setLatch key { latch with longSemCounter := (latch.longSemCounter + 1) % 256 }

def k0LongSemRelease : Keypad := keypad.longSemRelease .k0

def k1LongSemRelease : Keypad := keypad.longSemRelease .k1

def k2LongSemRelease : Keypad :=
  let latch := keypad.latch .k2
  if latch.onceFlag then keypad
  else if 6 < latch.longSemCounter then
    (keypad.wakeScreen.setLatch .k2 { latch with onceFlag := true }).release (.long .k2)
  else keypad.wakeScreen.setLatch .k2 { latch with longSemCounter := (latch.longSemCounter + 1) % 256 }

def longFreeRelease (key : Key) : Keypad := (keypad.setLatch key ⟨false, 0⟩).wakeScreen

def k0LongFreeRelease : Keypad := keypad.longFreeRelease .k0

def k1LongFreeRelease : Keypad := keypad.longFreeRelease .k1

def k2LongFreeRelease : Keypad := keypad.longFreeRelease .k2

/-- `Delta_Release`, with `OpenLcdDisplayNoBL` at the head of `JumptoDelta`. -/
def deltaRelease : Keypad :=
  if keypad.deltapressEnable then
    { keypad with lcd := keypad.lcd.openLcdDisplayNoBL, deltaJumps := keypad.deltaJumps + 1 }
  else keypad

/-- The callbacks that `button_task_entry` attaches. -/
def callback : Key → ButtonEvent → Keypad
  | .k0, .dowm => keypad.k0SemRelease
  | .k0, .long => keypad.k0LongSemRelease
  | .k0, .longFree => keypad.k0LongFreeRelease
  | .k1, .dowm => keypad.k1SemRelease
  | .k1, .long => keypad.k1LongSemRelease
  | .k1, .longFree => keypad.k1LongFreeRelease
  | .k2, .dowm => keypad.k2SemRelease
  | .k2, .long => keypad.k2LongSemRelease
  | .k2, .longFree => keypad.k2LongFreeRelease
  | _, _ => keypad

def deltaCallback : ButtonEvent → Keypad
  | .dowm => keypad.deltaRelease
  | _ => keypad

def putButton (key : Key) (btn : Button) : Keypad := { keypad with button := Function.update keypad.button key btn }

def cycleKey (key : Key) (level : Bool) : Keypad :=
  let (btn, events) := (keypad.button key).cycleProcess level
  events.foldl (fun keypad event => keypad.callback key event) (keypad.putButton key btn)

def cycleDelta (level : Bool) : Keypad :=
  let (btn, events) := keypad.delta.cycleProcess level
  events.foldl deltaCallback { keypad with delta := btn }

/-- `Button_Process` -/
def buttonProcess (levels : Key → Bool) (flow : Bool) : Keypad :=
  (((keypad.cycleDelta flow).cycleKey .k2 (levels .k2)).cycleKey .k1 (levels .k1)).cycleKey .k0 (levels .k0)

end Keypad

inductive KeypadEvent where
  /-- One turn of `button_task_entry`. -/
  | scan (levels : Key → Bool) (flow : Bool)
  /-- What other threads do to the display. -/
  | lcd (event : LcdEvent)
  | deltapressEnable (value : Bool)

def Keypad.step (keypad : Keypad) : KeypadEvent → Keypad
  | .scan levels flow => keypad.buttonProcess levels flow
  | .lcd event => { keypad with lcd := keypad.lcd.step event }
  | .deltapressEnable value => { keypad with deltapressEnable := value }

/-- `Key_Sem_init` and the four calls of `Button_Create`. -/
def Keypad.create (lcd : Lcd) (deltapressEnable : Bool) : Keypad where
  button _ := buttonCreate false
  delta := buttonCreate false
  latch _ := ⟨false, 0⟩
  lcd := lcd
  deltapressEnable := deltapressEnable
  released := []
  deltaJumps := 0

end SyrFilter.Panel
