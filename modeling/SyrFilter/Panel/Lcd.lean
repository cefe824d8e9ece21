import SyrFilter.Lib.Runs
import SyrFilter.Rtos

namespace SyrFilter.Panel

open SyrFilter.Lib

/-! # The power of the display

`LCD_Flag` of `display/12864.c`, the backlight timer of `applications/low.c` and
the pins behind them.  Keys, timers, wake-ups and the threads that jump to a
window switch the display on and off; going to sleep cuts its supply.
-/

/-- `LCD_Flag`, from 0 to 3. -/
inductive LcdFlag where
  | operable
  | lit
  | dark
  | off
deriving DecidableEq, Repr

structure Lcd where
  lcdFlag : LcdFlag
  /-- `LCD_BK_PIN` -/
  backlight : Bool
  /-- `LCD_PWR_PIN` -/
  vcc : Bool
  /-- The controller has had its start sequence since it was last reset or without supply. -/
  started : Bool
  backlightTimer : Timer
  /-- The value of `lcd_refresh_sem`. -/
  refreshSem : Nat
deriving DecidableEq

namespace Lcd

variable (lcd : Lcd)

/-- `lcd_gpio_init` of `drivers/drv_lcd.c`, which ends with a pulse on the reset pin. -/
def lcdGpioInit : Lcd := { lcd with backlight := true, vcc := true, started := false }

def lcdInit : Lcd := { lcd.lcdGpioInit with started := true }

def openLcdDisplay : Lcd :=
  match lcd.lcdFlag with
  | .operable => lcd
  | .lit => { lcd with lcdFlag := .operable, backlight := true }
  | .dark => { lcd with lcdFlag := .lit, backlight := true }
  | .off => { lcd with lcdFlag := .lit }.lcdInit

def openLcdDisplayNoBL : Lcd :=
  match lcd.lcdFlag with
  | .off => { lcd with lcdFlag := .dark }.lcdInit
  | _ => lcd

def screenTimerRefresh : Lcd := { lcd with backlightTimer := lcd.backlightTimer.start }

def screenTimerStop : Lcd := { lcd with backlightTimer := lcd.backlightTimer.stop }

def lcdRefresh : Lcd := { lcd with refreshSem := lcd.refreshSem + 1 }

/-- The backlight that the caller asks for is on by then anyway. -/
def lcdRestart (backlight : Bool) : Lcd :=
  match lcd.screenTimerRefresh.lcdFlag with
  | .off =>
      let initialised := lcd.screenTimerRefresh.lcdGpioInit
      (if backlight then { initialised with backlight := true } else initialised).lcdRefresh
  | _ => lcd.screenTimerRefresh

def closeLcdVcc : Lcd := { lcd with lcdFlag := .off, vcc := false, started := false }

def openLcdVcc : Lcd := { lcd with vcc := true }

def closeLcdBacklight : Lcd := { lcd with lcdFlag := .dark, backlight := false }

def lcdBacklightTimerCallback : Lcd := { lcd with lcdFlag := .dark }.closeLcdBacklight

/-- The loop of `lcd_task_entry` before `GuiWinDisplay`. -/
def pollRefresh : Lcd :=
  if 0 < lcd.refreshSem then { lcd with refreshSem := lcd.refreshSem - 1 }.openLcdDisplayNoBL else lcd

end Lcd

inductive LcdEvent where
  /-- The callback of a key. -/
  | key
  /-- A jump to a window, or a backwash from the cloud. -/
  | jump
  | restart (backlight : Bool)
  | poll
  | timerRefresh
  /-- `Moto_Cycle`, or the update window when it begins to search. -/
  | timerStop
  | backlightTimer
  /-- `BeforeSleep` -/
  | sleep
  /-- `AfterWake` -/
  | wake
deriving DecidableEq

/-- A timer that is not armed does not expire. -/
def Lcd.step (lcd : Lcd) : LcdEvent → Lcd
  | .key => lcd.openLcdDisplay.screenTimerRefresh
  | .jump => lcd.openLcdDisplayNoBL
  | .restart backlight => lcd.lcdRestart backlight
  | .poll => lcd.pollRefresh
  | .timerRefresh => lcd.screenTimerRefresh
  | .timerStop => lcd.screenTimerStop
  | .backlightTimer =>
      if lcd.backlightTimer.active then
        { lcd with backlightTimer := lcd.backlightTimer.stop }.lcdBacklightTimerCallback
      else lcd
  | .sleep => lcd.closeLcdVcc
  | .wake => lcd.openLcdVcc

/-- The display when `lcd_task_entry` enters its loop. -/
def Lcd.boot : Lcd where
  lcdFlag := .operable
  backlight := true
  vcc := true
  started := true
  backlightTimer := (Timer.create 60000).start
  refreshSem := 0

/-! ## The controller -/

/-- A display that is not off shows what it is sent. -/
def Lcd.Usable (lcd : Lcd) : Prop := lcd.lcdFlag ≠ .off → lcd.started = true ∧ lcd.vcc = true

/-- The backlight timer does not expire while the display is off. -/
def Lcd.ExpiresOn (lcd : Lcd) (event : LcdEvent) : Prop :=
  event = .backlightTimer → lcd.backlightTimer.active = true → lcd.lcdFlag ≠ .off

section Usable

variable {lcd other : Lcd} {event : LcdEvent}

/-- A display is started exactly when it is not off, and then has its supply. -/
structure Lcd.Sound (lcd : Lcd) : Prop where
  usable : lcd.Usable
  unstarted : lcd.lcdFlag = .off → lcd.started = false

namespace Lcd.Sound

theorem of_same (sound : lcd.Sound) (flag : other.lcdFlag = .off ↔ lcd.lcdFlag = .off)
    (started : other.started = lcd.started) (vcc : lcd.vcc = true → other.vcc = true) : other.Sound where
  usable := by
    intro on
    rw [started]
    have kept := sound.usable fun off => on (flag.mpr off)
    exact ⟨kept.1, vcc kept.2⟩
  unstarted := by
    intro off
    rw [started]
    exact sound.unstarted (flag.mp off)

theorem lcdInit (on : lcd.lcdFlag ≠ .off) : lcd.lcdInit.Sound := ⟨fun _ => ⟨rfl, rfl⟩, fun off => absurd off on⟩

theorem openLcdDisplay (sound : lcd.Sound) : lcd.openLcdDisplay.Sound := by
  rw [Lcd.openLcdDisplay]
  split
  · exact sound
  · rename_i flag
    exact sound.of_same (by simp [flag]) rfl id
  · rename_i flag
    exact sound.of_same (by simp [flag]) rfl id
  · exact lcdInit nofun

theorem openLcdDisplayNoBL (sound : lcd.Sound) : lcd.openLcdDisplayNoBL.Sound := by
  rw [Lcd.openLcdDisplayNoBL]
  split
  · exact lcdInit nofun
  · exact sound

theorem screenTimerRefresh (sound : lcd.Sound) : lcd.screenTimerRefresh.Sound := sound.of_same Iff.rfl rfl id

theorem lcdRestart (sound : lcd.Sound) (backlight : Bool) : (lcd.lcdRestart backlight).Sound := by
  rw [Lcd.lcdRestart]
  split
  · rename_i off
    constructor
    · cases backlight <;> exact fun on => absurd off on
    · cases backlight <;> exact fun _ => rfl
  · exact sound.screenTimerRefresh

theorem closeLcdVcc : lcd.closeLcdVcc.Sound := ⟨fun on => absurd rfl on, fun _ => rfl⟩

theorem pollRefresh (sound : lcd.Sound) : lcd.pollRefresh.Sound := by
  rw [Lcd.pollRefresh]
  split
  · exact openLcdDisplayNoBL (sound.of_same Iff.rfl rfl id)
  · exact sound

/-- An expiry takes the display for a dark one, whatever it was. -/
theorem usable_expired_iff (sound : lcd.Sound) :
    (lcd.step .backlightTimer).Usable ↔ lcd.ExpiresOn .backlightTimer := by
  rw [Lcd.step, Lcd.ExpiresOn]
  split
  · rename_i armed
    constructor
    · intro usable _ _ off
      have started := (usable nofun).1
      simp [lcdBacklightTimerCallback, closeLcdBacklight, sound.unstarted off] at started
    · intro expires _
      exact sound.usable (expires rfl armed)
  · rename_i idle
    exact iff_of_true sound.usable fun _ armed => absurd armed idle

theorem unstarted_expired (sound : lcd.Sound) :
    (lcd.step .backlightTimer).lcdFlag = .off → (lcd.step .backlightTimer).started = false := by
  rw [Lcd.step]
  split
  · exact nofun
  · exact sound.unstarted

theorem step_other (sound : lcd.Sound) (other : event ≠ .backlightTimer) : (lcd.step event).Sound := by
  cases event with
  | backlightTimer => exact absurd rfl other
  | key => exact sound.openLcdDisplay.screenTimerRefresh
  | jump => exact sound.openLcdDisplayNoBL
  | restart backlight => exact sound.lcdRestart backlight
  | poll => exact sound.pollRefresh
  | timerRefresh => exact sound.screenTimerRefresh
  | timerStop => exact sound.of_same Iff.rfl rfl id
  | sleep => exact closeLcdVcc
  | wake => exact sound.of_same Iff.rfl rfl fun _ => rfl

theorem usable_step_iff (sound : lcd.Sound) : (lcd.step event).Usable ↔ lcd.ExpiresOn event := by
  by_cases timer : event = .backlightTimer
  · rw [timer]
    exact sound.usable_expired_iff
  · exact iff_of_true (sound.step_other timer).usable fun expiry => absurd expiry timer

theorem unstarted_step (sound : lcd.Sound) : (lcd.step event).lcdFlag = .off → (lcd.step event).started = false := by
  by_cases timer : event = .backlightTimer
  · rw [timer]
    exact sound.unstarted_expired
  · exact (sound.step_other timer).unstarted

end Lcd.Sound

theorem boot_sound : Lcd.boot.Sound := ⟨fun _ => ⟨rfl, rfl⟩, nofun⟩

/-- An expiry while the display is off leaves it unusable, and nothing else does. -/
theorem usable_throughout_iff (events : List LcdEvent) :
    Throughout Lcd.step Lcd.Usable Lcd.boot events ↔ EachStep Lcd.step Lcd.ExpiresOn Lcd.boot events := by
  refine throughout_iff_eachStep (fun lcd => lcd.lcdFlag = .off → lcd.started = false) boot_sound.unstarted
    boot_sound.usable ?_ ?_
  · exact fun lcd event unstarted usable _ => Lcd.Sound.unstarted_step ⟨usable, unstarted⟩
  · exact fun lcd event unstarted usable => Lcd.Sound.usable_step_iff ⟨usable, unstarted⟩

end Usable

/-! ## The backlight -/

/-- The backlight is on only while the timer that ends it runs. -/
def Lcd.Timed (lcd : Lcd) : Prop := lcd.backlight = true → lcd.backlightTimer.active = true

/-- `OpenLcdDisplayNoBL` starts a display that is off only while the timer runs, and
the timer is stopped only on a display without backlight. -/
def Lcd.KeepsTimed (lcd : Lcd) : LcdEvent → Prop
  | .jump => lcd.lcdFlag = .off → lcd.backlightTimer.active = true
  | .poll => 0 < lcd.refreshSem → lcd.lcdFlag = .off → lcd.backlightTimer.active = true
  | .timerStop => lcd.backlight = false
  | _ => True

section Timed

variable {lcd : Lcd} {event : LcdEvent}

/-- The display without backlight has it on after all. -/
theorem timed_openLcdDisplayNoBL_iff (timed : lcd.Timed) :
    lcd.openLcdDisplayNoBL.Timed ↔ (lcd.lcdFlag = .off → lcd.backlightTimer.active = true) := by
  rw [Lcd.openLcdDisplayNoBL]
  split
  · rename_i off
    exact ⟨fun after _ => after rfl, fun armed _ => armed off⟩
  · rename_i on
    exact iff_of_true timed fun off => absurd off on

theorem lcdRestart_timer (backlight : Bool) : (lcd.lcdRestart backlight).backlightTimer.active = true := by
  rw [Lcd.lcdRestart]
  split
  · cases backlight <;> rfl
  · rfl

theorem timed_pollRefresh_iff (timed : lcd.Timed) :
    lcd.pollRefresh.Timed ↔ (0 < lcd.refreshSem → lcd.lcdFlag = .off → lcd.backlightTimer.active = true) := by
  rw [Lcd.pollRefresh]
  by_cases pending : 0 < lcd.refreshSem
  · rw [if_pos pending]
    have taken : ({ lcd with refreshSem := lcd.refreshSem - 1 } : Lcd).Timed := timed
    exact (timed_openLcdDisplayNoBL_iff taken).trans ⟨fun starts _ => starts, fun starts => starts pending⟩
  · rw [if_neg pending]
    exact iff_of_true timed fun some => absurd some pending

theorem timed_step_iff (timed : lcd.Timed) : (lcd.step event).Timed ↔ lcd.KeepsTimed event := by
  cases event with
  | key => exact iff_of_true (fun _ => rfl) trivial
  | jump => exact timed_openLcdDisplayNoBL_iff timed
  | restart backlight => exact iff_of_true (fun _ => lcdRestart_timer backlight) trivial
  | poll => exact timed_pollRefresh_iff timed
  | timerRefresh => exact iff_of_true (fun _ => rfl) trivial
  | timerStop =>
      rw [Lcd.KeepsTimed, ← Bool.not_eq_true]
      exact ⟨fun after burns => Bool.false_ne_true (after burns), fun dark burns => absurd burns dark⟩
  | sleep => exact iff_of_true timed trivial
  | wake => exact iff_of_true timed trivial
  | backlightTimer =>
      refine iff_of_true ?_ trivial
      rw [Lcd.step]
      split
      · exact nofun
      · exact timed

/-- Whatever the threads do, the backlight burns without a timer to end it only
after a display that was off has been started without one, or after the timer has
been stopped on a lit display, as `Moto_Cycle` does. -/
theorem timed_throughout_iff (events : List LcdEvent) :
    Throughout Lcd.step Lcd.Timed Lcd.boot events ↔ EachStep Lcd.step Lcd.KeepsTimed Lcd.boot events :=
  throughout_iff_eachStep (fun _ => True) trivial (fun _ => rfl) (fun _ _ _ _ _ => trivial)
    fun _ _ _ timed => timed_step_iff timed

end Timed

end SyrFilter.Panel
