import Mathlib.Data.Finset.Basic

namespace SyrFilter

/-! # The RT-Thread objects the firmware shares between its tasks

Only what the callers rely on is kept: whether a timer is armed and with which
tick count, and which bits of an event object are pending.
-/

/-- An `rt_timer`: its activation flag and its `init_tick`. -/
structure Timer where
  active : Bool
  initTick : Nat
deriving DecidableEq, Repr

namespace Timer

/-- `rt_timer_create`: a fresh timer is not armed. -/
def create (initTick : Nat) : Timer := { active := false, initTick }

/-- What `rt_timer_start` does behind its assertion. -/
def start (timer : Timer) : Timer := { timer with active := true }

def stop (timer : Timer) : Timer := { timer with active := false }

/-- `rt_timer_control` with `RT_TIMER_CTRL_SET_TIME`. -/
def setTime (timer : Timer) (initTick : Nat) : Timer := { timer with initTick }

/-- What `rt_timer_start` asserts, `init_tick < RT_TICK_MAX / 2`. -/
def Startable (timer : Timer) : Prop := timer.initTick < 0xFFFFFFFF / 2

instance (timer : Timer) : Decidable timer.Startable := inferInstanceAs (Decidable (_ < _))

@[simp] theorem create_active (initTick : Nat) : (create initTick).active = false := rfl
@[simp] theorem start_active (timer : Timer) : timer.start.active = true := rfl
@[simp] theorem stop_active (timer : Timer) : timer.stop.active = false := rfl
@[simp] theorem setTime_active (timer : Timer) (initTick : Nat) :
    (timer.setTime initTick).active = timer.active := rfl

end Timer

/-- The bits of `lcd_jump_event`. -/
inductive JumpEvent where
  | back
  | tds
  | stalling
  | finish
  | nomoto
  | exit
deriving DecidableEq, Repr

/-- `rt_event_send` on a set of pending bits. -/
def eventSend (pending : Finset JumpEvent) (event : JumpEvent) : Finset JumpEvent :=
  insert event pending

end SyrFilter
