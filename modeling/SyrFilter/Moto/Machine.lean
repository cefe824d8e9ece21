import SyrFilter.Lib.Runs
import SyrFilter.Rtos

namespace SyrFilter.Moto

/-! # The backwash motor

`applications/moto.c` together with the overload interrupt of
`applications/adcwork.c`.  The two bridge inputs, the two limit switches, the
four one-shot timers and the analog watchdog are fields of one state; every
callback is a function on it.  Calls that leave the motor (LED, screen timer,
cloud event, RTC counters, TDS probe) are appended to `calls` in order.
-/

inductive WorkFlag where
  | stop
  | forward
  | waitback
  | back
  | reset
deriving DecidableEq, Repr

inductive Call where
  | rtcClear
  | screenTimerStop
  | screenTimerRefresh
  | eventUpload (status : Nat)
  | ledSelect (mode : Nat)
  | tdsWork
deriving DecidableEq, Repr

/-- What the motor reads and other tasks write: the battery lockout, the
settings, the last TDS reading and the motor current sample. -/
structure Inputs where
  lowVoltageFlag : Nat
  settingBackwashtime : Nat
  settingHardness : Nat
  tdsValue : Nat
  motoCurrent : Nat
deriving DecidableEq, Repr

structure State where
  workStatus : Nat
  workFlag : WorkFlag
  in1 : Bool
  in2 : Bool
  left : Bool
  right : Bool
  cycleTimer : Timer
  detectTimer : Timer
  currentTimer : Timer
  overloadDelayTimer : Timer
  awdInterrupt : Bool
  sleepLock : Bool
  tdsWarn : Nat
  jumpEvent : Finset JumpEvent
  inputs : Inputs
  calls : List Call
deriving DecidableEq

namespace State

def call (state : State) (made : Call) : State := { state with calls := state.calls ++ [made] }

/-- The `Jump_*` family: each posts one bit of `lcd_jump_event`. -/
def jump (state : State) (event : JumpEvent) : State :=
  { state with jumpEvent := eventSend state.jumpEvent event }

def jumpBack (state : State) : State := state.jump .back
def jumpTds (state : State) : State := state.jump .tds
def jumpStalling (state : State) : State := state.jump .stalling
def jumpFinish (state : State) : State := state.jump .finish
def jumpNomoto (state : State) : State := state.jump .nomoto
def jumpExit (state : State) : State := state.jump .exit

def motoPause (state : State) : State := { state with workStatus := 1 }

def motoResume (state : State) : State := { state with workStatus := 0 }

def getMotoValid (state : State) : Nat := if state.workFlag = .stop then 1 else 0

def getMotoStatus (state : State) : Nat :=
  match state.workFlag with
  | .stop => 10
  | .forward => 21
  | .waitback => 20
  | .back => 11
  | .reset => 10

def enableMotoInt (state : State) : State :=
  { state with overloadDelayTimer := state.overloadDelayTimer.start }

def disableMotoInt (state : State) : State :=
  { state with overloadDelayTimer := state.overloadDelayTimer.stop, awdInterrupt := false }

def overloadDelayTimerCallback (state : State) : State := { state with awdInterrupt := true }

def motoCurrentDetect (state : State) : State :=
  { state with currentTimer := state.currentTimer.start }

def adc1IrqHandler (state : State) : State := state.disableMotoInt.motoCurrentDetect

/-- `Moto_Run`.  The driving phases write the bridge only when their limit
switch still reads 1; otherwise the inputs keep what the last phase left.  The
timers are taken to start; where they do not is the subject of `Moto.stops`. -/
def motoRun (state : State) : WorkFlag → State
  | .stop =>
      { state.disableMotoInt with
        workFlag := .stop, in1 := false, in2 := false, detectTimer := state.detectTimer.stop }
  | .forward =>
      if state.right then
        { state.enableMotoInt with
          workFlag := .forward, in1 := false, in2 := true, detectTimer := state.detectTimer.start }
      else { state with workFlag := .forward, cycleTimer := state.cycleTimer.start }
  | .waitback =>
      { state.disableMotoInt with
        workFlag := .waitback, in1 := false, in2 := false, detectTimer := state.detectTimer.stop }
  | .back =>
      if state.left then
        { state.enableMotoInt with
          workFlag := .back, in1 := true, in2 := false, detectTimer := state.detectTimer.start }
      else { state with workFlag := .back }
  | .reset =>
      if state.left then { state.disableMotoInt with workFlag := .reset, in1 := true, in2 := false }
      else { state with workFlag := .reset }

/-- `(Setting_Backwashtime-20)*1000` stored to a `uint32_t`. -/
def backwashtimeMileSecond (settingBackwashtime : Nat) : Nat :=
  (((settingBackwashtime : Int) - 20) * 1000 % 0x100000000).toNat

def setPeriods (state : State) (mileSecond : Nat) : State :=
  { state with
    cycleTimer := state.cycleTimer.setTime mileSecond
    detectTimer := state.detectTimer.setTime ((mileSecond + 60 * 1000) % 0x100000000) }

/-- The part of `Moto_Cycle` behind its three checks. -/
def startCycle (state : State) : State :=
  ((((({ state with sleepLock := true }.call .screenTimerStop).setPeriods
    (backwashtimeMileSecond state.inputs.settingBackwashtime)).call (.eventUpload 1)).motoRun
      .forward).call (.ledSelect 2))

/-- `Moto_Cycle`; the flag is true for `RT_EOK`. -/
def motoCycle (state : State) : State × Bool :=
  if state.inputs.lowVoltageFlag ≠ 0 then ((state.call .rtcClear).jumpExit, false)
  else if state.workStatus ≠ 0 then ((state.call .rtcClear).jumpExit, false)
  else if state.workFlag = .stop ∨ state.workFlag = .reset then
    ((state.call .rtcClear).startCycle, true)
  else ((state.call .rtcClear).jumpExit, false)

def motoCycleTimerCallback (state : State) : State := state.motoRun .back

def motoCycleDone (state : State) : State :=
  { state.call .screenTimerRefresh with sleepLock := false }

def motoCurrentTimerCallback (state : State) : State :=
  if state.inputs.motoCurrent ≥ 45 then
    ((((state.call (.ledSelect 3)).motoRun .reset).call .screenTimerRefresh).jumpStalling).motoCycleDone
  else state.enableMotoInt

/-- `No Moto,Start to Free` of the detect timer. -/
def noMoto (state : State) : State := ((state.call (.ledSelect 3)).motoRun .reset).jumpNomoto

def motoDetectTimerCallback (state : State) : State :=
  match state.workFlag with
  | .forward => if state.right then state.noMoto.motoCycleDone else state.motoCycleDone
  | .back => if state.left then state.noMoto.motoCycleDone else state.motoCycleDone
  | _ => state.motoCycleDone

/-- The end of a cycle: the TDS reading decides between the hardness hint,
given once, and the plain finish. -/
def reportTds (state : State) : State :=
  if state.inputs.tdsValue ≥ state.inputs.settingHardness then
    if state.tdsWarn ≠ 0 then state.jumpFinish else { state with tdsWarn := 1 }.jumpTds
  else { state with tdsWarn := 0 }.jumpFinish

def motoLeftCallback (state : State) : State :=
  match state.workFlag with
  | .back => ((state.call (.ledSelect 3)).motoRun .stop).reportTds.motoCycleDone
  | .reset => state.motoRun .stop
  | _ => state

def armCycleTimer (state : State) : State :=
  { state with cycleTimer := state.cycleTimer.start }

def motoRightCallback (state : State) : State :=
  match state.workFlag with
  | .forward => ((state.jumpBack.motoRun .waitback).call .tdsWork).armCycleTimer
  | _ => state

/-- `Moto_Init` on a board whose limit switches read `left` and `right`. -/
def motoInit (left right : Bool) (inputs : Inputs) : State :=
  motoRun
    { workStatus := 0
      workFlag := .stop
      in1 := false
      in2 := false
      left
      right
      cycleTimer := .create (15 * 1000)
      detectTimer := .create (60 * 1000)
      currentTimer := .create 200
      overloadDelayTimer := .create 500
      awdInterrupt := false
      sleepLock := false
      tdsWarn := 0
      jumpEvent := ∅
      inputs
      calls := [] } .reset

end State

inductive Event where
  | cycle
  | leftLevel (level : Bool)
  | rightLevel (level : Bool)
  | cycleExpires
  | detectExpires
  | currentExpires
  | overloadDelayExpires
  | adcWatchdog
  | pause
  | resume
  | inputsChange (inputs : Inputs)
deriving DecidableEq, Repr

/-- One event.  A timer expires only while it is armed and the watchdog
interrupts only while it is enabled; elsewhere the event cannot happen and
leaves the state as it is.  A switch runs its callback on the change from 1 to 0. -/
def step (state : State) : Event → State
  | .cycle => state.motoCycle.1
  | .leftLevel level =>
      if state.left && !level then { state with left := level }.motoLeftCallback
      else { state with left := level }
  | .rightLevel level =>
      if state.right && !level then { state with right := level }.motoRightCallback
      else { state with right := level }
  | .cycleExpires =>
      if state.cycleTimer.active then
        { state with cycleTimer := state.cycleTimer.stop }.motoCycleTimerCallback
      else state
  | .detectExpires =>
      if state.detectTimer.active then
        { state with detectTimer := state.detectTimer.stop }.motoDetectTimerCallback
      else state
  | .currentExpires =>
      if state.currentTimer.active then
        { state with currentTimer := state.currentTimer.stop }.motoCurrentTimerCallback
      else state
  | .overloadDelayExpires =>
      if state.overloadDelayTimer.active then
        { state with overloadDelayTimer := state.overloadDelayTimer.stop }.overloadDelayTimerCallback
      else state
  | .adcWatchdog => if state.awdInterrupt then state.adc1IrqHandler else state
  | .pause => state.motoPause
  | .resume => state.motoResume
  | .inputsChange inputs => { state with inputs }

end SyrFilter.Moto
