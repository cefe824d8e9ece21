import Mathlib.Data.List.Nodup
import SyrFilter.Lib.Transducer
import SyrFilter.Storage.Env

namespace SyrFilter.Led

open SyrFilter.Lib SyrFilter.Storage.Env

/-! # The LED package

`packages/agile_led-latest/src/agile_led.c`: LED objects with a light mode, the
list of those that are active, and the thread that goes through the list.  What
a function writes to the pins is put out, oldest first.
-/

inductive Color where
  | red
  | green
  | blue
deriving DecidableEq, Repr

structure AgileLed where
  active : Bool
  pin : Nat
  pinBackup : Nat
  /-- `active_logic`, the level that lights the LED. -/
  activeLogic : Bool
  /-- `light_arr` with its `arr_num`, empty while it is `RT_NULL`. -/
  lightArr : List UInt32
  arrIndex : Nat
  loopInit : Int
  loopCnt : Int
  tickTimeout : UInt32
deriving DecidableEq, Repr

structure PinWrite where
  pin : Nat
  level : Bool
deriving DecidableEq, Repr

/-! ## Light modes -/

def comma : UInt8 := 0x2C

/-- How many values a light mode has: one behind each comma, but none behind
one that ends it. -/
def arrNum (lightMode : List UInt8) : Nat :=
  lightMode.count comma + if lightMode.getLast? = some comma then 0 else 1

/-- `strchr` and the step behind the comma. -/
def behindComma (text : List UInt8) : List UInt8 := (text.dropWhile (· ≠ comma)).drop 1

/-- The loop of `agile_led_get_light_arr`. -/
def lightValues : Nat → List UInt8 → List UInt32
  | 0, _ => []
  | left + 1, text => atol text :: lightValues left (behindComma text)

def getLightArr (lightMode : List UInt8) : List UInt32 := lightValues (arrNum lightMode) lightMode

/-! ## The functions -/

namespace AgileLed

variable (led : AgileLed)

def on : PinWrite := { pin := led.pin, level := led.activeLogic }

def off : PinWrite := { pin := led.pin, level := !led.activeLogic }

/-- `agile_led_create`, without its write; `garbage` is what `rt_malloc` returned. -/
def create (pin garbage : Nat) (activeLogic : Bool) (lightMode : List UInt8) (loopCnt : Int) (now : UInt32) :
    AgileLed where
  active := false
  pin := pin
  pinBackup := garbage
  activeLogic := activeLogic
  lightArr := getLightArr lightMode
  arrIndex := 0
  loopInit := loopCnt
  loopCnt := loopCnt
  tickTimeout := now

def pause : AgileLed := { led with pinBackup := led.pin, pin := 0 }

def resume : AgileLed := { led with pin := led.pinBackup }

def setLightMode (lightMode : List UInt8) (loopCnt : Int) (now : UInt32) : AgileLed :=
  { led with
    lightArr := getLightArr lightMode
    loopInit := loopCnt
    arrIndex := 0
    loopCnt := loopCnt
    tickTimeout := now }

/-- The index of the first value from `arr_index` on that is not 0. -/
def litIndex (lightArr : List UInt32) (index : Nat) : Nat :=
  index + ((lightArr.drop index).takeWhile (· = 0)).length

/-- What the thread does with an LED whose loops are not used up, and the index of
the value whose time begins. -/
def light (now : UInt32) : AgileLed × List Nat :=
  if now - led.tickTimeout < 0xFFFFFFFF / 2 then
    match led.lightArr[litIndex led.lightArr led.arrIndex]? with
    | some time =>
        let index := litIndex led.lightArr led.arrIndex
        ({ led with tickTimeout := now + time, arrIndex := index + 1 }, [index])
    | none =>
        ({ led with arrIndex := 0, loopCnt := if 0 < led.loopCnt then led.loopCnt - 1 else led.loopCnt }, [])
  else (led, [])

/-- Times at odd indices are dark. -/
def phase (index : Nat) : PinWrite := if index % 2 = 1 then led.off else led.on

def shine (now : UInt32) : AgileLed × List PinWrite := ((led.light now).1, (led.light now).2.map led.phase)

/-- What the thread does with an LED of its list; one whose loops are used up is stopped. -/
def process (now : UInt32) : AgileLed × List PinWrite :=
  if led.loopCnt = 0 then ({ led with active := false }, [led.off]) else led.shine now

end AgileLed

structure Leds where
  led : Color → AgileLed
  /-- `agile_led_list` -/
  list : List Color

namespace Leds

variable (leds : Leds) (color : Color)

def put (led : AgileLed) : Leds := { leds with led := Function.update leds.led color led }

/-- A list with the LED behind it; an LED that is active or has no light mode is left alone. -/
def start (now : UInt32) : Leds :=
  let led := leds.led color
  if led.active then leds
  else if led.lightArr = [] then leds
  else
    { leds.put color { led with arrIndex := 0, loopCnt := led.loopInit, tickTimeout := now, active := true } with
      list := leds.list ++ [color] }

def stop : Leds × List PinWrite :=
  let led := leds.led color
  if led.active then
    ({ leds.put color { led with active := false } with list := leds.list.erase color }, [led.off])
  else (leds, [])

def on : List PinWrite := [(leds.led color).on]

def off : List PinWrite := [(leds.led color).off]

def pause : Leds := leds.put color (leds.led color).pause

def resume : Leds := leds.put color (leds.led color).resume

def setLightMode (lightMode : List UInt8) (loopCnt : Int) (now : UInt32) : Leds :=
  leds.put color ((leds.led color).setLightMode lightMode loopCnt now)

/-- The thread goes through the nodes; an LED whose loops are used up is stopped,
and the thread begins again at the front of the list. -/
def processNodes (now : UInt32) : List Color → Leds → Leds × List PinWrite × Bool
  | [], leds => (leds, [], false)
  | color :: rest, leds =>
      if (leds.led color).loopCnt = 0 then ((leds.stop color).1, (leds.stop color).2, true)
      else
        let shone := (leds.led color).shine now
        let later := processNodes now rest (leds.put color shone.1)
        (later.1, shone.2 ++ later.2.1, later.2.2)

/-- So many passes from the front of the list. -/
def passes (now : UInt32) : Nat → Leds → Leds × List PinWrite
  | 0, leds => (leds, [])
  | more + 1, leds =>
      let pass := processNodes now leds.list leds
      if pass.2.2 then
        let again := passes now more pass.1
        (again.1, pass.2.1 ++ again.2)
      else (pass.1, pass.2.1)

/-- One round of `led_process`.  A pass that begins again has taken an LED off the list. -/
def ledProcess (now : UInt32) : Leds × List PinWrite := passes now (leds.list.length + 1) leds

/-- The list holds the active LEDs, each once. -/
structure WellFormed (leds : Leds) : Prop where
  nodup : leds.list.Nodup
  listed : ∀ color, color ∈ leds.list ↔ (leds.led color).active = true

section Lists

variable {leds : Leds} {color other : Color} {led : AgileLed}

@[simp] theorem put_list : (leds.put color led).list = leds.list := rfl

theorem led_put (other : Color) : (leds.put color led).led other = if other = color then led else leds.led other :=
  Function.update_apply _ _ _ _

theorem put_wellFormed (wellFormed : leds.WellFormed) (active : led.active = (leds.led color).active) :
    (leds.put color led).WellFormed where
  nodup := wellFormed.nodup
  listed := by
    intro other
    rw [put_list, wellFormed.listed other, led_put]
    split
    · rename_i same
      rw [same, active]
    · rfl

theorem start_wellFormed (wellFormed : leds.WellFormed) (now : UInt32) : (leds.start color now).WellFormed := by
  rw [start]
  split
  · exact wellFormed
  · rename_i inactive
    split
    · exact wellFormed
    · have absent : color ∉ leds.list := mt (wellFormed.listed color).mp inactive
      have nodup : (leds.list ++ [color]).Nodup := by
        rw [← List.concat_eq_append]
        exact wellFormed.nodup.concat absent
      refine ⟨nodup, fun other => ?_⟩
      · dsimp only
        rw [List.mem_append, List.mem_singleton, wellFormed.listed other, led_put]
        split
        · rename_i same
          exact iff_of_true (.inr same) rfl
        · rename_i apart
          exact or_iff_left apart

theorem stop_wellFormed (wellFormed : leds.WellFormed) : (leds.stop color).1.WellFormed := by
  rw [stop]
  split
  · refine ⟨wellFormed.nodup.erase _, fun other => ?_⟩
    dsimp only
    rw [wellFormed.nodup.mem_erase_iff, wellFormed.listed other, led_put]
    split
    · rename_i same
      exact iff_of_false (fun both => both.1 same) (by simp)
    · rename_i apart
      exact and_iff_right apart
  · exact wellFormed

theorem shine_active (led : AgileLed) (now : UInt32) : (led.shine now).1.active = led.active := by
  rw [AgileLed.shine, AgileLed.light]
  split
  · split <;> rfl
  · rfl

/-- A pass keeps the list unless it takes off it the LED that makes it begin again. -/
theorem processNodes_spec (now : UInt32) (nodes : List Color) (wellFormed : leds.WellFormed)
    (listed : ∀ color ∈ nodes, color ∈ leds.list) :
    (processNodes now nodes leds).1.WellFormed ∧
      (processNodes now nodes leds).1.list.length + (if (processNodes now nodes leds).2.2 then 1 else 0) =
        leds.list.length := by
  induction nodes generalizing leds with
  | nil => exact ⟨wellFormed, rfl⟩
  | cons color rest ih =>
      rw [processNodes]
      split
      · refine ⟨stop_wellFormed wellFormed, ?_⟩
        have member := listed color List.mem_cons_self
        have active := (wellFormed.listed color).mp member
        have filled := List.length_pos_of_mem member
        rw [stop, if_pos active]
        dsimp only
        rw [if_pos rfl, List.length_erase_of_mem member]
        omega
      · exact ih (put_wellFormed wellFormed (shine_active _ now)) fun color member =>
          listed color (List.mem_cons_of_mem _ member)

theorem passes_spec (now : UInt32) (more : Nat) (wellFormed : leds.WellFormed) : (passes now more leds).1.WellFormed := by
  induction more generalizing leds with
  | zero => exact wellFormed
  | succ more ih =>
      have pass := (processNodes_spec now leds.list wellFormed fun _ member => member).1
      rw [passes]
      split
      · exact ih pass
      · exact pass

/-- A round ends: further passes would change nothing. -/
theorem passes_enough (now : UInt32) (more : Nat) (wellFormed : leds.WellFormed) :
    passes now (leds.list.length + 1 + more) leds = leds.ledProcess now := by
  rw [ledProcess]
  induction count : leds.list.length generalizing leds with
  | zero =>
      have empty : leds.list = [] := List.length_eq_zero_iff.mp count
      have first (further : Nat) : passes now (further + 1) leds = (leds, []) := by
        rw [passes, empty]
        rfl
      rw [show 0 + 1 + more = more + 1 by omega, first, first]
  | succ count' ih =>
      obtain ⟨kept, fewer⟩ := processNodes_spec now leds.list wellFormed fun _ member => member
      rw [show count' + 1 + 1 + more = (count' + 1 + more) + 1 by omega, passes, passes]
      by_cases again : (processNodes now leds.list leds).2.2 = true
      · rw [if_pos again] at fewer ⊢
        rw [if_pos again, ih kept (by omega)]
      · rw [if_neg again, if_neg again]

end Lists

end Leds

end SyrFilter.Led
