import SyrFilter.Led.Agile
import SyrFilter.Moto.SleepLock

namespace SyrFilter.Led

open SyrFilter.Lib SyrFilter.Sprintf

/-! # The three LEDs

`applications/led.c`: red and blue blink, green is switched by hand.  The
backwash lights the green LED, so that it shows whether a cycle runs.  For a
sleep the LEDs are put out, and their objects are given another pin until the
device is awake again.
-/

def pinOf : Color → Nat
  | .red => 21
  | .green => 22
  | .blue => 20

structure Lamps where
  leds : Leds
  /-- The levels of the output pins. -/
  level : Nat → Bool
  ledState : Nat
  wifiStatus : Nat

/-- The pins after some writes. -/
def written (level : Nat → Bool) (writes : List PinWrite) : Nat → Bool :=
  writes.foldl (fun level write => Function.update level write.pin write.level) level

namespace Lamps

variable (lamps : Lamps)

/-- What a function of the package does to its objects and to the pins. -/
def after (result : Leds × List PinWrite) : Lamps :=
  { lamps with leds := result.1, level := written lamps.level result.2 }

def stop (color : Color) : Lamps := lamps.after (lamps.leds.stop color)

/-- `agile_led_set_light_mode` with endless loops, and `agile_led_start`. -/
def blink (color : Color) (lightMode : String) (now : UInt32) : Lamps :=
  { lamps with leds := (lamps.leds.setLightMode color (chars lightMode) (-1) now).start color now }

def ledSelect (type : Nat) (now : UInt32) : Lamps :=
  let selected := { lamps with ledState := type }
  match type with
  | 0 => (selected.stop .red).stop .green
  | 1 => (selected.stop .green).blink .red "500,500" now
  | 2 =>
      let stopped := (selected.stop .red).stop .green
      stopped.after (stopped.leds, stopped.leds.on .green)
  | 3 => selected.after (selected.leds, selected.leds.off .green)
  | _ => selected

def wifiLed (type : Nat) (now : UInt32) : Lamps :=
  let selected := { lamps with wifiStatus := type }
  match type with
  | 0 => selected.stop .blue
  | 1 => selected.blink .blue "1000,1000" now
  | 2 => selected.blink .blue "150,200,150,500" now
  | 3 => selected.blink .blue "150,150" now
  | 4 => selected.blink .blue "200,0" now
  | _ => selected

def process (now : UInt32) : Lamps := lamps.after (lamps.leds.ledProcess now)

def ledGpioDeInit : Lamps :=
  lamps.after
    (((lamps.leds.pause .red).pause .green).pause .blue,
      [⟨pinOf .green, true⟩, ⟨pinOf .red, true⟩, ⟨pinOf .blue, true⟩])

def ledGpioInit (now : UInt32) : Lamps :=
  let selected := if lamps.ledState = 0 then lamps.ledSelect 0 now else lamps
  { selected with leds := ((selected.leds.resume .red).resume .green).resume .blue }

/-- The LEDs through a sleep: `BeforeSleep` with its `wifi_led(0)`, and `AfterWake`, which only the
deepest mode comes to.  The interrupts are off from one to the other. -/
def sleep (deep : Bool) (now : UInt32) : Lamps :=
  let asleep := lamps.ledGpioDeInit.wifiLed 0 now
  if deep then asleep.ledGpioInit now else asleep

/-- `Led_Init`: each LED is created dark. -/
def ledInit (level : Nat → Bool) (garbage : Color → Nat) (now : UInt32) : Lamps where
  leds :=
    { led := fun color => AgileLed.create (pinOf color) (garbage color) false (chars "200,200") (-1) now
      list := [] }
  level := written level [⟨pinOf .red, true⟩, ⟨pinOf .green, true⟩, ⟨pinOf .blue, true⟩]
  ledState := 0
  wifiStatus := 0

def greenLit : Bool := !lamps.level (pinOf .green)

/-- An LED's pin in `pin_config.h`, or the one that `agile_led_pause` puts in its place. -/
def Placed (color : Color) (pin : Nat) : Prop := pin = pinOf color ∨ pin = 0

/-- The green LED never blinks, and without its own pin it is dark. -/
structure WellFormed (lamps : Lamps) : Prop where
  leds : lamps.leds.WellFormed
  pin : ∀ color, Placed color (lamps.leds.led color).pin
  activeLow : ∀ color, (lamps.leds.led color).activeLogic = false
  steady : (lamps.leds.led .green).active = false
  dark : (lamps.leds.led .green).pin ≠ pinOf .green → lamps.greenLit = false

end Lamps

section Writes

variable {lamps : Lamps} {leds : Leds} {level : Nat → Bool} {writes : List PinWrite} {color : Color} {pin : Nat}

/-- What does not write to a pin leaves its level. -/
theorem written_of_notMem (apart : ∀ write ∈ writes, write.pin ≠ pin) : written level writes pin = level pin := by
  induction writes generalizing level with
  | nil => rfl
  | cons write rest ih =>
      have later := @ih (Function.update level write.pin write.level) fun other member =>
        apart other (List.mem_cons_of_mem _ member)
      refine later.trans ?_
      exact Function.update_of_ne (apart write List.mem_cons_self).symm _ _

theorem pinOf_injective {first second : Color} (same : pinOf first = pinOf second) : first = second := by
  cases first <;> cases second <;> first | rfl | cases same

theorem light_pins (led : AgileLed) (now : UInt32) :
    (led.light now).1.pin = led.pin ∧ (led.light now).1.pinBackup = led.pinBackup ∧
      (led.light now).1.activeLogic = led.activeLogic ∧ (led.light now).1.active = led.active := by
  rw [AgileLed.light]
  split
  · split <;> exact ⟨rfl, rfl, rfl, rfl⟩
  · exact ⟨rfl, rfl, rfl, rfl⟩

/-- What the package may do to the LEDs while the green one is steady. -/
structure Leds.Kept (leds other : Leds) (writes : List PinWrite) : Prop where
  pin : ∀ color, (other.led color).pin = (leds.led color).pin
  pinBackup : ∀ color, (other.led color).pinBackup = (leds.led color).pinBackup
  activeLogic : ∀ color, (other.led color).activeLogic = (leds.led color).activeLogic
  green : (other.led .green).active = (leds.led .green).active
  writes : ∀ write ∈ writes, ∃ color ≠ .green, write.pin = (leds.led color).pin

theorem Leds.Kept.refl : leds.Kept leds [] := ⟨fun _ => rfl, fun _ => rfl, fun _ => rfl, rfl, nofun⟩

theorem Leds.Kept.trans {middle other : Leds} {first second : List PinWrite} (before : leds.Kept middle first)
    (later : middle.Kept other second) : leds.Kept other (first ++ second) where
  pin := fun color => (later.pin color).trans (before.pin color)
  pinBackup := fun color => (later.pinBackup color).trans (before.pinBackup color)
  activeLogic := fun color => (later.activeLogic color).trans (before.activeLogic color)
  green := later.green.trans before.green
  writes := by
    intro write member
    rcases List.mem_append.mp member with early | late
    · exact before.writes write early
    · obtain ⟨color, blinking, same⟩ := later.writes write late
      exact ⟨color, blinking, same.trans (before.pin color)⟩

theorem Leds.kept_put {led : AgileLed} (blinking : color ≠ .green) (pin : led.pin = (leds.led color).pin)
    (pinBackup : led.pinBackup = (leds.led color).pinBackup) (activeLogic : led.activeLogic = (leds.led color).activeLogic)
    (written : ∀ write ∈ writes, write.pin = (leds.led color).pin) : leds.Kept (leds.put color led) writes where
  pin := by
    intro other
    rw [Leds.led_put]
    split
    · rename_i same
      rw [pin, same]
    · rfl
  pinBackup := by
    intro other
    rw [Leds.led_put]
    split
    · rename_i same
      rw [pinBackup, same]
    · rfl
  activeLogic := by
    intro other
    rw [Leds.led_put]
    split
    · rename_i same
      rw [activeLogic, same]
    · rfl
  green := by rw [Leds.led_put, if_neg blinking.symm]
  writes := fun write member => ⟨color, blinking, written write member⟩

theorem Leds.kept_stop (steady : (leds.led .green).active = false) (color : Color) :
    leds.Kept (leds.stop color).1 (leds.stop color).2 := by
  rw [Leds.stop]
  split
  · rename_i active
    have blinking : color ≠ .green := by
      rintro rfl
      rw [steady] at active
      cases active
    have stopped : leds.Kept (leds.put color { leds.led color with active := false }) [(leds.led color).off] := by
      refine Leds.kept_put blinking rfl rfl rfl ?_
      rintro write member
      rw [List.mem_singleton.mp member]
      rfl
    exact ⟨stopped.pin, stopped.pinBackup, stopped.activeLogic, stopped.green, stopped.writes⟩
  · exact .refl

theorem Leds.kept_start (blinking : color ≠ .green) (now : UInt32) : leds.Kept (leds.start color now) [] := by
  rw [Leds.start]
  split
  · exact .refl
  · split
    · exact .refl
    · have started := @Leds.kept_put leds [] color
        { leds.led color with
          arrIndex := 0, loopCnt := (leds.led color).loopInit, tickTimeout := now, active := true } blinking rfl rfl rfl (by simp)
      exact ⟨started.pin, started.pinBackup, started.activeLogic, started.green, started.writes⟩

theorem Leds.kept_processNodes (now : UInt32) (nodes : List Color) (steady : (leds.led .green).active = false)
    (dark : .green ∉ nodes) :
    leds.Kept (Leds.processNodes now nodes leds).1 (Leds.processNodes now nodes leds).2.1 := by
  induction nodes generalizing leds with
  | nil => exact .refl
  | cons color rest ih =>
      rw [Leds.processNodes]
      split
      · exact Leds.kept_stop steady color
      · have blinking : color ≠ .green := fun same => dark (same ▸ List.mem_cons_self)
        obtain ⟨pin, pinBackup, activeLogic, -⟩ := light_pins (leds.led color) now
        have shone : leds.Kept (leds.put color ((leds.led color).shine now).1) ((leds.led color).shine now).2 := by
          refine Leds.kept_put blinking pin pinBackup activeLogic ?_
          intro write member
          obtain ⟨index, -, rfl⟩ := List.mem_map.mp member
          rw [AgileLed.phase]
          split <;> rfl
        exact shone.trans (ih (shone.green.trans steady) fun member => dark (List.mem_cons_of_mem _ member))

theorem Leds.kept_passes (now : UInt32) (more : Nat) (wellFormed : leds.WellFormed)
    (steady : (leds.led .green).active = false) :
    leds.Kept (Leds.passes now more leds).1 (Leds.passes now more leds).2 := by
  induction more generalizing leds with
  | zero => exact .refl
  | succ more ih =>
      have dark : .green ∉ leds.list := by
        rw [wellFormed.listed, steady]
        exact Bool.false_ne_true
      have pass := Leds.kept_processNodes now leds.list steady dark
      have kept := (Leds.processNodes_spec now leds.list wellFormed fun _ member => member).1
      rw [Leds.passes]
      split
      · exact pass.trans (ih kept (pass.green.trans steady))
      · exact pass

end Writes

namespace Lamps

variable {lamps : Lamps} {color : Color}

/-- A function that leaves the green LED and all pins alone. -/
structure Keeps (lamps other : Lamps) : Prop where
  wellFormed : other.WellFormed
  green : other.greenLit = lamps.greenLit
  pin : ∀ color, (other.leds.led color).pin = (lamps.leds.led color).pin
  pinBackup : ∀ color, (other.leds.led color).pinBackup = (lamps.leds.led color).pinBackup

theorem Keeps.trans {middle other : Lamps} (first : lamps.Keeps middle) (second : middle.Keeps other) :
    lamps.Keeps other where
  wellFormed := second.wellFormed
  green := second.green.trans first.green
  pin := fun color => (second.pin color).trans (first.pin color)
  pinBackup := fun color => (second.pinBackup color).trans (first.pinBackup color)

theorem placed_ne_green {pin : Nat} (placed : Placed color pin) (blinking : color ≠ .green) : pin ≠ pinOf .green := by
  rintro rfl
  rcases placed with same | none
  · exact blinking (pinOf_injective same).symm
  · cases none

theorem WellFormed.keeps {other : Lamps} {writes : List PinWrite} (wellFormed : lamps.WellFormed)
    (leds : other.leds.WellFormed) (kept : lamps.leds.Kept other.leds writes)
    (level : other.level = written lamps.level writes) : lamps.Keeps other := by
  have apart : ∀ write ∈ writes, write.pin ≠ pinOf .green := by
    intro write member
    obtain ⟨color, blinking, pin⟩ := kept.writes write member
    rw [pin]
    exact placed_ne_green (wellFormed.pin color) blinking
  have green : other.greenLit = lamps.greenLit := by
    rw [greenLit, level, written_of_notMem apart]
    rfl
  refine ⟨⟨leds, fun color => ?_, fun color => ?_, ?_, fun away => ?_⟩, green, kept.pin, kept.pinBackup⟩
  · rw [kept.pin color]
    exact wellFormed.pin color
  · exact (kept.activeLogic color).trans (wellFormed.activeLow color)
  · exact kept.green.trans wellFormed.steady
  · rw [kept.pin .green] at away
    exact green.trans (wellFormed.dark away)

theorem WellFormed.stop (wellFormed : lamps.WellFormed) (color : Color) : lamps.Keeps (lamps.stop color) :=
  wellFormed.keeps (Leds.stop_wellFormed wellFormed.leds) (Leds.kept_stop wellFormed.steady color) rfl

theorem WellFormed.blink (wellFormed : lamps.WellFormed) (blinking : color ≠ .green) (lightMode : String)
    (now : UInt32) : lamps.Keeps (lamps.blink color lightMode now) := by
  have set : lamps.leds.Kept (lamps.leds.setLightMode color (chars lightMode) (-1) now) [] :=
    Leds.kept_put blinking rfl rfl rfl nofun
  have modes : (lamps.leds.setLightMode color (chars lightMode) (-1) now).WellFormed :=
    Leds.put_wellFormed wellFormed.leds rfl
  exact wellFormed.keeps (Leds.start_wellFormed modes now) (set.trans (Leds.kept_start blinking now)) rfl

theorem WellFormed.process (wellFormed : lamps.WellFormed) (now : UInt32) : lamps.Keeps (lamps.process now) :=
  wellFormed.keeps (Leds.passes_spec now _ wellFormed.leds)
    (Leds.kept_passes now _ wellFormed.leds wellFormed.steady) rfl

theorem WellFormed.wifiLed (wellFormed : lamps.WellFormed) (type : Nat) (now : UInt32) :
    lamps.Keeps (lamps.wifiLed type now) := by
  have selected : lamps.Keeps { lamps with wifiStatus := type } :=
    wellFormed.keeps wellFormed.leds .refl rfl
  have blinking : Color.blue ≠ .green := by decide
  match type with
  | 0 => exact selected.trans (selected.wellFormed.stop .blue)
  | 1 => exact selected.trans (selected.wellFormed.blink blinking "1000,1000" now)
  | 2 => exact selected.trans (selected.wellFormed.blink blinking "150,200,150,500" now)
  | 3 => exact selected.trans (selected.wellFormed.blink blinking "150,150" now)
  | 4 => exact selected.trans (selected.wellFormed.blink blinking "200,0" now)
  | _ + 5 => exact selected

theorem WellFormed.selected (wellFormed : lamps.WellFormed) (type : Nat) :
    lamps.Keeps { lamps with ledState := type } := wellFormed.keeps wellFormed.leds .refl rfl

theorem WellFormed.ledSelect_zero (wellFormed : lamps.WellFormed) (now : UInt32) :
    lamps.Keeps (lamps.ledSelect 0 now) := by
  have red := (wellFormed.selected 0).trans ((wellFormed.selected 0).wellFormed.stop .red)
  exact red.trans (red.wellFormed.stop .green)

/-- A write for the green LED switches it, if its object has its pin. -/
theorem WellFormed.switch (wellFormed : lamps.WellFormed) (write : PinWrite)
    (green : write.pin = (lamps.leds.led .green).pin) :
    (lamps.after (lamps.leds, [write])).WellFormed ∧
      (lamps.after (lamps.leds, [write])).greenLit =
        if (lamps.leds.led .green).pin = pinOf .green then !write.level else lamps.greenLit := by
  have lights : (lamps.after (lamps.leds, [write])).greenLit =
      if (lamps.leds.led .green).pin = pinOf .green then !write.level else lamps.greenLit := by
    have level : (lamps.after (lamps.leds, [write])).level (pinOf .green) =
        if pinOf .green = (lamps.leds.led .green).pin then write.level else lamps.level (pinOf .green) := by
      rw [← green]
      exact Function.update_apply _ _ _ _
    rw [greenLit, level, greenLit, apply_ite not]
    simp only [eq_comm]
  refine ⟨⟨wellFormed.leds, wellFormed.pin, wellFormed.activeLow, wellFormed.steady, fun away => ?_⟩, lights⟩
  exact lights.trans ((if_neg away).trans (wellFormed.dark away))

/-- Only two of the selections switch the green LED, neither of them the one for all off. -/
theorem WellFormed.ledSelect (wellFormed : lamps.WellFormed) (type : Nat) (now : UInt32) :
    (lamps.ledSelect type now).WellFormed ∧
      ((lamps.ledSelect type now).leds.led .green).pin = (lamps.leds.led .green).pin ∧
        (lamps.ledSelect type now).greenLit =
          if type = 2 then decide ((lamps.leds.led .green).pin = pinOf .green)
          else if type = 3 then false else lamps.greenLit := by
  have selected := wellFormed.selected type
  match type with
  | 0 =>
      have both := wellFormed.ledSelect_zero now
      exact ⟨both.wellFormed, both.pin .green, both.green⟩
  | 1 =>
      have blinking : Color.red ≠ .green := by decide
      have green := selected.trans (selected.wellFormed.stop .green)
      have both := green.trans (green.wellFormed.blink blinking "500,500" now)
      exact ⟨both.wellFormed, both.pin .green, both.green⟩
  | 2 =>
      have red := selected.trans (selected.wellFormed.stop .red)
      have both := red.trans (red.wellFormed.stop .green)
      obtain ⟨kept, lit⟩ := both.wellFormed.switch (AgileLed.on _) rfl
      refine ⟨kept, both.pin .green, lit.trans ?_⟩
      rw [both.pin .green, both.green, AgileLed.on, both.wellFormed.activeLow .green]
      by_cases place : (lamps.leds.led .green).pin = pinOf .green
      · simp [place]
      · simpa [place] using wellFormed.dark place
  | 3 =>
      obtain ⟨kept, lit⟩ := selected.wellFormed.switch (AgileLed.off _) rfl
      refine ⟨kept, rfl, lit.trans ?_⟩
      rw [AgileLed.off, selected.wellFormed.activeLow .green, selected.pin .green, selected.green]
      by_cases place : (lamps.leds.led .green).pin = pinOf .green
      · simp [place]
      · simpa [place] using wellFormed.dark place
  | _ + 4 => exact ⟨selected.wellFormed, rfl, selected.green⟩

/-! ## Sleep -/

theorem led_pause (color : Color) :
    lamps.ledGpioDeInit.leds.led color = (lamps.leds.led color).pause := by
  cases color <;> simp [ledGpioDeInit, after, Leds.pause, Leds.led_put]

theorem WellFormed.ledGpioDeInit (wellFormed : lamps.WellFormed) :
    lamps.ledGpioDeInit.WellFormed ∧ lamps.ledGpioDeInit.greenLit = false := by
  have dark : lamps.ledGpioDeInit.greenLit = false := by
    simp [greenLit, Lamps.ledGpioDeInit, after, written, pinOf]
  have kept (other : Leds) (color : Color) (same : other.WellFormed) : (other.pause color).WellFormed :=
    Leds.put_wellFormed same rfl
  refine ⟨⟨kept _ .blue (kept _ .green (kept _ .red wellFormed.leds)), ?_, ?_, ?_, fun _ => dark⟩, dark⟩
  · exact fun color => .inr (by rw [led_pause]; rfl)
  · exact fun color => (congrArg AgileLed.activeLogic (led_pause color)).trans (wellFormed.activeLow color)
  · exact (congrArg AgileLed.active (led_pause .green)).trans wellFormed.steady

/-- A sleep puts the green LED out; behind the deepest one its object has the pin it had before. -/
theorem WellFormed.sleep (wellFormed : lamps.WellFormed) (deep : Bool) (now : UInt32) :
    (lamps.sleep deep now).WellFormed ∧ (lamps.sleep deep now).greenLit = false := by
  obtain ⟨paused, dark⟩ := wellFormed.ledGpioDeInit
  have asleep := paused.wifiLed 0 now
  have lightless := asleep.green.trans dark
  rw [Lamps.sleep]
  split
  · have selected : (lamps.ledGpioDeInit.wifiLed 0 now).Keeps
        (if (lamps.ledGpioDeInit.wifiLed 0 now).ledState = 0 then
          (lamps.ledGpioDeInit.wifiLed 0 now).ledSelect 0 now
        else lamps.ledGpioDeInit.wifiLed 0 now) := by
      split
      · exact asleep.wellFormed.ledSelect_zero now
      · exact asleep.wellFormed.keeps asleep.wellFormed.leds .refl rfl
    have backup (color : Color) : Placed color (((if (lamps.ledGpioDeInit.wifiLed 0 now).ledState = 0 then
          (lamps.ledGpioDeInit.wifiLed 0 now).ledSelect 0 now
        else lamps.ledGpioDeInit.wifiLed 0 now).leds.led color).pinBackup) := by
      rw [selected.pinBackup, asleep.pinBackup, led_pause]
      exact wellFormed.pin color
    rw [ledGpioInit]
    generalize (if (lamps.ledGpioDeInit.wifiLed 0 now).ledState = 0 then
          (lamps.ledGpioDeInit.wifiLed 0 now).ledSelect 0 now
        else lamps.ledGpioDeInit.wifiLed 0 now) = awake at selected backup ⊢
    have kept (other : Leds) (color : Color) (same : other.WellFormed) : (other.resume color).WellFormed :=
      Leds.put_wellFormed same rfl
    have resumed (color : Color) : (((awake.leds.resume .red).resume .green).resume .blue).led color =
        (awake.leds.led color).resume := by
      cases color <;> simp [Leds.resume, Leds.led_put]
    have unlit := selected.green.trans lightless
    refine ⟨⟨kept _ .blue (kept _ .green (kept _ .red selected.wellFormed.leds)), ?_, ?_, ?_, fun _ => unlit⟩, unlit⟩
    · exact fun color => by rw [resumed]; exact backup color
    · exact fun color => (congrArg AgileLed.activeLogic (resumed color)).trans (selected.wellFormed.activeLow color)
    · exact (congrArg AgileLed.active (resumed .green)).trans selected.wellFormed.steady
  · exact ⟨asleep.wellFormed, lightless⟩

theorem ledInit_wellFormed (level : Nat → Bool) (garbage : Color → Nat) (now : UInt32) :
    (ledInit level garbage now).WellFormed where
  leds := ⟨List.nodup_nil, fun _ => iff_of_false List.not_mem_nil (by simp [ledInit, AgileLed.create])⟩
  pin := fun _ => .inl rfl
  activeLow := fun _ => rfl
  steady := rfl
  dark := fun away => absurd rfl away

theorem greenLit_ledInit (level : Nat → Bool) (garbage : Color → Nat) (now : UInt32) :
    (ledInit level garbage now).greenLit = false := by
  simp [greenLit, ledInit, written, pinOf]

end Lamps

end SyrFilter.Led
