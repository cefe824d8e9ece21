import SyrFilter.Keys.Button

namespace SyrFilter.Keys

open SyrFilter.Lib

/-! # Gestures

A button rests or is held, by the level taken over last.  What a scan does is
said once for each of the three things that can happen in it: the button goes
on resting, it is held, or it is let go.
-/

namespace Button

variable {btn : Button} {level : Bool} {levels : List Bool} {result : Button × List ButtonEvent}

/-- Scans of a held button that do not count for a long press yet. -/
def wait (btn : Button) : Nat := 99 - btn.longTime

/-- The event that a release triggers. -/
def outcome (btn : Button) : ButtonEvent :=
  if btn.longFlag then .longFree else if btn.buttonLastState = .double then .double else .dowm

/-- The button rests for some scans.  A click is remembered for 15 of them. -/
structure RestsFor (btn : Button) (scans : Nat) (result : Button × List ButtonEvent) : Prop where
  resting : ¬result.1.Pressed
  events : result.2 = []
  cycle : result.1.buttonCycle = btn.buttonCycle
  wait : result.1.wait = btn.wait
  tapped : result.1.buttonLastState = .double ↔
    btn.buttonLastState = .double ∧ btn.timerCount + scans < buttonDoubleTime
  age : result.1.buttonLastState = .double → result.1.timerCount = btn.timerCount + scans

/-- The button is held for some scans.  Those after the wait count, and every
25th that counts is reported. -/
structure HeldFor (btn : Button) (scans : Nat) (result : Button × List ButtonEvent) : Prop where
  pressed : result.1.Pressed
  events : result.2 = List.replicate ((btn.buttonCycle + (scans - btn.wait)) / buttonLongCycle) .long
  cycle : result.1.buttonCycle = (btn.buttonCycle + (scans - btn.wait)) % buttonLongCycle
  wait : result.1.wait = btn.wait - scans
  longFlag : result.1.longFlag = (btn.longFlag || decide (result.2 ≠ []))
  lastState : result.1.buttonLastState = btn.buttonLastState

/-- The button is let go.  A double click leaves the time of its second press. -/
structure LetGo (btn : Button) (result : Button × List ButtonEvent) : Prop where
  resting : ¬result.1.Pressed
  events : result.2 = [btn.outcome]
  cycle : result.1.buttonCycle = btn.buttonCycle
  wait : result.1.wait = if btn.outcome = .double then btn.wait else 99
  tapped : result.1.buttonLastState = .double ↔ btn.outcome = .dowm
  age : btn.outcome = .dowm → result.1.timerCount = 0

/-! ## A held scan -/

theorem wait_longTimeAfter {longTime : Nat} (ripe : buttonLongTime ≤ longTime + 1) :
    99 - longTimeAfter longTime = 0 := by
  simp only [buttonLongTime] at ripe
  rw [longTimeAfter]
  split
  · rfl
  · omega

theorem longTimeAfter_lt {longTime : Nat} (timing : longTime < 0xFF) : longTimeAfter longTime < 0xFF := by
  rw [longTimeAfter]
  split
  · decide
  · omega

/-- What `BUTTON_DOWM` leaves alone, and what it keeps in range. -/
structure HoldFrame (btn : Button) (result : Button) : Prop where
  state : result.buttonState = btn.buttonState
  lastLevel : result.buttonLastLevel = btn.buttonLastLevel
  triggerLevel : result.buttonTriggerLevel = btn.buttonTriggerLevel
  debounceTime : result.debounceTime = btn.debounceTime
  timerCount : result.timerCount = btn.timerCount
  timing : result.longTime < 0xFF
  event : result.longFlag = false → result.buttonTriggerEvent = .dowm

theorem onDowm_spec (pressed : btn.Pressed) (cycling : btn.buttonCycle < buttonLongCycle)
    (timing : btn.longTime < 0xFF) : btn.HeldFor 1 btn.onDowm ∧ btn.HoldFrame btn.onDowm.1 := by
  by_cases early : btn.longTime + 1 < buttonLongTime
  · have none : 1 - btn.wait = 0 := by
      simp only [buttonLongTime] at early
      rw [wait]
      omega
    rw [onDowm_early pressed timing early]
    refine ⟨⟨pressed, ?_, ?_, ?_, by simp, rfl⟩, ⟨rfl, rfl, rfl, rfl, rfl, ?_, fun _ => rfl⟩⟩
    · simp [none, Nat.div_eq_of_lt cycling]
    · simp [none, Nat.mod_eq_of_lt cycling]
    · simp only [wait]
      omega
    · simp only [buttonLongTime] at early
      dsimp only
      omega
  · have ripe : buttonLongTime ≤ btn.longTime + 1 := Nat.not_lt.mp early
    have counts : btn.buttonCycle + (1 - btn.wait) = btn.buttonCycle + 1 := by
      simp only [buttonLongTime] at ripe
      rw [wait]
      omega
    have waited : 99 - longTimeAfter btn.longTime = btn.wait - 1 := by
      simp only [wait_longTimeAfter ripe, buttonLongTime] at ripe ⊢
      rw [wait]
      omega
    by_cases full : btn.buttonCycle + 1 = buttonLongCycle
    · rw [onDowm_fires pressed timing ripe full]
      refine ⟨⟨pressed, ?_, ?_, waited, by simp, rfl⟩, ⟨rfl, rfl, rfl, rfl, rfl, longTimeAfter_lt timing, by simp⟩⟩
      · rw [counts, full]
        rfl
      · rw [counts, full, Nat.mod_self]
    · have more : btn.buttonCycle + 1 < buttonLongCycle := by omega
      rw [onDowm_counts pressed timing ripe more]
      refine ⟨⟨pressed, ?_, ?_, waited, by simp, rfl⟩,
        ⟨rfl, rfl, rfl, rfl, rfl, longTimeAfter_lt timing, fun _ => rfl⟩⟩
      · rw [counts, Nat.div_eq_of_lt more]
        rfl
      · rw [counts, Nat.mod_eq_of_lt more]

/-! ## A resting scan and a release -/

theorem onDouble_eq (young : btn.timerCount < buttonDoubleTime) :
    btn.onDouble =
      if btn.timerCount + 1 < buttonDoubleTime then ({ btn with timerCount := btn.timerCount + 1 }, [])
      else
        ({ btn with
            timerCount := btn.timerCount + 1
            buttonState := .noneTrigger
            buttonLastState := .noneTrigger }, []) := by
  have step : next btn.timerCount = btn.timerCount + 1 :=
    next_of_lt (by simp only [buttonDoubleTime] at young; omega)
  rw [onDouble]
  dsimp only
  rw [step]
  by_cases more : btn.timerCount + 1 < buttonDoubleTime
  · rw [if_neg (Nat.not_le.mpr more), if_pos more]
  · rw [if_pos (Nat.not_lt.mp more), if_neg more]

theorem dispatch_rests (wellFormed : btn.WellFormed) (resting : ¬btn.Pressed) :
    btn.RestsFor 1 btn.dispatch ∧ btn.dispatch.1.WellFormed := by
  have state := wellFormed.state
  rw [if_neg resting] at state
  by_cases tapped : btn.buttonLastState = .double
  · have young := wellFormed.tapped tapped
    rw [if_pos tapped] at state
    rw [dispatch, state]
    dsimp only
    rw [onDouble_eq young]
    split
    · rename_i more
      exact ⟨⟨resting, rfl, rfl, rfl, by simp [tapped, more], fun _ => rfl⟩,
        { wellFormed with state := by simp_all [Pressed], tapped := fun _ => more }⟩
    · rename_i old
      exact ⟨⟨resting, rfl, rfl, rfl, by simp [old], by simp⟩,
        { wellFormed with state := by simp_all [Pressed], tapped := by simp }⟩
  · rw [if_neg tapped] at state
    rw [dispatch, state]
    exact ⟨⟨resting, rfl, rfl, rfl, by simp [tapped], fun again => absurd again tapped⟩, wellFormed⟩

theorem dispatch_holds (inRange : btn.InRange) (pressed : btn.Pressed) (state : btn.buttonState = .dowm) :
    btn.HeldFor 1 btn.dispatch ∧ btn.dispatch.1.WellFormed := by
  obtain ⟨held, frame⟩ := onDowm_spec pressed inRange.cycling inRange.timing
  rw [dispatch, state]
  refine ⟨held, ⟨⟨?_, ?_, frame.timing, ?_⟩, ?_, fun _ => frame.event, fun _ => held.pressed⟩⟩
  · rw [frame.debounceTime]
    exact inRange.debouncing
  · rw [held.cycle]
    exact Nat.mod_lt _ (by decide)
  · rw [held.lastState, frame.timerCount]
    exact inRange.tapped
  · rw [if_pos held.pressed, frame.state, state]

theorem takeOver_inRange (inRange : btn.InRange) : (btn.takeOver level).InRange :=
  { inRange with debouncing := Nat.zero_lt_two }

theorem takeOver_pressed_iff (differs : level ≠ btn.buttonLastLevel) :
    (btn.takeOver level).Pressed ↔ ¬btn.Pressed := by
  simp only [Pressed, takeOver]
  generalize btn.buttonLastLevel = last at differs ⊢
  generalize btn.buttonTriggerLevel = trigger
  revert level last trigger
  decide

theorem dispatch_press (wellFormed : btn.WellFormed) (resting : ¬btn.Pressed) (differs : level ≠ btn.buttonLastLevel) :
    btn.HeldFor 1 (btn.takeOver level).dispatch ∧ (btn.takeOver level).dispatch.1.WellFormed := by
  have state := wellFormed.state
  rw [if_neg resting] at state
  have turned : (btn.takeOver level).buttonState = .dowm := by
    show turn btn.buttonState = .dowm
    rw [state]
    split <;> rfl
  obtain ⟨held, next⟩ := dispatch_holds (takeOver_inRange wellFormed.toInRange)
    ((takeOver_pressed_iff differs).mpr resting) turned
  exact ⟨⟨held.pressed, held.events, held.cycle, held.wait, held.longFlag, held.lastState⟩, next⟩

theorem dispatch_release (wellFormed : btn.WellFormed) (pressed : btn.Pressed) (differs : level ≠ btn.buttonLastLevel) :
    btn.LetGo (btn.takeOver level).dispatch ∧ (btn.takeOver level).dispatch.1.WellFormed := by
  have resting : ¬(btn.takeOver level).Pressed := fun again => (takeOver_pressed_iff differs).mp again pressed
  have inRange := @takeOver_inRange btn level wellFormed.toInRange
  have state := wellFormed.state
  rw [if_pos pressed] at state
  have turned : (btn.takeOver level).buttonState = .up := by
    show turn btn.buttonState = .up
    rw [state]
    rfl
  rw [dispatch, turned]
  dsimp only
  by_cases flagged : btn.longFlag = true
  · have outcome : btn.outcome = .longFree := by rw [Button.outcome, if_pos flagged]
    have result : (btn.takeOver level).onUp =
        ({ btn.takeOver level with
            longFlag := false
            longTime := 0
            buttonState := .noneTrigger
            buttonLastState := .long }, [.longFree]) := if_pos flagged
    rw [result]
    refine ⟨⟨resting, by rw [outcome], rfl, ?_, ?_, ?_⟩,
      ⟨⟨inRange.debouncing, inRange.cycling, ?_, ?_⟩, ?_, ?_, ?_⟩⟩
    all_goals simp_all [Button.wait, Pressed]
  · have event : (btn.takeOver level).buttonTriggerEvent = .dowm :=
      wellFormed.event pressed (by simpa using flagged)
    have unflagged : ¬(btn.takeOver level).longFlag = true := flagged
    by_cases tapped : btn.buttonLastState = .double
    · have outcome : btn.outcome = .double := by rw [Button.outcome, if_neg flagged, if_pos tapped]
      have young : (btn.takeOver level).timerCount ≤ buttonDoubleTime := Nat.le_of_lt (wellFormed.tapped tapped)
      have result : (btn.takeOver level).onUp =
          ({ btn.takeOver level with
              buttonTriggerEvent := .double
              buttonState := .noneTrigger
              buttonLastState := .noneTrigger }, [.double]) :=
        (if_neg unflagged).trans ((if_pos event).trans (if_pos ⟨young, tapped⟩))
      rw [result]
      refine ⟨⟨resting, by rw [outcome], rfl, ?_, ?_, ?_⟩,
        ⟨⟨inRange.debouncing, inRange.cycling, inRange.timing, ?_⟩, ?_, ?_, ?_⟩⟩
      all_goals simp_all [Button.wait, Pressed, takeOver]
    · have outcome : btn.outcome = .dowm := by rw [Button.outcome, if_neg flagged, if_neg tapped]
      have result : (btn.takeOver level).onUp =
          ({ btn.takeOver level with
              timerCount := 0
              longTime := 0
              buttonState := .double
              buttonLastState := .double }, [.dowm]) :=
        (if_neg unflagged).trans ((if_pos event).trans (if_neg fun again => tapped again.2))
      rw [result]
      refine ⟨⟨resting, by rw [outcome], rfl, ?_, ?_, ?_⟩,
        ⟨⟨inRange.debouncing, inRange.cycling, ?_, ?_⟩, ?_, ?_, ?_⟩⟩
      all_goals simp_all [Button.wait, Pressed, buttonDoubleTime]

/-! ## Any scan -/

inductive Scanned (btn : Button) (result : Button × List ButtonEvent) : Prop where
  | rests (resting : ¬btn.Pressed) (rested : btn.RestsFor 1 result)
  | holds (held : btn.HeldFor 1 result)
  | releases (pressed : btn.Pressed) (released : btn.LetGo result)

theorem scanned (wellFormed : btn.WellFormed) (level : Bool) :
    btn.Scanned (btn.cycleProcess level) ∧ (btn.cycleProcess level).1.WellFormed := by
  have state := wellFormed.state
  rw [cycleProcess]
  by_cases still : level = btn.buttonLastLevel ∨ btn.debounceTime = 0
  · obtain ⟨debounceTime, small, debounced⟩ := debounce_keeps wellFormed still
    have kept : ({ btn with debounceTime } : Button).WellFormed := { wellFormed with debouncing := small }
    rw [debounced]
    by_cases pressed : btn.Pressed
    · rw [if_pos pressed] at state
      obtain ⟨held, next⟩ := dispatch_holds kept.toInRange pressed state
      exact ⟨.holds ⟨held.pressed, held.events, held.cycle, held.wait, held.longFlag, held.lastState⟩, next⟩
    · obtain ⟨rested, next⟩ := dispatch_rests kept pressed
      exact ⟨.rests pressed ⟨rested.resting, rested.events, rested.cycle, rested.wait, rested.tapped, rested.age⟩, next⟩
  · obtain ⟨differs, second⟩ := not_or.mp still
    rw [debounce_turns wellFormed differs second]
    by_cases pressed : btn.Pressed
    · obtain ⟨released, next⟩ := dispatch_release wellFormed pressed differs
      exact ⟨.releases pressed released, next⟩
    · obtain ⟨held, next⟩ := dispatch_press wellFormed pressed differs
      exact ⟨.holds held, next⟩

theorem after_wellFormed (wellFormed : btn.WellFormed) : (after cycleProcess btn levels).WellFormed :=
  after_of_step wellFormed fun _ level holds => (scanned holds level).2

end Button

end SyrFilter.Keys
