import SyrFilter.Keys.Gesture

namespace SyrFilter.Keys

open SyrFilter.Lib

/-! # A whole gesture

From any state that the driver can be in, what comes of resting for some scans,
holding the button for some more and letting it go.  Two counters outlive a
gesture: the cycle of long presses always, and the wait for them when the
gesture was the second click of a double click.
-/

namespace Button

variable {btn : Button} {level release : Bool} {levels gap hold past : List Bool}
  {first second : Button × List ButtonEvent} {earlier later : Nat}

theorem RestsFor.trans (one : btn.RestsFor earlier first) (two : first.1.RestsFor later second) :
    btn.RestsFor (earlier + later) (second.1, first.2 ++ second.2) where
  resting := two.resting
  events := by rw [one.events, two.events]; rfl
  cycle := two.cycle.trans one.cycle
  wait := two.wait.trans one.wait
  tapped := by
    rw [two.tapped]
    constructor
    · rintro ⟨tapped, young⟩
      have age := one.age tapped
      exact ⟨(one.tapped.mp tapped).1, by omega⟩
    · rintro ⟨tapped, young⟩
      have still := one.tapped.mpr ⟨tapped, by omega⟩
      have age := one.age still
      exact ⟨still, by omega⟩
  age := by
    intro tapped
    rw [two.age tapped, one.age (two.tapped.mp tapped).1, Nat.add_assoc]

theorem HeldFor.trans (one : btn.HeldFor earlier first) (two : first.1.HeldFor later second) :
    btn.HeldFor (earlier + later) (second.1, first.2 ++ second.2) := by
  have counted : btn.buttonCycle + (earlier + later - btn.wait) =
      btn.buttonCycle + (earlier - btn.wait) + (later - first.1.wait) := by
    rw [one.wait]
    omega
  refine ⟨two.pressed, ?_, ?_, ?_, ?_, two.lastState.trans one.lastState⟩
  · have sum : (btn.buttonCycle + (earlier + later - btn.wait)) / buttonLongCycle =
        (btn.buttonCycle + (earlier - btn.wait)) / buttonLongCycle +
          (first.1.buttonCycle + (later - first.1.wait)) / buttonLongCycle := by
      rw [one.cycle, counted]
      simp only [buttonLongCycle]
      omega
    rw [sum, List.replicate_add, ← one.events, ← two.events]
  · rw [two.cycle, one.cycle, counted]
    simp only [buttonLongCycle]
    omega
  · rw [two.wait, one.wait, Nat.sub_sub]
  · rw [two.longFlag, one.longFlag, Bool.or_assoc]
    simp

/-- The button rests after each of the scans. -/
def RestsThrough (btn : Button) (levels : List Bool) : Prop :=
  EachStep (fun btn level => (btn.cycleProcess level).1) (fun btn level => ¬(btn.cycleProcess level).1.Pressed) btn levels

/-- The button is held after each of the scans. -/
def HeldThrough (btn : Button) (levels : List Bool) : Prop :=
  EachStep (fun btn level => (btn.cycleProcess level).1) (fun btn level => (btn.cycleProcess level).1.Pressed) btn levels

instance : Decidable (btn.RestsThrough levels) := inferInstanceAs (Decidable (EachStep _ _ _ _))

instance : Decidable (btn.HeldThrough levels) := inferInstanceAs (Decidable (EachStep _ _ _ _))

theorem restsFor_of_restsThrough (wellFormed : btn.WellFormed) (resting : ¬btn.Pressed)
    (rests : btn.RestsThrough levels) :
    btn.RestsFor levels.length (after cycleProcess btn levels, emits cycleProcess btn levels) := by
  induction levels generalizing btn with
  | nil =>
      refine ⟨resting, rfl, rfl, rfl, ?_, fun _ => rfl⟩
      exact ⟨fun tapped => ⟨tapped, wellFormed.tapped tapped⟩, And.left⟩
  | cons level rest ih =>
      obtain ⟨still, later⟩ := eachStep_cons.mp rests
      obtain ⟨scan, next⟩ := scanned wellFormed level
      cases scan with
      | rests resting rested =>
          rw [List.length_cons, Nat.add_comm]
          exact rested.trans (ih next still later)
      | holds held => exact absurd held.pressed still
      | releases pressed released => exact absurd pressed resting

theorem heldFor_of_heldThrough (wellFormed : btn.WellFormed) (pressed : btn.Pressed) (holds : btn.HeldThrough levels) :
    btn.HeldFor levels.length (after cycleProcess btn levels, emits cycleProcess btn levels) := by
  induction levels generalizing btn with
  | nil =>
      have cycling := wellFormed.cycling
      refine ⟨pressed, ?_, ?_, rfl, by simp, rfl⟩
      · simp [Nat.div_eq_of_lt cycling]
      · simp [Nat.mod_eq_of_lt cycling]
  | cons level rest ih =>
      obtain ⟨still, later⟩ := eachStep_cons.mp holds
      obtain ⟨scan, next⟩ := scanned wellFormed level
      cases scan with
      | rests resting rested => exact absurd pressed resting
      | holds held =>
          rw [List.length_cons, Nat.add_comm]
          exact held.trans (ih next still later)
      | releases pressed released => exact absurd still released.resting

/-- A hold that starts from rest. -/
theorem heldFor_of_press (wellFormed : btn.WellFormed) (resting : ¬btn.Pressed) (nonempty : levels ≠ [])
    (holds : btn.HeldThrough levels) :
    btn.HeldFor levels.length (after cycleProcess btn levels, emits cycleProcess btn levels) := by
  obtain ⟨level, rest, rfl⟩ := List.exists_cons_of_ne_nil nonempty
  obtain ⟨pressed, later⟩ := eachStep_cons.mp holds
  obtain ⟨scan, next⟩ := scanned wellFormed level
  cases scan with
  | rests resting rested => exact absurd pressed rested.resting
  | holds held =>
      rw [List.length_cons, Nat.add_comm]
      exact held.trans (heldFor_of_heldThrough next pressed later)
  | releases pressed released => exact absurd pressed resting

/-! ## Rest, hold, release -/

/-- The long presses that a hold of some scans reports. -/
def longs (btn : Button) (scans : Nat) : Nat := (btn.buttonCycle + (scans - btn.wait)) / buttonLongCycle

/-- What a hold after some resting scans ends with. -/
def verdict (btn : Button) (rested held : Nat) : ButtonEvent :=
  if 0 < btn.longs held then .longFree
  else if btn.buttonLastState = .double ∧ btn.timerCount + rested < buttonDoubleTime then .double
  else .dowm

/-- What comes of resting, holding and letting go.  The number of long presses, and
with it whether the release is one of a long press, depends on the cycle and the
wait that earlier gestures have left; whether it is otherwise a click or a double
click depends on the click before alone. -/
structure Gestured (btn : Button) (rested held : Nat) (result : Button × List ButtonEvent) : Prop where
  resting : ¬result.1.Pressed
  events : result.2 = List.replicate (btn.longs held) .long ++ [btn.verdict rested held]
  cycle : result.1.buttonCycle = (btn.buttonCycle + (held - btn.wait)) % buttonLongCycle
  wait : result.1.wait = if btn.verdict rested held = .double then btn.wait - held else 99
  tapped : result.1.buttonLastState = .double ↔ btn.verdict rested held = .dowm
  age : btn.verdict rested held = .dowm → result.1.timerCount = 0

theorem longFlag_of_resting (wellFormed : btn.WellFormed) (resting : ¬btn.Pressed) : btn.longFlag = false := by
  by_contra flagged
  exact resting (wellFormed.flag (by simpa using flagged))

/-- The verdict is in the state that the hold leaves. -/
theorem outcome_of_held {rested held : Nat} {one two : Button × List ButtonEvent} (restedWell : one.1.WellFormed)
    (rests : btn.RestsFor rested one) (holds : one.1.HeldFor held two) :
    two.2 = List.replicate (btn.longs held) .long ∧ two.1.outcome = btn.verdict rested held := by
  have reported : two.2 = List.replicate (btn.longs held) .long := by
    rw [holds.events, rests.cycle, rests.wait, longs]
  have unflagged := longFlag_of_resting restedWell rests.resting
  refine ⟨reported, ?_⟩
  rw [outcome, verdict]
  by_cases some : 0 < btn.longs held
  · have flagged : two.1.longFlag = true := by
      rw [holds.longFlag, unflagged, reported]
      simp only [Bool.false_or, decide_eq_true_eq, ne_eq, List.replicate_eq_nil_iff]
      omega
    rw [if_pos flagged, if_pos some]
  · have none : btn.longs held = 0 := Nat.eq_zero_of_not_pos some
    have still : ¬two.1.longFlag = true := by
      rw [holds.longFlag, unflagged, reported, none]
      simp
    rw [if_neg still, if_neg some, holds.lastState]
    exact if_congr rests.tapped rfl rfl

theorem gestured (wellFormed : btn.WellFormed) (resting : ¬btn.Pressed) (rests : btn.RestsThrough gap)
    (nonempty : hold ≠ []) (holds : (after cycleProcess btn gap).HeldThrough hold)
    (released : ¬(after cycleProcess btn (gap ++ hold ++ [release])).Pressed) :
    btn.Gestured gap.length hold.length
      (after cycleProcess btn (gap ++ hold ++ [release]), emits cycleProcess btn (gap ++ hold ++ [release])) := by
  have rested := restsFor_of_restsThrough wellFormed resting rests
  have restedWell : (after cycleProcess btn gap).WellFormed := after_wellFormed wellFormed
  have held := heldFor_of_press restedWell rested.resting nonempty holds
  have heldWell : (after cycleProcess (after cycleProcess btn gap) hold).WellFormed := after_wellFormed restedWell
  have silent : emits cycleProcess btn gap = [] := rested.events
  obtain ⟨reported, ends⟩ := outcome_of_held restedWell rested held
  dsimp only at reported ends
  obtain ⟨scan, -⟩ := scanned heldWell release
  rw [after_concat, after_append] at released ⊢
  rw [emits_concat, emits_append, after_append]
  cases scan with
  | rests resting => exact absurd held.pressed resting
  | holds again => exact absurd again.pressed released
  | releases _ letGo =>
      refine ⟨letGo.resting, ?_, ?_, ?_, ?_, ?_⟩
      · dsimp only
        rw [silent, List.nil_append, reported, letGo.events, ends]
      · rw [letGo.cycle, held.cycle, rested.cycle, rested.wait]
      · rw [letGo.wait, ends, held.wait, rested.wait]
      · rw [letGo.tapped, ends]
      · rw [← ends]
        exact letGo.age

/-- Every gesture, after any past.  `Button_Cycle` is never cleared and a double click
leaves `Long_Time`, so the same hold may be reported as a click and as a long press. -/
theorem every_gesture (resting : ¬(after cycleProcess (buttonCreate false) past).Pressed)
    (rests : (after cycleProcess (buttonCreate false) past).RestsThrough gap) (nonempty : hold ≠ [])
    (holds : (after cycleProcess (buttonCreate false) (past ++ gap)).HeldThrough hold)
    (released : ¬(after cycleProcess (buttonCreate false) (past ++ gap ++ hold ++ [release])).Pressed) :
    (after cycleProcess (buttonCreate false) past).Gestured gap.length hold.length
      (after cycleProcess (buttonCreate false) (past ++ gap ++ hold ++ [release]),
        emits cycleProcess (after cycleProcess (buttonCreate false) past) (gap ++ hold ++ [release])) := by
  have pasted : past ++ gap ++ hold ++ [release] = past ++ (gap ++ hold ++ [release]) := by simp
  rw [after_append] at holds
  rw [pasted, after_append] at released
  have done := gestured (after_wellFormed buttonCreate_wellFormed) resting rests nonempty holds released
  rw [pasted, after_append]
  exact done

theorem every_gesture_tap :
    (after cycleProcess (buttonCreate false) [false]).Gestured 0 2
      (after cycleProcess (buttonCreate false) [false, false, true, true],
        emits cycleProcess (after cycleProcess (buttonCreate false) [false]) [false, true, true]) :=
  @every_gesture true [] [false, true] [false] (by decide) (by decide) (by decide) (by decide) (by decide)

/-- One hold, made three times: two clicks and a long press. -/
example :
    emits cycleProcess (buttonCreate false)
        (List.replicate 3 (List.replicate 110 false ++ List.replicate 20 true)).flatten =
      [.dowm, .dowm, .long, .longFree] := by
  decide +kernel

end Button

end SyrFilter.Keys
