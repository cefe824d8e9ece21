import SyrFilter.Keys.Holds

namespace SyrFilter.Keys

open SyrFilter.Lib

/-! # What a run reports

The events of a run are one report after the other, and a part of one more
while the button is held.  There are as many reports as accepted releases, and
the driver counts the samples that differ without asking whether they follow
each other: every fourth of them completes a report.
-/

inductive Report where
  | click
  | double
  | longPress (more : Nat)
deriving DecidableEq

/-- The events of a report.  A long press triggers at least once before it is let go. -/
def Report.events : Report → List ButtonEvent
  | .click => [.dowm]
  | .double => [.double]
  | .longPress more => List.replicate (more + 1) .long ++ [.longFree]

/-- A double click comes right behind the click that its first press was. -/
def Paired : List Report → Prop
  | [] => True
  | report :: rest => (report = .double → rest.head? = some .click) ∧ Paired rest

namespace Button

variable {btn : Button} {level : Bool} {levels : List Bool} {reports : List Report} {pending : Nat}
  {events : List ButtonEvent}

/-- The reports so far, the last one first, and the long presses of a hold. -/
structure Reported (btn : Button) (reports : List Report) (pending : Nat) (events : List ButtonEvent) : Prop where
  events : events = (reports.reverse.map Report.events).flatten ++ List.replicate pending .long
  flag : btn.longFlag = true ↔ 0 < pending
  tapped : btn.buttonLastState = .double → reports.head? = some .click
  paired : Paired reports

/-- Samples that differ from the level taken over last. -/
def differing : Button → List Bool → Nat
  | _, [] => 0
  | btn, level :: rest => (if level ≠ btn.buttonLastLevel then 1 else 0) + differing (btn.cycleProcess level).1 rest

theorem reported_report (reported : btn.Reported reports pending events) (report : Report)
    (pairs : report = .double → reports.head? = some .click)
    (completes : List.replicate pending .long ++ [btn.outcome] = report.events) {next : Button}
    (unflagged : next.longFlag = false) (tapped : next.buttonLastState = .double → report = .click) :
    next.Reported (report :: reports) 0 (events ++ [btn.outcome]) where
  events := by
    rw [reported.events, List.append_assoc, completes]
    simp
  flag := by simp [unflagged]
  tapped := fun double => congrArg some (tapped double)
  paired := ⟨pairs, reported.paired⟩

/-- The report that a release makes of the hold before it. -/
theorem exists_report (reported : btn.Reported reports pending events) :
    ∃ report : Report, (report = .double → reports.head? = some .click) ∧
      List.replicate pending .long ++ [btn.outcome] = report.events ∧ (btn.outcome = .dowm → report = .click) := by
  rw [outcome]
  by_cases flagged : btn.longFlag = true
  · have some := reported.flag.mp flagged
    obtain ⟨more, rfl⟩ : ∃ more, pending = more + 1 := ⟨pending - 1, by omega⟩
    exact ⟨.longPress more, by simp, by rw [if_pos flagged]; rfl, by simp [flagged]⟩
  · have none : pending = 0 := Nat.eq_zero_of_not_pos fun some => flagged (reported.flag.mpr some)
    subst none
    by_cases tapped : btn.buttonLastState = .double
    · exact ⟨.double, fun _ => reported.tapped tapped, by simp [flagged, tapped, Report.events], by simp [flagged, tapped]⟩
    · exact ⟨.click, by simp, by simp [flagged, tapped, Report.events], fun _ => rfl⟩

theorem reported_scan (wellFormed : btn.WellFormed) (reported : btn.Reported reports pending events) (level : Bool) :
    ∃ laterReports laterPending,
      (btn.cycleProcess level).1.Reported laterReports laterPending (events ++ (btn.cycleProcess level).2) ∧
        laterReports.length =
          reports.length + if btn.Pressed ∧ ¬(btn.cycleProcess level).1.Pressed then 1 else 0 := by
  obtain ⟨scan, next⟩ := scanned wellFormed level
  cases scan with
  | rests resting rested =>
      have unflagged := longFlag_of_resting wellFormed resting
      have none : pending = 0 := Nat.eq_zero_of_not_pos fun some => by simp [reported.flag.mpr some] at unflagged
      refine ⟨reports, pending, ⟨?_, ?_, ?_, reported.paired⟩, by simp [resting]⟩
      · rw [rested.events, List.append_nil]
        exact reported.events
      · simp [longFlag_of_resting next rested.resting, none]
      · exact fun tapped => reported.tapped (rested.tapped.mp tapped).1
  | holds held =>
      refine ⟨reports, pending + (btn.cycleProcess level).2.length, ⟨?_, ?_, ?_, reported.paired⟩, by simp [held.pressed]⟩
      · rw [reported.events, List.append_assoc, List.replicate_add, held.events, List.length_replicate]
      · rw [held.longFlag, Bool.or_eq_true, reported.flag, decide_eq_true_eq, ← List.length_pos_iff]
        omega
      · rw [held.lastState]
        exact reported.tapped
  | releases pressed letGo =>
      obtain ⟨report, pairs, completes, click⟩ := exists_report reported
      refine ⟨report :: reports, 0, ?_, by simp [pressed, letGo.resting]⟩
      rw [letGo.events]
      exact reported_report reported report pairs completes (longFlag_of_resting next letGo.resting)
        fun tapped => click (letGo.tapped.mp tapped)

/-! ## The samples behind a report -/

/-- What the `switch` leaves of the debouncing. -/
theorem dispatch_debounce :
    btn.dispatch.1.debounceTime = btn.debounceTime ∧ btn.dispatch.1.buttonLastLevel = btn.buttonLastLevel ∧
      btn.dispatch.1.buttonTriggerLevel = btn.buttonTriggerLevel := by
  rw [dispatch]
  split
  · rw [onDowm, longPress, wrapLongTime]
    split
    · split
      · split <;> split <;> exact ⟨rfl, rfl, rfl⟩
      · exact ⟨rfl, rfl, rfl⟩
    · exact ⟨rfl, rfl, rfl⟩
  · rw [onUp]
    split
    · exact ⟨rfl, rfl, rfl⟩
    · split
      · split <;> exact ⟨rfl, rfl, rfl⟩
      · exact ⟨rfl, rfl, rfl⟩
  · rw [onDouble]
    dsimp only
    split <;> exact ⟨rfl, rfl, rfl⟩
  · exact ⟨rfl, rfl, rfl⟩

theorem pressed_dispatch : btn.dispatch.1.Pressed ↔ btn.Pressed := by
  obtain ⟨-, last, trigger⟩ := @dispatch_debounce btn
  rw [Pressed, Pressed, last, trigger]

/-- The samples that a report has had of its four. -/
def progress (btn : Button) : Nat := (if btn.Pressed then 2 else 0) + btn.debounceTime

theorem progress_scan (wellFormed : btn.WellFormed) (level : Bool) :
    (btn.cycleProcess level).1.progress + 4 * (if btn.Pressed ∧ ¬(btn.cycleProcess level).1.Pressed then 1 else 0) =
      btn.progress + if level ≠ btn.buttonLastLevel then 1 else 0 := by
  have small := wellFormed.debouncing
  simp only [buttonDebounceTime] at small
  have frame := (@dispatch_debounce (btn.debounce level)).1
  simp only [progress, cycleProcess, pressed_dispatch, frame]
  by_cases same : level = btn.buttonLastLevel
  · have kept : btn.debounce level = btn := by simp [debounce, same]
    rw [kept]
    simp [same]
  · by_cases first : btn.debounceTime = 0
    · have counted : btn.debounce level = { btn with debounceTime := 1 } := by
        simp [debounce, same, first, next, buttonDebounceTime]
      rw [counted]
      have kept : ({ btn with debounceTime := 1 } : Button).Pressed ↔ btn.Pressed := Iff.rfl
      simp only [kept]
      simp [same, first]
    · have one : btn.debounceTime = 1 := by omega
      rw [debounce_turns wellFormed same first]
      simp only [takeOver_pressed_iff same, one]
      by_cases pressed : btn.Pressed <;> simp [pressed, same, takeOver]

/-- A run from any state, with what it has reported before. -/
theorem reported_run (wellFormed : btn.WellFormed) (reported : btn.Reported reports pending events) :
    ∃ laterReports laterPending,
      (after cycleProcess btn levels).Reported laterReports laterPending (events ++ emits cycleProcess btn levels) ∧
        4 * laterReports.length + (after cycleProcess btn levels).progress =
          4 * reports.length + btn.progress + btn.differing levels := by
  induction levels generalizing btn reports pending events with
  | nil => exact ⟨reports, pending, by simpa using reported, rfl⟩
  | cons level rest ih =>
      obtain ⟨scanReports, scanPending, scan, counted⟩ := reported_scan wellFormed reported level
      obtain ⟨laterReports, laterPending, later, total⟩ := ih (scanned wellFormed level).2 scan
      have progressed := progress_scan wellFormed level
      refine ⟨laterReports, laterPending, ?_, ?_⟩
      · rw [emits_cons, ← List.append_assoc]
        exact later
      · rw [after_cons, total, counted, differing]
        omega

theorem create_reported : (buttonCreate false).Reported [] 0 [] where
  events := rfl
  flag := by decide
  tapped := nofun
  paired := trivial

/-- Every run is a sequence of reports with at most an unfinished long press
behind them, and every fourth differing sample finishes one. -/
theorem reports_of_run (levels : List Bool) :
    ∃ reports pending,
      emits cycleProcess (buttonCreate false) levels =
          (reports.reverse.map Report.events).flatten ++ List.replicate pending .long ∧
        Paired reports ∧
        reports.length = (buttonCreate false).differing levels / 4 ∧
        (0 < pending → (after cycleProcess (buttonCreate false) levels).Pressed) := by
  obtain ⟨reports, pending, reported, counted⟩ := @reported_run _ levels _ _ _ buttonCreate_wellFormed create_reported
  have wellFormed : (after cycleProcess (buttonCreate false) levels).WellFormed := after_wellFormed buttonCreate_wellFormed
  have small := wellFormed.debouncing
  have start : (buttonCreate false).progress = 0 := by decide
  refine ⟨reports, pending, by simpa using reported.events, reported.paired, ?_,
    fun some => wellFormed.flag (reported.flag.mpr some)⟩
  have unfinished : (after cycleProcess (buttonCreate false) levels).progress < 4 := by
    simp only [buttonDebounceTime] at small
    rw [progress]
    split <;> omega
  rw [start, List.length_nil] at counted
  omega

end Button

end SyrFilter.Keys
