import SyrFilter.Display.Menu
import SyrFilter.Rtc.Elapsed
import SyrFilter.Sprintf

namespace SyrFilter.Display

open SyrFilter.Sprintf
open SyrFilter.Storage (Settings)
open SyrFilter.Rtc (Schedule Temps syrRemainAutoTimeGet)

/-! # Numbers on the display

`display/lcd_display.c` formats the numbers it shows into arrays with
`rt_sprintf`, which does not know their sizes.  A site is a place that does so:
a window function, a key that changes a value, or a poll of `userMain23Win`.
-/

inductive DisplayString where
  | reminderWeekstring
  | reminderDaystring
  | automaticWeekstring
  | automaticDaystring
  | manualString
  | automaticString
  | deltaString
  | hardnessString
  | backwashString
  | currentTdsString
  | remainString
deriving DecidableEq, Repr

/-- The size of the array. -/
def DisplayString.size : DisplayString → Nat
  | .reminderWeekstring | .reminderDaystring => 10
  | .automaticWeekstring | .automaticDaystring => 10
  | .manualString => 20
  | .automaticString | .deltaString => 15
  | .hardnessString | .backwashString => 15
  | .currentTdsString => 10
  | .remainString => 4

structure Write where
  string : DisplayString
  text : List UInt8
deriving DecidableEq, Repr

/-- The array holds the text and the zero at its end. -/
def Write.Fits (write : Write) : Prop := write.text.length + 1 ≤ write.string.size

instance (write : Write) : Decidable write.Fits := inferInstanceAs (Decidable (_ ≤ _))

inductive Site where
  | windowFunction (window : Window)
  /-- `Up` in `userMain4Win` or `userMain5Win`. -/
  | intervalUp (schedule : Schedule)
  | intervalDown (schedule : Schedule)
  /-- `Up` on the first row of `userMain16Win`. -/
  | hardnessUp
  | hardnessDown
  /-- `Up` on the first row of `userMain17Win`. -/
  | backwashUp
  | backwashDown
  /-- A poll of `userMain23Win`, with what `TDS_Work` returns. -/
  | userMain23InputFun (tdsValue : UInt32)

def weekstring : Schedule → DisplayString
  | .reminder => .reminderWeekstring
  | .automatic => .automaticWeekstring

def daystring : Schedule → DisplayString
  | .reminder => .reminderDaystring
  | .automatic => .automaticDaystring

namespace Menu

variable (menu : Menu)

/-- `!Setting_Language` -/
def German : Prop := menu.settings.settingLanguage = 0

instance : Decidable menu.German := inferInstanceAs (Decidable (_ = _))

/-- A label in the language of the display, and a number. -/
def labelled (german english : String) (num : UInt32) : List UInt8 :=
  sprintf [.chars (if menu.German then german else english), .d num]

def weekWrite (schedule : Schedule) (week : UInt8) : Write :=
  ⟨weekstring schedule, menu.labelled "Wochen:" "Weeks:" week.toUInt32⟩

def dayWrite (schedule : Schedule) (day : UInt8) : Write :=
  ⟨daystring schedule, menu.labelled "Tage:" "Days:" day.toUInt32⟩

def hardnessWrite (hardness : UInt32) : Write := ⟨.hardnessString, sprintf [.d hardness, .chars " uS/cm"]⟩

def backwashWrite (seconds : UInt16) : Write :=
  ⟨.backwashString,
    sprintf [.chars (if menu.German then "Zeit: " else "Time: "), .d seconds.toUInt32,
      .chars (if menu.German then " Sek." else " Sec.")]⟩

def tdsWrite (value : UInt32) : Write := ⟨.currentTdsString, sprintf [.padded 5 value, .chars "us/cm"]⟩

def remainWrite : Write :=
  ⟨.remainString,
    sprintf [.d (syrRemainAutoTimeGet menu.windows.device.ram), .chars (if menu.German then " Std." else " Hours")]⟩

/-- What the `WindowFunction` of `userMainNWin` formats. -/
def windowWrites : Nat → List Write
  | 4 => [menu.weekWrite .reminder menu.settings.reminderWeek, menu.dayWrite .reminder menu.settings.reminderDay]
  | 5 => [menu.weekWrite .automatic menu.settings.automaticWeek, menu.dayWrite .automatic menu.settings.automaticDay]
  | 9 => [⟨.manualString, menu.labelled "Manuell:" "Manual:" menu.settings.counterManual⟩]
  | 10 =>
      [⟨.automaticString, menu.labelled "Automatik:" "Automatic:" (menu.cut .automatic).settings.counterAutomatic⟩]
  | 11 => [⟨.deltaString, menu.labelled "Differenzdr:" "Delta:" (menu.cut .delta).settings.counterDeltapress⟩]
  | 16 => [hardnessWrite menu.settings.settingHardness]
  | 17 => [menu.backwashWrite menu.settings.settingBackwashtime]
  | 23 => [tdsWrite 0]
  | 30 => [menu.remainWrite]
  | _ => []

/-- What a key of an interval window formats once it has edited the temporaries.
The day is formatted along with the week when it has been made 1. -/
def intervalWrites (schedule : Schedule) (edited : Temps) : List Write :=
  if menu.nowSetting = 0 then
    if edited.week = 0 ∧ (menu.windows.temps schedule).day = 0 then
      [menu.dayWrite schedule edited.day, menu.weekWrite schedule edited.week]
    else [menu.weekWrite schedule edited.week]
  else if menu.nowSetting = 1 then [menu.dayWrite schedule edited.day]
  else []

def writes : Site → List Write
  | .windowFunction (.menuWin number) => menu.windowWrites number
  | .windowFunction _ => []
  | .intervalUp schedule => menu.intervalWrites schedule ((menu.intervalClick schedule .up).windows.temps schedule)
  | .intervalDown schedule => menu.intervalWrites schedule ((menu.intervalClick schedule .down).windows.temps schedule)
  | .hardnessUp => [hardnessWrite menu.hardnessUp.setHardnessTemp.toUInt32]
  | .hardnessDown => [hardnessWrite menu.hardnessDown.setHardnessTemp.toUInt32]
  | .backwashUp => [menu.backwashWrite menu.backwashUp.setBackwashTemp]
  | .backwashDown => [menu.backwashWrite menu.backwashDown.setBackwashTemp]
  | .userMain23InputFun tdsValue => [tdsWrite tdsValue]

/-! ## What fits -/

/-- The state in which the window function of `userMainNWin` stays inside its arrays. -/
def WindowBounded : Nat → Prop
  | 4 => menu.German → menu.settings.reminderWeek < 100
  | 5 => menu.German → menu.settings.automaticWeek < 100
  | 11 => menu.German → menu.settings.counterDeltapress < 100
  | 16 => -10000000 < signed menu.settings.settingHardness ∧ signed menu.settings.settingHardness < 100000000
  | 17 => menu.settings.settingBackwashtime < 1000
  | 23 | 30 => False
  | _ => True

/-- The state in which a site stays inside its arrays. -/
def Bounded : Site → Prop
  | .windowFunction (.menuWin number) => menu.WindowBounded number
  | .intervalDown schedule => menu.German → menu.nowSetting = 0 → (menu.windows.temps schedule).week ≤ 100
  | .backwashUp => menu.setBackwashTemp < 1000
  | .backwashDown => menu.setBackwashTemp ≤ 1000
  | .userMain23InputFun _ => False
  | _ => True

variable {menu} {schedule : Schedule}

theorem length_labelled {german english : String} {num : UInt32} :
    (menu.labelled german english num).length =
      (chars (if menu.German then german else english)).length + (printNumber num (-1) false).length := by
  simp [labelled, sprintf, Item.text]

theorem weekWrite_fits_iff {week : UInt8} : (menu.weekWrite schedule week).Fits ↔ (menu.German → week < 100) := by
  have byte : week.toNat < 256 := week.toNat_lt
  have size : (weekstring schedule).size = 10 := by cases schedule <;> rfl
  have digits := @length_printNumber_le_iff_of_lt week.toUInt32 (by rw [UInt8.toNat_toUInt32]; omega)
  rw [Write.Fits, weekWrite, size, length_labelled, UInt8.lt_iff_toNat_lt]
  by_cases german : menu.German
  · have two := digits 1
    rw [UInt8.toNat_toUInt32] at two
    rw [if_pos german, show (chars "Wochen:").length = 7 from rfl, show (100 : UInt8).toNat = 100 from rfl]
    simp only [german, true_imp_iff]
    omega
  · have three := digits 2
    rw [UInt8.toNat_toUInt32] at three
    rw [if_neg german, show (chars "Weeks:").length = 6 from rfl]
    simp only [german, false_imp_iff, iff_true]
    omega

theorem dayWrite_fits {day : UInt8} : (menu.dayWrite schedule day).Fits := by
  have byte : day.toNat < 256 := day.toNat_lt
  have size : (daystring schedule).size = 10 := by cases schedule <;> rfl
  have label : (chars (if menu.German then "Tage:" else "Days:")).length = 5 := by split <;> rfl
  have three := @length_printNumber_le_iff_of_lt day.toUInt32 (by rw [UInt8.toNat_toUInt32]; omega) 2
  rw [UInt8.toNat_toUInt32] at three
  rw [Write.Fits, dayWrite, size, length_labelled, label]
  omega

theorem hardnessWrite_fits_iff {hardness : UInt32} :
    (hardnessWrite hardness).Fits ↔ -10000000 < signed hardness ∧ signed hardness < 100000000 := by
  have digits := @length_printNumber_le_iff hardness 7
  have length : (hardnessWrite hardness).text.length = (printNumber hardness (-1) false).length + 6 := by
    simp [hardnessWrite, sprintf, Item.text, chars]
  rw [Write.Fits, length, show (hardnessWrite hardness).string.size = 15 from rfl]
  omega

/-- A value under edit has 16 bits. -/
theorem hardnessWrite_fits {hardness : UInt16} : (hardnessWrite hardness.toUInt32).Fits := by
  have word : hardness.toNat < 65536 := hardness.toNat_lt
  have same : signed hardness.toUInt32 = hardness.toNat := by
    rw [signed_of_lt (by rw [UInt16.toNat_toUInt32]; omega), UInt16.toNat_toUInt32]
  rw [hardnessWrite_fits_iff, same]
  omega

theorem backwashWrite_fits_iff {seconds : UInt16} : (menu.backwashWrite seconds).Fits ↔ seconds < 1000 := by
  have word : seconds.toNat < 65536 := seconds.toNat_lt
  have digits := @length_printNumber_le_iff_of_lt seconds.toUInt32 (by rw [UInt16.toNat_toUInt32]; omega) 2
  rw [UInt16.toNat_toUInt32] at digits
  have label : (chars (if menu.German then "Zeit: " else "Time: ")).length = 6 := by split <;> rfl
  have unit : (chars (if menu.German then " Sek." else " Sec.")).length = 5 := by split <;> rfl
  have length : (menu.backwashWrite seconds).text.length = 6 + (printNumber seconds.toUInt32 (-1) false).length + 5 := by
    simp [backwashWrite, sprintf, Item.text, label, unit, Nat.add_assoc]
  rw [Write.Fits, length, show (menu.backwashWrite seconds).string.size = 15 from rfl, UInt16.lt_iff_toNat_lt,
    show (1000 : UInt16).toNat = 1000 from rfl]
  omega

theorem tdsWrite_not_fits {value : UInt32} : ¬(tdsWrite value).Fits := by
  have digits := @le_length_padded value 5
  have length : (tdsWrite value).text.length = (printNumber value (5 : Nat) true).length + 5 := by
    simp [tdsWrite, sprintf, Item.text, chars]
  rw [Write.Fits, length, show (tdsWrite value).string.size = 10 from rfl]
  omega

theorem remainWrite_not_fits : ¬menu.remainWrite.Fits := by
  have unit : 5 ≤ (chars (if menu.German then " Std." else " Hours")).length := by
    split
    · exact Nat.le_of_ble_eq_true rfl
    · exact Nat.le_of_ble_eq_true rfl
  have length : (chars (if menu.German then " Std." else " Hours")).length ≤ menu.remainWrite.text.length := by
    simp [remainWrite, sprintf, Item.text]
  rw [Write.Fits, show menu.remainWrite.string.size = 4 from rfl]
  omega

/-! ## Counters -/

theorem manual_fits {num : UInt32} : Write.Fits ⟨.manualString, menu.labelled "Manuell:" "Manual:" num⟩ := by
  have range := signed_range num
  have digits := @length_printNumber_le_iff num 10
  have label : (chars (if menu.German then "Manuell:" else "Manual:")).length ≤ 8 := by
    split <;> exact Nat.le_of_ble_eq_true rfl
  rw [Write.Fits, length_labelled, show DisplayString.manualString.size = 20 from rfl]
  omega

theorem counterAutomatic_cut : (menu.cut .automatic).settings.counterAutomatic.toNat ≤ 9999 := by
  simp only [settings, cut, CounterWindow.winFun]
  split
  · exact Nat.le_refl _
  · rename_i notAbove
    exact UInt32.le_iff_toNat_le.mp (UInt32.not_lt.mp notAbove)

theorem automatic_fits :
    Write.Fits ⟨.automaticString,
      menu.labelled "Automatik:" "Automatic:" (menu.cut .automatic).settings.counterAutomatic⟩ := by
  have most := @counterAutomatic_cut menu
  have digits := @length_printNumber_le_iff_of_lt (menu.cut .automatic).settings.counterAutomatic (by omega) 3
  have label : (chars (if menu.German then "Automatik:" else "Automatic:")).length = 10 := by split <;> rfl
  rw [Write.Fits, length_labelled, label, show DisplayString.automaticString.size = 15 from rfl]
  omega

theorem counterDeltapress_cut : (menu.cut .delta).settings.counterDeltapress.toNat ≤ 9999 ∧
    ((menu.cut .delta).settings.counterDeltapress < 100 ↔ menu.settings.counterDeltapress < 100) := by
  simp only [settings, cut, CounterWindow.winFun]
  split
  · rename_i above
    have notBelow : ¬menu.windows.device.ram.settings.counterDeltapress < 100 := by
      intro below
      exact absurd (UInt32.lt_trans above below) (by decide)
    have most : ¬(9999 : UInt32) < 100 := by decide
    exact ⟨Nat.le_refl _, iff_of_false most notBelow⟩
  · rename_i notAbove
    exact ⟨UInt32.le_iff_toNat_le.mp (UInt32.not_lt.mp notAbove), Iff.rfl⟩

theorem delta_fits_iff :
    Write.Fits ⟨.deltaString, menu.labelled "Differenzdr:" "Delta:" (menu.cut .delta).settings.counterDeltapress⟩ ↔
      (menu.German → menu.settings.counterDeltapress < 100) := by
  obtain ⟨most, cut⟩ := @counterDeltapress_cut menu
  have digits := @length_printNumber_le_iff_of_lt (menu.cut .delta).settings.counterDeltapress (by omega)
  rw [Write.Fits, length_labelled, show DisplayString.deltaString.size = 15 from rfl, ← cut, UInt32.lt_iff_toNat_lt,
    show (100 : UInt32).toNat = 100 from rfl]
  by_cases german : menu.German
  · have two := digits 1
    rw [if_pos german, show (chars "Differenzdr:").length = 12 from rfl]
    simp only [german, true_imp_iff]
    omega
  · have four := digits 3
    rw [if_neg german, show (chars "Delta:").length = 6 from rfl]
    simp only [german, false_imp_iff, iff_true]
    omega

/-! ## Sites -/

theorem windowWrites_fit_iff (number : Nat) :
    (∀ write ∈ menu.windowWrites number, write.Fits) ↔ menu.WindowBounded number := by
  unfold windowWrites WindowBounded
  split <;> simp [weekWrite_fits_iff, dayWrite_fits, manual_fits, automatic_fits, delta_fits_iff,
    hardnessWrite_fits_iff, backwashWrite_fits_iff, tdsWrite_not_fits, remainWrite_not_fits]

theorem intervalWrites_fit_iff {edited : Temps} :
    (∀ write ∈ menu.intervalWrites schedule edited, write.Fits) ↔
      (menu.German → menu.nowSetting = 0 → edited.week < 100) := by
  rw [intervalWrites]
  by_cases week : menu.nowSetting = 0
  · rw [if_pos week]
    split <;> simp [week, weekWrite_fits_iff, dayWrite_fits]
  · rw [if_neg week]
    split <;> simp [week, dayWrite_fits]

theorem week_atLeastOneDay (temps : Temps) : temps.atLeastOneDay.week = temps.week := by
  rw [Temps.atLeastOneDay]
  split <;> rfl

theorem toNat_weekLimit (timeRange : UInt8) : (Temps.weekLimit timeRange).toNat ≤ 52 := by
  rw [Temps.weekLimit]
  split <;> decide

/-- `Up` goes back to no weeks from any count above the limit. -/
theorem week_clickUp (timeRange : UInt8) (temps : Temps) : (temps.clickUp timeRange 0).week < 100 := by
  have limit := toNat_weekLimit timeRange
  rw [Temps.clickUp, if_pos rfl, week_atLeastOneDay]
  dsimp only
  split
  · decide
  · rename_i below
    rw [UInt8.le_iff_toNat_le] at below
    rw [UInt8.lt_iff_toNat_lt, UInt8.toNat_add, show (100 : UInt8).toNat = 100 from rfl, UInt8.toNat_one]
    omega

theorem week_clickDown (timeRange : UInt8) (temps : Temps) :
    (temps.clickDown timeRange 0).week < 100 ↔ temps.week ≤ 100 := by
  have limit := toNat_weekLimit timeRange
  have hundred : (100 : UInt8).toNat = 100 := rfl
  have few : temps.week ≤ 100 ↔ temps.week.toNat ≤ 100 := UInt8.le_iff_toNat_le
  rw [Temps.clickDown, if_pos rfl, week_atLeastOneDay, UInt8.lt_iff_toNat_lt, few, hundred]
  dsimp only
  split
  · rename_i none
    rw [UInt8.le_iff_toNat_le, UInt8.toNat_zero] at none
    omega
  · rename_i some
    rw [UInt8.le_iff_toNat_le, UInt8.toNat_zero] at some
    have one : 1 ≤ temps.week := UInt8.le_iff_toNat_le.mpr (by rw [UInt8.toNat_one]; omega)
    rw [UInt8.toNat_sub_of_le temps.week 1 one, UInt8.toNat_one]
    omega

theorem temps_intervalUp (schedule : Schedule) : (menu.intervalClick schedule .up).windows.temps schedule =
    (menu.windows.temps schedule).clickUp menu.settings.timeRange menu.nowSetting :=
  Function.update_self ..

theorem temps_intervalDown (schedule : Schedule) : (menu.intervalClick schedule .down).windows.temps schedule =
    (menu.windows.temps schedule).clickDown menu.settings.timeRange menu.nowSetting :=
  Function.update_self ..

theorem backwashUp_lt_iff : menu.backwashUp.setBackwashTemp < 1000 ↔ menu.setBackwashTemp < 1000 := by
  rw [backwashUp]
  split
  · rename_i below
    rw [UInt16.lt_iff_toNat_lt, show (100 : UInt16).toNat = 100 from rfl] at below
    simp only [UInt16.lt_iff_toNat_lt, UInt16.toNat_add, UInt16.toNat_one, show (1000 : UInt16).toNat = 1000 from rfl]
    omega
  · exact Iff.rfl

theorem backwashDown_lt_iff : menu.backwashDown.setBackwashTemp < 1000 ↔ menu.setBackwashTemp ≤ 1000 := by
  have thousand : (1000 : UInt16).toNat = 1000 := rfl
  rw [backwashDown, UInt16.lt_iff_toNat_lt, UInt16.le_iff_toNat_le, thousand]
  split
  · rename_i above
    rw [UInt16.lt_iff_toNat_lt, show (21 : UInt16).toNat = 21 from rfl] at above
    have one : 1 ≤ menu.setBackwashTemp := UInt16.le_iff_toNat_le.mpr (by rw [UInt16.toNat_one]; omega)
    simp only [UInt16.toNat_sub_of_le menu.setBackwashTemp 1 one, UInt16.toNat_one]
    omega
  · rename_i notAbove
    rw [UInt16.lt_iff_toNat_lt, show (21 : UInt16).toNat = 21 from rfl] at notAbove
    omega

/-- Every site stays inside its arrays exactly in the states that bound it. -/
theorem writes_fit_iff (site : Site) : (∀ write ∈ menu.writes site, write.Fits) ↔ menu.Bounded site := by
  cases site with
  | windowFunction window =>
      cases window with
      | menuWin number => exact windowWrites_fit_iff number
      | _ => simp [writes, Bounded]
  | intervalUp schedule =>
      rw [writes, intervalWrites_fit_iff, temps_intervalUp]
      refine iff_of_true (fun _ week => ?_) trivial
      rw [week]
      exact week_clickUp ..
  | intervalDown schedule =>
      rw [writes, intervalWrites_fit_iff, temps_intervalDown, Bounded]
      refine forall₂_congr fun _ week => ?_
      rw [week]
      exact week_clickDown ..
  | hardnessUp => simp [writes, Bounded, hardnessWrite_fits]
  | hardnessDown => simp [writes, Bounded, hardnessWrite_fits]
  | backwashUp => simp [writes, Bounded, backwashWrite_fits_iff, backwashUp_lt_iff]
  | backwashDown => simp [writes, Bounded, backwashWrite_fits_iff, backwashDown_lt_iff]
  | userMain23InputFun tdsValue => simp [writes, Bounded, tdsWrite_not_fits]

end Menu

end SyrFilter.Display
