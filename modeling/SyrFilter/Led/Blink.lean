import SyrFilter.Led.Agile

namespace SyrFilter.Led

open SyrFilter.Lib SyrFilter.Lib.Decimal SyrFilter.Sprintf SyrFilter.Storage.Env

/-! # Blinking

A light mode as a text, and what an LED shows while the thread visits it: the
times of its mode in turn, those of length 0 left out, as many rounds of them as
its loop count says, or endlessly.
-/

/-! ## The text of a light mode -/

section Text

variable {value : UInt32} {values : List UInt32} {rest ending : List UInt8}

end Text

/-! ## What an LED shows -/

/-- The indices of the values that are not 0, in order. -/
def litsFrom (index : Nat) : List UInt32 → List Nat
  | [] => []
  | value :: rest => if value = 0 then litsFrom (index + 1) rest else index :: litsFrom (index + 1) rest

/-- A visit of the thread; an LED that is not active is not on its list. -/
def AgileLed.visit (led : AgileLed) (now : UInt32) : AgileLed × List PinWrite :=
  if led.active then led.process now else (led, [])

/-- The visit with the time at which it shows the value of an index. -/
def AgileLed.shows (led : AgileLed) (now : UInt32) : AgileLed × List (UInt32 × Nat) :=
  ((led.visit now).1,
    if led.active = true ∧ led.loopCnt ≠ 0 then (led.light now).2.map fun index => (now, index) else [])

/-- When the next value is due: once the time of the last one is over. -/
def dueAt (lightArr : List UInt32) (start : UInt32) (shown : List (UInt32 × Nat)) : UInt32 :=
  match shown.getLast? with
  | none => start
  | some last => last.1 + lightArr.getD last.2 0

/-- A value is shown no sooner than it is due. -/
def Due (lightArr : List UInt32) (start : UInt32) (before : List (UInt32 × Nat)) (next : UInt32 × Nat) : Prop :=
  next.1 - dueAt lightArr start before < 0xFFFFFFFF / 2

section Shows

variable {led : AgileLed} {lightArr values : List UInt32} {index : Nat} {now : UInt32}

theorem litsFrom_skip : litsFrom index values =
    litsFrom (index + (values.takeWhile (· = 0)).length) (values.drop (values.takeWhile (· = 0)).length) := by
  induction values generalizing index with
  | nil => rfl
  | cons value rest ih =>
      by_cases dark : value = 0
      · rw [List.takeWhile_cons_of_pos (by simpa using dark), List.length_cons, List.drop_succ_cons, litsFrom,
          if_pos dark, ih]
        congr 1
        omega
      · rw [List.takeWhile_cons_of_neg (by simpa using dark)]
        rfl

theorem head_ne_zero : (values.drop (values.takeWhile (· = 0)).length).head? ≠ some 0 := by
  induction values with
  | nil => nofun
  | cons value rest ih =>
      by_cases dark : value = 0
      · rw [List.takeWhile_cons_of_pos (by simpa using dark)]
        exact ih
      · rw [List.takeWhile_cons_of_neg (by simpa using dark)]
        simpa using dark

theorem litsFrom_litIndex : litsFrom index (lightArr.drop index) =
    if AgileLed.litIndex lightArr index < lightArr.length then
      AgileLed.litIndex lightArr index ::
        litsFrom (AgileLed.litIndex lightArr index + 1) (lightArr.drop (AgileLed.litIndex lightArr index + 1))
    else [] := by
  have apart := @head_ne_zero (lightArr.drop index)
  rw [litsFrom_skip, AgileLed.litIndex]
  rw [List.drop_drop] at apart ⊢
  split
  · rename_i inside
    rw [List.drop_eq_getElem_cons inside] at apart ⊢
    rw [List.head?_cons, ne_eq, Option.some.injEq] at apart
    rw [litsFrom, if_neg apart]
  · rename_i outside
    rw [List.drop_eq_nil_of_le (Nat.le_of_not_lt outside)]
    rfl

/-- The three things a visit of an LED can do whose loops are not used up. -/
theorem light_cases :
    (¬now - led.tickTimeout < 0xFFFFFFFF / 2 ∧ led.light now = (led, [])) ∨
    (AgileLed.litIndex led.lightArr led.arrIndex ≥ led.lightArr.length ∧ now - led.tickTimeout < 0xFFFFFFFF / 2 ∧
      led.light now =
        ({ led with arrIndex := 0, loopCnt := if 0 < led.loopCnt then led.loopCnt - 1 else led.loopCnt }, [])) ∨
    ∃ index, index = AgileLed.litIndex led.lightArr led.arrIndex ∧ index < led.lightArr.length ∧
      now - led.tickTimeout < 0xFFFFFFFF / 2 ∧
        led.light now =
          ({ led with tickTimeout := now + led.lightArr.getD index 0, arrIndex := index + 1 }, [index]) := by
  rw [AgileLed.light]
  split
  · rename_i due
    split
    · rename_i time found
      obtain ⟨inside, -⟩ := List.getElem?_eq_some_iff.mp found
      refine .inr (.inr ⟨_, rfl, inside, due, ?_⟩)
      rw [List.getD_eq_getElem?_getD, found, Option.getD_some]
    · rename_i none
      exact .inr (.inl ⟨List.getElem?_eq_none_iff.mp none, due, rfl⟩)
  · rename_i early
    exact .inl ⟨early, rfl⟩

theorem shows_stopped (stopped : led.active = false) : led.shows now = (led, []) := by
  rw [AgileLed.shows, AgileLed.visit, if_neg (by simp [stopped]), if_neg (by simp [stopped])]

theorem shows_used (active : led.active = true) (used : led.loopCnt = 0) :
    led.shows now = ({ led with active := false }, []) := by
  rw [AgileLed.shows, AgileLed.visit, if_pos active, AgileLed.process, if_pos used, if_neg fun both => both.2 used]

theorem shows_light (active : led.active = true) (left : led.loopCnt ≠ 0) :
    led.shows now = ((led.light now).1, (led.light now).2.map fun index => (now, index)) := by
  rw [AgileLed.shows, AgileLed.visit, if_pos active, AgileLed.process, if_neg left, if_pos ⟨active, left⟩, AgileLed.shine]

/-- How far an LED has come since its mode was set. -/
structure Blinking (lightArr : List UInt32) (loops : Int) (start : UInt32) (led : AgileLed)
    (shown : List (UInt32 × Nat)) : Prop where
  mode : led.lightArr = lightArr
  turns : ∃ (rounds : Nat) (part : List Nat),
    litsFrom 0 lightArr = part ++ litsFrom led.arrIndex (lightArr.drop led.arrIndex) ∧
      shown.map Prod.snd = (List.replicate rounds (litsFrom 0 lightArr)).flatten ++ part ∧
        (0 ≤ loops → rounds + led.loopCnt = loops ∧ 0 ≤ led.loopCnt)
  endless : loops < 0 → led.loopCnt = loops
  begins : led.loopCnt = 0 → led.arrIndex = 0
  stopped : led.active = false → led.loopCnt = 0
  due : led.tickTimeout = dueAt lightArr start shown

/-- All rounds have been shown. -/
def Complete (lightArr : List UInt32) (loops : Int) (shown : List (UInt32 × Nat)) : Prop :=
  0 ≤ loops ∧ shown.map Prod.snd = (List.replicate loops.toNat (litsFrom 0 lightArr)).flatten

variable {loops : Int} {start : UInt32} {shown : List (UInt32 × Nat)}

theorem dueAt_concat (last : UInt32 × Nat) :
    dueAt lightArr start (shown ++ [last]) = last.1 + lightArr.getD last.2 0 := by
  rw [dueAt, List.getLast?_concat]

theorem Blinking.complete (blinking : Blinking lightArr loops start led shown) (used : led.loopCnt = 0) :
    Complete lightArr loops shown := by
  obtain ⟨rounds, part, lits, shows, counted⟩ := blinking.turns
  have finite : 0 ≤ loops := by
    by_contra endless
    have never := blinking.endless (by omega)
    omega
  have all : rounds = loops.toNat := by
    have sum := (counted finite).1
    omega
  rw [blinking.begins used, List.drop_zero, eq_comm, List.append_left_eq_self] at lits
  refine ⟨finite, ?_⟩
  rw [shows, lits, List.append_nil, all]

/-- What one visit does. -/
theorem Blinking.shows (blinking : Blinking lightArr loops start led shown) (now : UInt32) :
    Blinking lightArr loops start (led.shows now).1 (shown ++ (led.shows now).2) := by
  cases active : led.active with
  | false =>
      rw [shows_stopped active, List.append_nil]
      exact blinking
  | true =>
      by_cases used : led.loopCnt = 0
      · rw [shows_used active used, List.append_nil]
        exact { blinking with stopped := fun _ => used }
      · obtain ⟨mode, ⟨rounds, part, lits, shows, counted⟩, endless, begins, stopped, due⟩ := blinking
        rw [shows_light active used]
        rcases @light_cases led now with ⟨-, still⟩ | ⟨ends, -, begun⟩ | ⟨index, index_, inside, -, lit⟩
        · rw [still, List.map_nil, List.append_nil]
          exact ⟨mode, ⟨rounds, part, lits, shows, counted⟩, endless, begins, stopped, due⟩
        · -- The round is over.
          have ended : litsFrom led.arrIndex (lightArr.drop led.arrIndex) = [] := by
            rw [← mode, litsFrom_litIndex, if_neg (Nat.not_lt.mpr ends)]
          rw [ended, List.append_nil] at lits
          rw [begun, List.map_nil, List.append_nil]
          refine ⟨mode, ⟨rounds + 1, [], rfl, ?_, fun finite => ?_⟩, fun below => ?_, fun _ => rfl, fun never => ?_, due⟩
          · rw [shows, ← lits, List.replicate_succ', List.flatten_append, List.flatten_singleton, List.append_nil]
          · have sum := counted finite
            have some : 0 < led.loopCnt := by omega
            dsimp only
            rw [if_pos some]
            omega
          · have same := endless below
            dsimp only
            rw [if_neg (by omega), same]
          · exact absurd (active.symm.trans never) (by decide)
        · rw [lit, List.map_singleton]
          refine ⟨mode, ⟨rounds, part ++ [index], ?_, ?_, counted⟩, endless, fun none => absurd none used, stopped, ?_⟩
          · rw [lits, ← mode, litsFrom_litIndex, ← index_, if_pos inside, List.append_assoc, List.singleton_append]
          · rw [List.map_append, shows, List.map_singleton, List.append_assoc]
          · rw [dueAt_concat, mode]

theorem Blinking.run (blinking : Blinking lightArr loops start led []) (times : List UInt32) :
    Blinking lightArr loops start (after AgileLed.shows led times) (emits AgileLed.shows led times) := by
  induction times using List.reverseRecOn with
  | nil => exact blinking
  | append_singleton times now ih =>
      rw [after_concat, emits_concat]
      exact ih.shows now

theorem litIndex_lt (some_ : ∃ value ∈ lightArr, value ≠ 0) : AgileLed.litIndex lightArr 0 < lightArr.length := by
  obtain ⟨value, member, lit⟩ := some_
  rw [AgileLed.litIndex, List.drop_zero, Nat.zero_add]
  refine (List.takeWhile_prefix _).length_le.lt_of_ne fun whole => lit ?_
  have all := (List.takeWhile_prefix (fun value : UInt32 => decide (value = 0))).eq_of_length whole
  have none := List.takeWhile_eq_self_iff.mp all value member
  simpa using none

/-- Of two visits to an LED with a value due one shows it, the first or, where a round is over, the
second, unless all rounds have been shown. -/
theorem Blinking.progress (blinking : Blinking lightArr loops start led shown) (active : led.active = true)
    (some_ : ∃ value ∈ lightArr, value ≠ 0) {first second : UInt32}
    (due : first - dueAt lightArr start shown < 0xFFFFFFFF / 2)
    (due' : second - dueAt lightArr start shown < 0xFFFFFFFF / 2) :
    emits AgileLed.shows led [first, second] ≠ [] ∨ Complete lightArr loops shown := by
  rw [← blinking.due] at due due'
  by_cases used : led.loopCnt = 0
  · exact .inr (blinking.complete used)
  · have next := blinking.shows first
    rw [emits_cons, emits_cons, emits_nil, List.append_nil]
    rw [shows_light active used] at next ⊢
    rcases @light_cases led first with ⟨early, -⟩ | ⟨-, -, begun⟩ | ⟨index, -, -, -, lit⟩
    · exact absurd due early
    · rw [begun] at next ⊢
      rw [List.map_nil, List.nil_append]
      rw [List.map_nil, List.append_nil] at next
      -- The round is over, and the second visit begins another one or finds the loops used up.
      generalize again_ : ({ led with
        arrIndex := 0, loopCnt := if 0 < led.loopCnt then led.loopCnt - 1 else led.loopCnt } : AgileLed) = again at next ⊢
      have still : again.active = true := by rw [← again_, active]
      have first_ : again.arrIndex = 0 := by rw [← again_]
      have tick : again.tickTimeout = led.tickTimeout := by rw [← again_]
      by_cases used' : again.loopCnt = 0
      · exact .inr (next.complete used')
      · left
        rw [shows_light still used']
        rcases @light_cases again second with ⟨early, -⟩ | ⟨ends, -⟩ | ⟨index, -, -, -, lit⟩
        · rw [tick] at early
          exact absurd due' early
        · rw [first_, next.mode] at ends
          exact absurd (litIndex_lt some_) (Nat.not_lt.mpr ends)
        · rw [lit]
          exact List.cons_ne_nil _ _
    · left
      rw [lit]
      exact List.append_ne_nil_of_left_ne_nil (List.cons_ne_nil _ _) _

end Shows

/-! ## The rounds of the thread -/

/-- What the thread has done is to visit an LED so many times. -/
structure Visited (leds : Leds) (color : Color) (now : UInt32) (count : Nat) (result : Leds × List PinWrite) : Prop where
  led : result.1.led color = after AgileLed.visit (leds.led color) (List.replicate count now)
  pins : ∀ other, (result.1.led other).pin = (leds.led other).pin
  writes : result.2.filter (·.pin = (leds.led color).pin) =
    emits AgileLed.visit (leds.led color) (List.replicate count now)

section Rounds

variable {leds : Leds} {color other : Color} {now : UInt32} {first second : Nat} {one two : Leds × List PinWrite}

theorem Visited.trans (before : Visited leds color now first one) (later : Visited one.1 color now second two) :
    Visited leds color now (first + second) (two.1, one.2 ++ two.2) where
  led := by rw [later.led, before.led, List.replicate_add, after_append]
  pins := fun other => (later.pins other).trans (before.pins other)
  writes := by
    rw [List.filter_append, before.writes, List.replicate_add, emits_append, ← before.led, ← later.writes, before.pins]

theorem Visited.refl : Visited leds color now 0 (leds, []) := ⟨rfl, fun _ => rfl, rfl⟩

/-- One LED is done, the one in question or another one. -/
theorem visited_one {done : AgileLed × List PinWrite} {list : List Color}
    (apart : ∀ other ≠ color, (leds.led other).pin ≠ (leds.led color).pin) (active : (leds.led other).active = true)
    (processed : done = (leds.led other).process now) (pin : done.1.pin = (leds.led other).pin)
    (writes : ∀ write ∈ done.2, write.pin = (leds.led other).pin) :
    Visited leds color now (if other = color then 1 else 0) ({ leds.put other done.1 with list }, done.2) := by
  have pins : ∀ color, ((leds.put other done.1).led color).pin = (leds.led color).pin := by
    intro color
    rw [Leds.led_put]
    split
    · rename_i same
      rw [pin, same]
    · rfl
  by_cases here : other = color
  · subst here
    have visit : (leds.led other).visit now = done := by rw [AgileLed.visit, if_pos active, processed]
    rw [if_pos rfl]
    refine ⟨?_, pins, ?_⟩
    · dsimp only
      rw [Leds.led_put, if_pos rfl, List.replicate_one, after_cons, visit, after_nil]
    · rw [List.replicate_one, emits_cons, visit, emits_nil, List.append_nil, List.filter_eq_self]
      exact fun write member => by simpa using writes write member
  · rw [if_neg here]
    refine ⟨?_, pins, ?_⟩
    · dsimp only
      rw [Leds.led_put, if_neg (Ne.symm here)]
      rfl
    · rw [List.replicate_zero, emits_nil, List.filter_eq_nil_iff]
      intro write member
      rw [writes write member]
      simpa using apart other here

theorem process_pins (led : AgileLed) (now : UInt32) :
    (led.process now).1.pin = led.pin ∧ ∀ write ∈ (led.process now).2, write.pin = led.pin := by
  rw [AgileLed.process]
  split
  · exact ⟨rfl, fun write member => (List.mem_singleton.mp member) ▸ rfl⟩
  · refine ⟨?_, fun write member => ?_⟩
    · rw [AgileLed.shine]
      rcases @light_cases led now with ⟨-, still⟩ | ⟨-, -, begun⟩ | ⟨index, -, -, -, lit⟩
      · rw [still]
      · rw [begun]
      · rw [lit]
    · obtain ⟨index, -, rfl⟩ := List.mem_map.mp member
      rw [AgileLed.phase]
      split <;> rfl

/-- A pass visits each LED of the list, up to one that is stopped. -/
theorem processNodes_visits (nodes : List Color) (wellFormed : leds.WellFormed) (listed : ∀ other ∈ nodes, other ∈ leds.list)
    (apart : ∀ other ≠ color, (leds.led other).pin ≠ (leds.led color).pin) :
    ∃ count, Visited leds color now count
        ((Leds.processNodes now nodes leds).1, (Leds.processNodes now nodes leds).2.1) ∧
      ((Leds.processNodes now nodes leds).2.2 = false → color ∈ nodes → 0 < count) := by
  induction nodes generalizing leds with
  | nil => exact ⟨0, .refl, fun _ none => absurd none List.not_mem_nil⟩
  | cons other rest ih =>
      have active := (wellFormed.listed other).mp (listed other List.mem_cons_self)
      obtain ⟨pin, writes⟩ := process_pins (leds.led other) now
      rw [Leds.processNodes]
      split
      · rename_i used
        have stop : (leds.led other).process now = ({ leds.led other with active := false }, [(leds.led other).off]) :=
          if_pos used
        have visited := @visited_one leds color other now _ (leds.list.erase other) apart active rfl pin writes
        refine ⟨if other = color then 1 else 0, ?_, fun never => Bool.noConfusion never⟩
        rw [Leds.stop, if_pos active]
        rwa [stop] at visited
      · rename_i left
        have shine : (leds.led other).process now = (leds.led other).shine now := if_neg left
        have visited := @visited_one leds color other now _ leds.list apart active rfl pin writes
        rw [shine] at visited
        have put := Leds.put_wellFormed wellFormed (Leds.shine_active (leds.led other) now)
        have apart' : ∀ third ≠ color, ((leds.put other ((leds.led other).shine now).1).led third).pin ≠
            ((leds.put other ((leds.led other).shine now).1).led color).pin := by
          intro third different
          rw [visited.pins third, visited.pins color]
          exact apart third different
        obtain ⟨count, later, some⟩ := ih put (fun third member => listed third (List.mem_cons_of_mem _ member)) apart'
        refine ⟨_, visited.trans later, fun whole member => ?_⟩
        rcases List.mem_cons.mp member with rfl | behind
        · rw [if_pos rfl]
          omega
        · have more := some whole behind
          omega

/-- A round of the thread is, for an LED with a pin of its own, some visits of it, and at least one if it is
on the list. -/
theorem ledProcess_visits (wellFormed : leds.WellFormed)
    (apart : ∀ other ≠ color, (leds.led other).pin ≠ (leds.led color).pin) (now : UInt32) :
    ∃ count, Visited leds color now count (leds.ledProcess now) ∧ ((leds.led color).active = true → 0 < count) := by
  rw [Leds.ledProcess]
  generalize enough : leds.list.length + 1 = more
  replace enough : leds.list.length < more := by omega
  induction more generalizing leds with
  | zero => omega
  | succ more ih =>
      obtain ⟨first, visited, whole⟩ := @processNodes_visits leds color now leds.list wellFormed (fun _ member => member) apart
      obtain ⟨kept, fewer⟩ := Leds.processNodes_spec now leds.list wellFormed fun _ member => member
      rw [Leds.passes]
      split
      · rename_i again
        rw [if_pos again] at fewer
        have apart' : ∀ other ≠ color, ((Leds.processNodes now leds.list leds).1.led other).pin ≠
            ((Leds.processNodes now leds.list leds).1.led color).pin := by
          intro other different
          rw [visited.pins other, visited.pins color]
          exact apart other different
        obtain ⟨second, later, some⟩ := ih kept apart' (by omega)
        refine ⟨first + second, visited.trans later, fun active => ?_⟩
        -- An LED that has not been visited is still on the list.
        rcases Nat.eq_zero_or_pos first with none | positive
        · have same := visited.led
          rw [none, List.replicate_zero, after_nil] at same
          have more := some (same ▸ active)
          omega
        · omega
      · rename_i once
        exact ⟨first, visited, fun active => whole (by simpa using once) ((wellFormed.listed color).mpr active)⟩

end Rounds

end SyrFilter.Led
