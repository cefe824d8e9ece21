import SyrFilter.Lib.Framing
import SyrFilter.Lib.Memory

namespace SyrFilter.Lib

/-! # Scan loops over a buffer

A loop that walks a buffer with an offset and decides at each position, from
the bytes received up to `rxIn`, as a framer would.  The agreement may fail at
certain positions, called `bad`; the loop finds the framer's frames as long as
the framer never comes to one.
-/

section Loop

variable (head : Nat) (iteration : Nat → Decision) (rxIn : Nat)

/-- Where the loop ends and the offsets of the frames it found, or nothing when
it is still going after that many iterations. -/
def scanLoop : Nat → Nat → Option (Nat × List Nat)
  | 0, _ => none
  | fuel + 1, offset =>
      if rxIn - offset < head then some (offset, [])
      else
        match iteration offset with
        | .wait => some (offset, [])
        | .skip count => scanLoop fuel (offset + count)
        | .emit count =>
            (scanLoop fuel (offset + count)).map fun result => (result.1, offset :: result.2)

/-- The offsets at which the body of the loop runs. -/
inductive Examined : Nat → Prop
  | start (long : head ≤ rxIn) : Examined 0
  | next {offset count : Nat} (examined : Examined offset)
      (moves : (iteration offset).advance = some count)
      (long : head ≤ rxIn - (offset + count)) : Examined (offset + count)

end Loop

variable {α : Type*} {memory : Nat → α} {framer : Framer α} {bad : List α → Prop} {head rxIn offset : Nat}
  {iteration : Nat → Decision} {bytes rest : List α}

/-- The bytes received from an offset on. -/
def received (memory : Nat → α) (rxIn offset : Nat) : List α := window memory offset (rxIn - offset)

@[simp] theorem length_received : (received memory rxIn offset).length = rxIn - offset := length_window

theorem drop_received (count : Nat) :
    (received memory rxIn offset).drop count = received memory rxIn (offset + count) := by
  rw [received, received, drop_window, Nat.sub_sub]

theorem Examined.long (examined : Examined head iteration rxIn offset) : head ≤ rxIn - offset := by
  cases examined with
  | start long => exact long
  | next _ _ long => exact long

theorem visits_later {count : Nat}
    (moves : (framer.decide (received memory rxIn offset)).advance = some count)
    (sound : ∀ rest, framer.Visits (received memory rxIn offset) rest → ¬bad rest) :
    ∀ rest, framer.Visits (received memory rxIn (offset + count)) rest → ¬bad rest := by
  intro rest visits
  rw [← drop_received] at visits
  exact sound rest (.later moves visits)

/-- The loop's decisions are the framer's wherever the position is not bad. -/
structure Follows (framer : Framer α) (bad : List α → Prop) (head : Nat) (iteration : Nat → Decision)
    (memory : Nat → α) (rxIn : Nat) : Prop where
  short : ∀ input, input.length < head → framer.decide input = .wait
  badLong : ∀ input, bad input → head ≤ input.length
  agrees : ∀ offset, head ≤ rxIn - offset → ¬bad (received memory rxIn offset) →
    iteration offset = framer.decide (received memory rxIn offset)

namespace Follows

variable (follows : Follows framer bad head iteration memory rxIn)

include follows

theorem visits_of_examined
    (sound : ∀ rest, framer.Visits (received memory rxIn 0) rest → ¬bad rest)
    (examined : Examined head iteration rxIn offset) :
    framer.Visits (received memory rxIn 0) (received memory rxIn offset) := by
  induction examined with
  | start long => exact .here _
  | next examined moves _ ih =>
      rw [follows.agrees _ examined.long (sound _ ih)] at moves
      rw [← drop_received]
      exact ih.next moves

theorem not_bad_of_visits
    (sound : ∀ offset, Examined head iteration rxIn offset → ¬bad (received memory rxIn offset))
    (visits : framer.Visits bytes rest) (examined : Examined head iteration rxIn offset)
    (same : bytes = received memory rxIn offset) : ¬bad rest := by
  induction visits generalizing offset with
  | here bytes =>
      subst same
      exact sound offset examined
  | @later bytes rest count moves visits ih =>
      subst same
      rw [← follows.agrees offset examined.long (sound offset examined)] at moves
      by_cases long : head ≤ rxIn - (offset + count)
      · exact ih (.next examined moves long) (drop_received count)
      · -- Too little is left for a bad position.
        intro wrong
        have shorter := visits.length_le
        rw [drop_received, length_received] at shorter
        exact long (Nat.le_trans (follows.badLong _ wrong) shorter)

/-- The loop and the framer come to a bad position together. -/
theorem examined_iff_visits :
    (∀ offset, Examined head iteration rxIn offset → ¬bad (received memory rxIn offset)) ↔
      ∀ rest, framer.Visits (received memory rxIn 0) rest → ¬bad rest := by
  constructor
  · intro sound rest visits wrong
    have long : head ≤ rxIn := by
      have shorter := Nat.le_trans (follows.badLong _ wrong) visits.length_le
      rwa [length_received] at shorter
    exact follows.not_bad_of_visits sound visits (.start long) rfl wrong
  · intro sound offset examined
    exact sound _ (follows.visits_of_examined sound examined)

/-- The loop ends, and it finds what the framer finds. -/
theorem scanLoop_eq_parse (fuel : Nat) (ahead : offset ≤ rxIn) (enough : rxIn - offset < fuel)
    (sound : ∀ rest, framer.Visits (received memory rxIn offset) rest → ¬bad rest) :
    ∃ stop found, scanLoop head iteration rxIn fuel offset = some (stop, found) ∧ stop ≤ rxIn ∧
      received memory rxIn stop = (framer.parse (received memory rxIn offset)).2 ∧
      (∀ {β : Type} (view : List α → β),
        found.map (fun start => view (received memory rxIn start)) =
          framer.views view (received memory rxIn offset)) ∧
      ∀ start ∈ found, ∃ count, framer.decide (received memory rxIn start) = .emit count := by
  induction fuel generalizing offset with
  | zero => omega
  | succ fuel ih =>
      by_cases short : rxIn - offset < head
      · have waits : framer.decide (received memory rxIn offset) = .wait :=
          follows.short _ (by rw [length_received]; exact short)
        refine ⟨offset, [], by rw [scanLoop, if_pos short], ahead, ?_, ?_, ?_⟩
        · rw [Framer.parse_wait waits]
        · intro β view
          rw [Framer.views_wait waits, List.map_nil]
        · intro start member
          cases member
      · have same := follows.agrees offset (by omega) (sound _ (.here _))
        cases decision : framer.decide (received memory rxIn offset) with
        | wait =>
            refine ⟨offset, [], by simp only [scanLoop, if_neg short, same, decision], ahead, ?_, ?_, ?_⟩
            · rw [Framer.parse_wait decision]
            · intro β view
              rw [Framer.views_wait decision, List.map_nil]
            · intro start member
              cases member
        | skip count =>
            have moves := congrArg Decision.advance decision
            have bounds := framer.bound moves
            rw [length_received] at bounds
            obtain ⟨stop, found, ends, inside, left, taken, emits⟩ :=
              ih (by omega) (by omega) (visits_later moves sound)
            refine ⟨stop, found, ?_, inside, ?_, ?_, emits⟩
            · simp only [scanLoop, if_neg short, same, decision, ends]
            · rw [Framer.parse_skip decision, drop_received, left]
            · intro β view
              rw [Framer.views_skip decision, drop_received, taken]
        | emit count =>
            have moves := congrArg Decision.advance decision
            have bounds := framer.bound moves
            rw [length_received] at bounds
            obtain ⟨stop, found, ends, inside, left, taken, emits⟩ :=
              ih (by omega) (by omega) (visits_later moves sound)
            refine ⟨stop, offset :: found, ?_, inside, ?_, ?_, ?_⟩
            · simp only [scanLoop, if_neg short, same, decision, ends, Option.map_some]
            · rw [Framer.parse_emit decision, drop_received, left]
            · intro β view
              rw [Framer.views_emit decision, drop_received, List.map_cons, taken]
            · intro start member
              rcases List.mem_cons.mp member with rfl | later
              · exact ⟨count, decision⟩
              · exact emits start later

end Follows

end SyrFilter.Lib
