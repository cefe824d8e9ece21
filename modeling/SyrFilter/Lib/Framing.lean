import Mathlib.Data.List.Basic
import Mathlib.Data.List.TakeDrop

namespace SyrFilter.Lib

/-! # Scanning a stream for frames

A framer looks at the front of what has arrived and either waits for more,
drops some of it, or takes a frame off.  A decision once made does not depend
on what arrives later, and this alone makes the frames found in a stream
independent of the pieces it arrives in.
-/

variable {α : Type*}

inductive Decision where
  | wait
  | skip (count : Nat)
  | emit (count : Nat)
deriving DecidableEq, Repr

/-- How far a decision moves in the stream. -/
def Decision.advance : Decision → Option Nat
  | .wait => none
  | .skip count => some count
  | .emit count => some count

theorem Decision.eq_wait_of_advance {decision : Decision} (still : decision.advance = none) :
    decision = .wait := by
  cases decision with
  | wait => rfl
  | skip count => cases still
  | emit count => cases still

structure Framer (α : Type*) where
  decide : List α → Decision
  bound : ∀ {input count}, (decide input).advance = some count → 0 < count ∧ count ≤ input.length
  stable : ∀ {input count} (more : List α), (decide input).advance = some count →
    decide (input ++ more) = decide input

namespace Framer

variable {framer : Framer α} {input first second rest : List α} {count : Nat}

/-- The frames found in the input and what is left of it. -/
def parse (framer : Framer α) (input : List α) : List (List α) × List α :=
  match _decision : framer.decide input with
  | .wait => ([], input)
  | .skip count => framer.parse (input.drop count)
  | .emit count =>
      let later := framer.parse (input.drop count)
      (input.take count :: later.1, later.2)
termination_by input.length
decreasing_by
  all_goals
    have moves := framer.bound (congrArg Decision.advance _decision)
    rw [List.length_drop]
    omega

theorem parse_wait (decision : framer.decide input = .wait) : framer.parse input = ([], input) := by
  rw [parse]
  split <;> simp_all

theorem parse_skip (decision : framer.decide input = .skip count) :
    framer.parse input = framer.parse (input.drop count) := by
  rw [parse]
  split <;> simp_all

theorem parse_emit (decision : framer.decide input = .emit count) :
    framer.parse input =
      (input.take count :: (framer.parse (input.drop count)).1,
        (framer.parse (input.drop count)).2) := by
  rw [parse]
  split <;> simp_all

theorem residue_of_advance (moves : (framer.decide input).advance = some count) :
    (framer.parse input).2 = (framer.parse (input.drop count)).2 := by
  cases decision : framer.decide input with
  | wait =>
      rw [decision] at moves
      cases moves
  | skip skipped =>
      rw [decision] at moves
      cases moves
      rw [parse_skip decision]
  | emit taken =>
      rw [decision] at moves
      cases moves
      rw [parse_emit decision]

theorem length_drop_lt (moves : (framer.decide input).advance = some count) :
    (input.drop count).length < input.length := by
  have bounds := framer.bound moves
  rw [List.length_drop]
  omega

theorem decide_residue (input : List α) : framer.decide (framer.parse input).2 = .wait := by
  fun_induction framer.parse input with
  | case1 input decision => exact decision
  | case2 input count decision ih => exact ih
  | case3 input count decision later ih => exact ih

/-- Scanning in two pieces: the second piece continues from what the first left. -/
theorem parse_append (first second : List α) :
    framer.parse (first ++ second) =
      ((framer.parse first).1 ++ (framer.parse ((framer.parse first).2 ++ second)).1,
        (framer.parse ((framer.parse first).2 ++ second)).2) := by
  induction size : first.length using Nat.strongRecOn generalizing first with
  | _ size ih =>
      subst size
      cases decision : framer.decide first with
      | wait =>
          rw [parse_wait decision]
          rfl
      | skip count =>
          have moves := congrArg Decision.advance decision
          have inside := (framer.bound moves).2
          have same := (framer.stable second moves).trans decision
          rw [parse_skip decision, parse_skip same, List.drop_append_of_le_length inside]
          exact ih _ (length_drop_lt moves) _ rfl
      | emit count =>
          have moves := congrArg Decision.advance decision
          have inside := (framer.bound moves).2
          have same := (framer.stable second moves).trans decision
          rw [parse_emit decision, parse_emit same, List.drop_append_of_le_length inside,
            List.take_append_of_le_length inside, ih _ (length_drop_lt moves) _ rfl]
          rfl

/-! ## Views of the frames

What is looked at of a frame may reach past its end.  A view that is settled
once the frame is taken off is found in pieces as well.
-/

variable {β : Type*} {view : List α → β}

def views (framer : Framer α) (view : List α → β) (input : List α) : List β :=
  match _decision : framer.decide input with
  | .wait => []
  | .skip count => framer.views view (input.drop count)
  | .emit count => view input :: framer.views view (input.drop count)
termination_by input.length
decreasing_by
  all_goals
    have moves := framer.bound (congrArg Decision.advance _decision)
    rw [List.length_drop]
    omega

theorem views_wait (decision : framer.decide input = .wait) : framer.views view input = [] := by
  rw [views]
  split <;> simp_all

theorem views_skip (decision : framer.decide input = .skip count) :
    framer.views view input = framer.views view (input.drop count) := by
  rw [views]
  split <;> simp_all

theorem views_emit (decision : framer.decide input = .emit count) :
    framer.views view input = view input :: framer.views view (input.drop count) := by
  rw [views]
  split <;> simp_all

/-- A view that shows the frame itself. -/
theorem views_eq_parse {view : List α → List α}
    (taken : ∀ {input count}, framer.decide input = .emit count → view input = input.take count)
    (input : List α) : framer.views view input = (framer.parse input).1 := by
  fun_induction framer.parse input with
  | case1 input decision => exact views_wait decision
  | case2 input count decision ih => rw [views_skip decision, ih]
  | case3 input count decision later ih => rw [views_emit decision, ih, taken decision]

def Settled (framer : Framer α) (view : List α → β) : Prop :=
  ∀ {input count} (more : List α), framer.decide input = .emit count → view (input ++ more) = view input

theorem views_append (settled : framer.Settled view) (first second : List α) :
    framer.views view (first ++ second) =
      framer.views view first ++ framer.views view ((framer.parse first).2 ++ second) := by
  induction size : first.length using Nat.strongRecOn generalizing first with
  | _ size ih =>
      subst size
      cases decision : framer.decide first with
      | wait => rw [views_wait decision, parse_wait decision, List.nil_append]
      | skip count =>
          have moves := congrArg Decision.advance decision
          have inside := (framer.bound moves).2
          have same := (framer.stable second moves).trans decision
          rw [views_skip decision, views_skip same, parse_skip decision,
            List.drop_append_of_le_length inside]
          exact ih _ (length_drop_lt moves) _ rfl
      | emit count =>
          have moves := congrArg Decision.advance decision
          have inside := (framer.bound moves).2
          have same := (framer.stable second moves).trans decision
          rw [views_emit decision, views_emit same, parse_emit decision,
            List.drop_append_of_le_length inside, settled second decision,
            ih _ (length_drop_lt moves) _ rfl]
          rfl

/-! ## Positions visited -/

/-- The scan of the first list comes to a position where the second is what is
left to look at. -/
inductive Visits (framer : Framer α) : List α → List α → Prop
  | here (input : List α) : Visits framer input input
  | later {input rest : List α} {count : Nat} (moves : (framer.decide input).advance = some count)
      (visits : Visits framer (input.drop count) rest) : Visits framer input rest

theorem Visits.append (visits : framer.Visits input rest) (more : List α) :
    framer.Visits (input ++ more) (rest ++ more) := by
  induction visits with
  | here input => exact .here _
  | @later input rest count moves _ ih =>
      have sameMoves := (congrArg Decision.advance (framer.stable more moves)).trans moves
      refine .later sameMoves ?_
      rwa [List.drop_append_of_le_length (framer.bound moves).2]

theorem Visits.isSuffix (visits : framer.Visits input rest) : rest <:+ input := by
  induction visits with
  | here input => exact List.suffix_refl _
  | later moves _ ih => exact ih.trans (List.drop_suffix _ _)

theorem Visits.length_le (visits : framer.Visits input rest) : rest.length ≤ input.length :=
  visits.isSuffix.length_le

theorem Visits.next (visits : framer.Visits input rest)
    (moves : (framer.decide rest).advance = some count) : framer.Visits input (rest.drop count) := by
  induction visits with
  | here input => exact .later moves (.here _)
  | later earlier _ ih => exact .later earlier (ih moves)

theorem Visits.of_residue (visits : framer.Visits ((framer.parse first).2 ++ second) rest) :
    framer.Visits (first ++ second) rest := by
  induction size : first.length using Nat.strongRecOn generalizing first with
  | _ size ih =>
      subst size
      cases moves : (framer.decide first).advance with
      | none =>
          rw [parse_wait (Decision.eq_wait_of_advance moves)] at visits
          exact visits
      | some count =>
          rw [residue_of_advance moves] at visits
          have later := ih _ (length_drop_lt moves) visits rfl
          rw [← List.drop_append_of_le_length (framer.bound moves).2] at later
          exact .later ((congrArg Decision.advance (framer.stable second moves)).trans moves) later

end Framer

end SyrFilter.Lib
