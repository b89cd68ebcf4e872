import Arbor.Proofs.Walk.Descent
import Arbor.Proofs.Walk.Drawing

/-!
# Side branches do not matter to the rest

A turtle comes out of a group as it has gone into it, but for the points that it has recorded inside
and the sways that it has drawn.  What is recorded has no part in the rest of the walk, and from a
constant source it is all the same how many sways have been drawn before.  So with a constant source
the points before a group and behind it are the same whatever is in the group, and they are those of
the word without the group (`side_branches_do_not_matter`).
-/

namespace Arbor

open Brackets Number Space

/-- A balanced part of a word makes no difference to whether the word is matched. -/
theorem Brackets.Balanced.matched_between {middle : List Char} (balanced : Balanced middle)
    (first last : List Char) :
    Matched (first ++ (middle ++ last)) ↔ Matched (first ++ last) := by
  rw [← List.append_assoc, Brackets.matched_append (first ++ middle), balanced.append_matched,
    level_append, balanced.level_eq, Int.add_zero, ← Brackets.matched_append]

variable {C W J : Type}

/-- A source that gives a sway without being changed can be drawn from for ever. -/
theorem AngleSource.supplies_of_constant [AngleSource J W] {jitter : J} {sway : W}
    (constant : AngleSource.draw jitter = .ok sway jitter) (count : Nat) :
    AngleSource.Supplies count jitter := by
  induction count with
  | zero => trivial
  | succ count inductionHypothesis => exact ⟨sway, jitter, constant, inductionHypothesis⟩

/-- A value within the allowed angles is a number. -/
theorem Jitter.summand_of_withinRange {sway : Value} (inside : Jitter.withinRange sway = .ok true) :
    ∃ angle, Jitter.summand sway = .ok angle := by
  cases sway with
  | int sway =>
    have bounds := Except.ok.inj inside
    rw [Bool.and_eq_true, decide_eq_true_eq, decide_eq_true_eq] at bounds
    unfold leastSway greatestSway at bounds
    have small : ∀ size ≤ 30, Number.double.roundMagnitude size 0 ≠ Number.double.infinity := by
      decide
    have finite := small sway.natAbs (by omega)
    simp only [summand, realOfWhole, if_neg finite]
    exact ⟨_, rfl⟩
  | flag sway => exact ⟨_, rfl⟩
  | real sway => exact ⟨_, rfl⟩
  | _ => cases inside

/-- Every angle that is allowed for a constant source can be drawn from it. -/
theorem Jitter.draw_of_ofConstant {sway : Value} {jitter : Jitter}
    (allowed : Jitter.ofConstant sway = .ok jitter) :
    ∃ angle : Float, AngleSource.draw jitter = .ok angle jitter := by
  unfold ofConstant at allowed
  cases compared : withinRange sway with
  | error failure =>
    rw [compared] at allowed
    cases allowed
  | ok within =>
    rw [compared] at allowed
    cases within with
    | false => cases allowed
    | true =>
      cases allowed
      rcases summand_of_withinRange compared with ⟨angle, number⟩
      refine ⟨angle, ?_⟩
      change Act.lift (summand sway) (constant sway) = _
      rw [number]
      rfl

variable [Wide W] [Component C W] [AngleSource J W]

namespace Turtle

variable {turtle reached : Turtle C W J} {word closed : List Char} {index : Nat} {sway : W}

/-- With a constant source a word leaves the source as it is. -/
theorem followAll_jitter (constant : AngleSource.draw turtle.jitter = .ok sway turtle.jitter)
    (walked : followAll word index turtle = .ok () reached) : reached.jitter = turtle.jitter := by
  have kept : Act.Keeps (· = turtle.jitter) (AngleSource.draw : Act J W) := by
    rintro _ rfl
    exact Act.reached_of_ok constant
  have after := followAll_keeps_jitter (C := C) kept word index turtle rfl
  rwa [Act.reached_of_ok walked] at after

/-- Only the points tell a turtle that comes out of a group from one that has not gone in. -/
theorem followAll_aside (balanced : Balanced closed)
    (constant : AngleSource.draw turtle.jitter = .ok sway turtle.jitter)
    (walked : followAll ('[' :: (closed ++ [']'])) index turtle = .ok () reached) :
    ∃ within : List (Pose C W), within.length = 2 * closed.count 'F' ∧
      reached = { turtle with points := turtle.points ++ within.toArray } := by
  rcases followAll_behind walked with ⟨within, points, many, -⟩
  rcases followAll_group balanced walked with ⟨pose, saved⟩
  have jitter := followAll_jitter constant walked
  have bracketed : ('[' :: (closed ++ [']'])).count 'F' = closed.count 'F' := by simp
  rw [bracketed] at many
  refine ⟨within, many, ?_⟩
  cases reached
  simp only at pose saved points jitter
  rw [pose, saved, points, jitter]

end Turtle

open Turtle

/-- With a constant source, the points of a word are those before a group, those of the group and
those behind it.  The first and the last are the same for all balanced groups, as is the turtle in
all else, and without the group they are all that is recorded. -/
theorem side_branches_do_not_matter {front back inner : List Char} (balanced : Balanced inner)
    (matched : Matched (front ++ '[' :: (inner ++ ']' :: back))) {jitter : J} {sway : W}
    (constant : AngleSource.draw jitter = .ok sway jitter) :
    ∃ (plain : Turtle C W J) (before after : List (Pose C W)),
      before.length = 2 * front.count 'F' ∧ after.length = 2 * back.count 'F' ∧
      interpret (front ++ back) jitter =
        .ok { plain with points := (before ++ after).toArray } jitter ∧
      ∀ other, Balanced other → ∃ within : List (Pose C W),
        within.length = 2 * other.count 'F' ∧
        interpret (front ++ '[' :: (other ++ ']' :: back)) jitter =
          .ok { plain with points := (before ++ within ++ after).toArray } jitter := by
  have bracketed : ∀ other : List Char, '[' :: (other ++ ']' :: back) =
      ('[' :: (other ++ [']'])) ++ back := fun other => by simp
  rw [bracketed, balanced.group.matched_between] at matched
  have always := AngleSource.supplies_of_constant constant
  have fresh : AngleSource.draw (start jitter : Turtle C W J).jitter =
    .ok sway (start jitter : Turtle C W J).jitter := constant
  rcases followAll_of_matched (C := C) matched (always _) with ⟨plain, walked⟩
  rcases followAll_append_ok walked with ⟨middle, first, last⟩
  rcases followAll_behind first with ⟨before, begun, many, -⟩
  rcases followAll_behind last with ⟨after, ended, more, again⟩
  have still : plain.jitter = jitter := followAll_jitter fresh walked
  have points : middle.points = before.toArray := by simpa [start] using begun
  refine ⟨plain, before, after, many, more, ?_, fun other balanced => ?_⟩
  · have recorded : plain.points = (before ++ after).toArray := by
      rw [ended, points, List.append_toArray]
    rw [← recorded]
    exact interpret_eq_ok_iff.mpr ⟨walked, still⟩
  · -- The word with the group has the same front, and its back is followed behind other points.
    rw [← balanced.group.matched_between, ← bracketed] at matched
    rcases followAll_of_matched (C := C) matched (always _) with ⟨reached, further⟩
    have parts := further
    rw [bracketed] at parts
    rcases followAll_append_ok parts with ⟨same, opening, parts⟩
    cases first.symm.trans opening
    rcases followAll_append_ok parts with ⟨shut, group, rest⟩
    have unmoved : middle.jitter = jitter := followAll_jitter fresh first
    rcases followAll_aside balanced (unmoved ▸ constant) group with ⟨within, inside, rfl⟩
    cases (again _ _).symm.trans rest
    have recorded : middle.points ++ within.toArray ++ after.toArray =
        (before ++ within ++ after).toArray := by
      rw [points, List.append_toArray, List.append_toArray]
    rw [recorded] at further
    exact ⟨within, inside, interpret_eq_ok_iff.mpr ⟨further, still⟩⟩

/-- A twig with one segment is put between the points of two segments, which stay as they are. -/
theorem twig_does_not_matter :
    ∃ jitter angle, Jitter.ofConstant (.int 5) = .ok jitter ∧
      AngleSource.draw jitter = .ok angle jitter ∧
      Balanced ['+', 'F'] ∧ Matched ['F', '[', '+', 'F', ']', 'F'] ∧
      ∃ bare branched : Turtle Float32 Float Jitter,
        interpret ['F', 'F'] jitter = .ok bare jitter ∧
        interpret ['F', '[', '+', 'F', ']', 'F'] jitter = .ok branched jitter ∧
        bare.points.size = 4 ∧ branched.points.size = 6 ∧ branched.pose = bare.pose ∧
        branched.points[0]? = bare.points[0]? ∧ branched.points[1]? = bare.points[1]? ∧
        branched.points[4]? = bare.points[2]? ∧ branched.points[5]? = bare.points[3]? := by
  have allowed : Jitter.ofConstant (.int 5) = .ok (.constant (.int 5)) := rfl
  rcases Jitter.draw_of_ofConstant allowed with ⟨angle, constant⟩
  have balanced : Balanced ['+', 'F'] := by decide
  have matched : Matched ['F', '[', '+', 'F', ']', 'F'] := by decide
  rcases @side_branches_do_not_matter Float32 Float Jitter _ _ _ ['F'] ['F'] ['+', 'F'] balanced
      matched _ _ constant with ⟨plain, before, after, two, more, bare, branched⟩
  rcases branched ['+', 'F'] balanced with ⟨within, inside, branched⟩
  rcases List.length_eq_two.mp two with ⟨first, second, rfl⟩
  rcases List.length_eq_two.mp more with ⟨third, fourth, rfl⟩
  rcases List.length_eq_two.mp inside with ⟨fifth, sixth, rfl⟩
  exact ⟨_, angle, allowed, constant, balanced, matched, _, _, bare, branched, rfl, rfl, rfl, rfl,
    rfl, rfl, rfl⟩

end Arbor
