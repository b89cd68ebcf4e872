import Arbor.Proofs.Walk.Following
import Arbor.Proofs.Walk.Segments

/-!
# Where segments begin

Every segment begins where the one that precedes it in the tree has ended.  A turtle that follows a
word keeps up more than that: its pose, and each of the poses that it has saved, is the end of the
segment that it would come by last if it went back to the level at which the pose was saved, but for
turns (`Trailing`).  A step forward adds a segment to the trail of the present level, and a bracket
changes the level.
-/

namespace Arbor

open Brackets Number Space

variable {C W J : Type}

/-- A pose goes on from another one with nothing but turns about the first axis in between. -/
structure Pose.Continues (pose ended : Pose C W) : Prop where
  position : pose.position = ended.position
  sway : pose.angle.y = ended.angle.y
  length : pose.length = ended.length

theorem Pose.Continues.refl (pose : Pose C W) : pose.Continues pose := ⟨rfl, rfl, rfl⟩

variable [Wide W] [Component C W]

theorem Pose.Continues.turnUp {pose ended : Pose C W} (continues : pose.Continues ended) :
    pose.turnUp.Continues ended :=
  ⟨continues.position, continues.sway, continues.length⟩

theorem Pose.Continues.turnDown {pose ended : Pose C W} (continues : pose.Continues ended) :
    pose.turnDown.Continues ended :=
  ⟨continues.position, continues.sway, continues.length⟩

/-- The pose in which a segment has ended.  Before any segment, it is the pose in which walks
start. -/
def ending? (points : Array (Pose C W)) : Option Nat → Option (Pose C W)
  | none => some .origin
  | some segment => points[2 * segment + 1]?

omit [Wide W] [Component C W] in
theorem getElem?_push_of_getElem? {points : Array (Pose C W)} {index : Nat} {pose : Pose C W}
    (there : points[index]? = some pose) (next : Pose C W) :
    (points.push next)[index]? = some pose := by
  rcases Array.getElem?_eq_some_iff.mp there with ⟨inside, -⟩
  rw [Array.getElem?_push, if_neg (Nat.ne_of_lt inside)]
  exact there

namespace Turtle

/-- A pose goes on from the end of a segment. -/
def Joins (points : Array (Pose C W)) (segment : Option Nat) (pose : Pose C W) : Prop :=
  ∃ ended, ending? points segment = some ended ∧ pose.Continues ended

/-- A turtle that has followed a word has recorded two points for each segment; its pose and those
that it has saved go on from the trails of the levels from the present one down; and each segment
begins where the trail before it has led. -/
structure Trailing (done : List Char) (turtle : Turtle C W J) : Prop where
  size : turtle.points.size = 2 * done.count 'F'
  poses : ∀ (below : Nat) (pose : Pose C W), (turtle.pose :: turtle.saved)[below]? = some pose →
    Joins turtle.points (trail done (level done - below)) pose
  begins : ∀ start rest, done = start ++ 'F' :: rest →
    ∃ pose, turtle.points[2 * start.count 'F']? = some pose ∧
      Joins turtle.points (trail start (level start)) pose

variable {done word : List Char} {symbol : Char} {points : Array (Pose C W)} {segment : Option Nat}
  {pose : Pose C W} {before after turtle reached : Turtle C W J}

theorem Joins.push (joins : Joins points segment pose) (next : Pose C W) :
    Joins (points.push next) segment pose := by
  rcases joins with ⟨ended, reached, continues⟩
  refine ⟨ended, ?_, continues⟩
  cases segment with
  | none => exact reached
  | some segment => exact getElem?_push_of_getElem? reached next

theorem start_trailing (jitter : J) : Trailing [] (start jitter : Turtle C W J) where
  size := rfl
  poses below pose there := by
    refine ⟨.origin, rfl, ?_⟩
    have member : pose ∈ [(.origin : Pose C W), .origin] := List.mem_of_getElem? there
    have same : pose = .origin := by simpa using member
    exact same ▸ Pose.Continues.refl _
  begins start rest same := by simp at same

/-- A word that is one symbol longer has the segments that it had before, and one more if the symbol
is a step forward. -/
theorem cut_concat {start rest : List Char} (same : done ++ [symbol] = start ++ 'F' :: rest) :
    symbol = 'F' ∧ start = done ∨ ∃ earlier, done = start ++ 'F' :: earlier := by
  rcases List.eq_nil_or_concat rest with rfl | ⟨earlier, last, rfl⟩
  · rcases List.append_inj' same rfl with ⟨whole, symbols⟩
    exact Or.inl ⟨List.head_eq_of_cons_eq symbols, whole.symm⟩
  · have further : done ++ [symbol] = (start ++ 'F' :: earlier) ++ [last] := by
      rw [same]
      simp
    exact Or.inr ⟨earlier, (List.append_inj' further rfl).1⟩

/-- Without a step forward, only the poses have to be looked at. -/
theorem Trailing.concat {saved : List (Pose C W)} (trailing : Trailing done before)
    (other : symbol ≠ 'F')
    (poses : ∀ (below : Nat) (entry : Pose C W), (pose :: saved)[below]? = some entry →
      Joins before.points (trail (done ++ [symbol]) (level (done ++ [symbol]) - below)) entry) :
    Trailing (done ++ [symbol]) { before with pose := pose, saved := saved } where
  size := by
    have same : (done ++ [symbol]).count 'F' = done.count 'F' := by simp [other]
    rw [same]
    exact trailing.size
  poses := poses
  begins start rest same := by
    rcases cut_concat same with ⟨forward, -⟩ | ⟨earlier, cut⟩
    · exact absurd forward other
    · exact trailing.begins start earlier cut

/-- Turns, and symbols that are skipped, leave all levels alone. -/
theorem Trailing.plain (trailing : Trailing done before) (notForward : symbol ≠ 'F')
    (notOpening : symbol ≠ '[') (notClosing : symbol ≠ ']')
    (turned : ∀ ended, before.pose.Continues ended → pose.Continues ended) :
    Trailing (done ++ [symbol]) { before with pose := pose } := by
  have even : level (done ++ [symbol]) = level done := by
    rw [level_append, level_plain notOpening notClosing, Int.add_zero]
  refine trailing.concat notForward fun below entry there => ?_
  rw [even, trail_concat notForward (by omega)]
  cases below with
  | zero =>
    rcases trailing.poses 0 before.pose rfl with ⟨ended, reached, continues⟩
    have same : pose = entry := Option.some.inj there
    exact ⟨ended, reached, same ▸ turned ended continues⟩
  | succ below => exact trailing.poses (below + 1) entry there

/-- The pose that is saved is one for the level of the group, and one for the level around it. -/
theorem Trailing.saved (trailing : Trailing done before) :
    Trailing (done ++ ['[']) before.save := by
  have up : level (done ++ ['[']) = level done + 1 := by rw [level_append, level_opening]
  refine trailing.concat (by decide) fun below entry there => ?_
  rw [trail_concat (by decide) (by omega), up]
  cases below with
  | zero =>
    have joins := trailing.poses 0 entry there
    rw [trail_of_level_le (by omega)] at joins ⊢
    exact joins
  | succ below =>
    have same : level done + 1 - ((below + 1 : Nat) : Int) = level done - below := by omega
    rw [same]
    exact trailing.poses below entry there

theorem Trailing.restored {below : Pose C W} {rest : List (Pose C W)}
    (trailing : Trailing done before) (above : before.saved = pose :: below :: rest) :
    Trailing (done ++ [']']) { before with pose := pose, saved := below :: rest } := by
  have down : level (done ++ [']']) = level done - 1 := by rw [level_append, level_closing]; rfl
  refine trailing.concat (by decide) fun index entry there => ?_
  have same : level done - 1 - (index : Int) = level done - ((index + 1 : Nat) : Int) := by omega
  rw [trail_concat (by decide) (by omega), down, same]
  refine trailing.poses (index + 1) entry ?_
  rw [above]
  exact there

/-- The segment of a step forward begins with the pose before it and is what the pose after it goes
on from. -/
theorem Trailing.stepped (trailing : Trailing done before) (pose : Pose C W) (left : J) :
    Trailing (done ++ ['F']) (reach pose { before.record with jitter := left }) where
  size := by
    have more : (done ++ ['F']).count 'F' = done.count 'F' + 1 := by simp
    have known := trailing.size
    simp only [reach, record, Array.size_push, more]
    omega
  poses index entry there := by
    change Joins ((before.points.push before.pose).push pose) _ _
    rw [trail_concat_forward, level_concat_forward]
    cases index with
    | zero =>
      have same : pose = entry := Option.some.inj there
      subst same
      have place : 2 * done.count 'F' + 1 = (before.points.push before.pose).size := by
        rw [Array.size_push, trailing.size]
      rw [if_pos (by omega)]
      refine ⟨pose, ?_, .refl pose⟩
      change ((before.points.push before.pose).push pose)[2 * done.count 'F' + 1]? = some pose
      rw [place]
      exact Array.getElem?_push_size
    | succ index =>
      rw [if_neg (by omega)]
      exact ((trailing.poses (index + 1) entry there).push before.pose).push pose
  begins start rest same := by
    change ∃ begun, ((before.points.push before.pose).push pose)[2 * start.count 'F']? =
      some begun ∧ Joins ((before.points.push before.pose).push pose) _ begun
    rcases cut_concat same with ⟨-, rfl⟩ | ⟨earlier, cut⟩
    · have here : (before.points.push before.pose)[2 * start.count 'F']? = some before.pose := by
        rw [← trailing.size]
        exact Array.getElem?_push_size
      have joins := trailing.poses 0 before.pose rfl
      rw [Int.natCast_zero, Int.sub_zero] at joins
      exact ⟨before.pose, getElem?_push_of_getElem? here pose, (joins.push before.pose).push pose⟩
    · rcases trailing.begins start earlier cut with ⟨begun, there, joins⟩
      exact ⟨begun, getElem?_push_of_getElem? (getElem?_push_of_getElem? there before.pose) pose,
        (joins.push before.pose).push pose⟩

variable [AngleSource J W]

theorem trailing_of_followed (trailing : Trailing done before)
    (followed : Followed before symbol after) : Trailing (done ++ [symbol]) after := by
  cases followed with
  | stepped => exact trailing.stepped _ _
  | turnedUp => exact trailing.plain (by decide) (by decide) (by decide) fun _ => .turnUp
  | turnedDown => exact trailing.plain (by decide) (by decide) (by decide) fun _ => .turnDown
  | saved => exact trailing.saved
  | restored above => exact trailing.restored above
  | skipped other =>
    exact trailing.plain (other .forward) (other .save) (other .restore) fun _ same => same

theorem followAll_trailing {jitter : J}
    (walked : followAll word 0 (start jitter) = .ok () reached) : Trailing word reached :=
  followAll_induction (start_trailing jitter) trailing_of_followed walked

end Turtle
end Arbor
