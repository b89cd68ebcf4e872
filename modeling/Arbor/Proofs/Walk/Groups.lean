import Arbor.Proofs.Walk.Following

/-!
# Walking group by group

`visit` gives a word its meaning without saved poses: a group is walked from the pose at hand, and
what comes after the group from that same pose.  A turtle computes this meaning.  While it follows
the inside of a group, the poses that it had saved before are left alone, so that the closing
bracket finds the pose with which the group was begun (`followAll_visit`).
-/

namespace Arbor

open Brackets Number Space

variable {C W J : Type} [Wide W] [Component C W] [AngleSource J W]

/-- The pose with another angle about the first axis. -/
def Pose.withPitch (pose : Pose C W) (pitch : W) : Pose C W :=
  { pose with angle := { pose.angle with x := Component.store pitch } }

theorem Pose.turnUp_eq (pose : Pose C W) :
    pose.turnUp = pose.withPitch (Component.read pose.angle.x + turnAngle) := rfl

theorem Pose.turnDown_eq (pose : Pose C W) :
    pose.turnDown = pose.withPitch (Component.read pose.angle.x - turnAngle) := rfl

/-- The poses recorded on a word that is walked group by group from the given pose.  Every segment
takes one sway, in the order of the word. -/
def visit : List Char → Pose C W → Act J (List (Pose C W))
  | [], _ => pure []
  | 'F' :: word, pose => do
    let sway ← AngleSource.draw
    let next ← Act.lift (pose.advance sway)
    let later ← visit word next
    return pose :: next :: later
  | '+' :: word, pose =>
    visit word (pose.withPitch (Component.read pose.angle.x + Pose.turnAngle))
  | '-' :: word, pose =>
    visit word (pose.withPitch (Component.read pose.angle.x - Pose.turnAngle))
  | '[' :: word, pose => do
    let within ← visit (inside word) pose
    let later ← visit (beyond word) pose
    return within ++ later
  | _ :: word, pose => visit word pose
termination_by word => word.length
decreasing_by
  · exact Nat.lt_succ_self _
  · exact Nat.lt_succ_self _
  · exact Nat.lt_succ_self _
  · exact Nat.lt_succ_of_le (length_inside_le word)
  · exact Nat.lt_succ_of_le (length_beyond_le word)
  · exact Nat.lt_succ_self _

theorem visit_forward {word : List Char} {pose next : Pose C W} {jitter between left : J} {sway : W}
    {later : List (Pose C W)} (drawn : AngleSource.draw jitter = .ok sway between)
    (advanced : pose.advance sway = .ok next) (visits : visit word next between = .ok later left) :
    visit ('F' :: word) pose jitter = .ok (pose :: next :: later) left := by
  rw [visit, Act.bind_of_ok drawn, advanced, Act.bind_lift_ok, Act.bind_of_ok visits]
  rfl

theorem visit_group {word : List Char} {pose : Pose C W} {jitter between left : J}
    {within later : List (Pose C W)} (inner : visit (inside word) pose jitter = .ok within between)
    (outer : visit (beyond word) pose between = .ok later left) :
    visit ('[' :: word) pose jitter = .ok (within ++ later) left := by
  rw [visit, Act.bind_of_ok inner, Act.bind_of_ok outer]
  rfl

namespace Turtle

/-- What a turtle has done when it has followed a word from one state to another: it has recorded
what a walk group by group records, behind the poses that were recorded before, and for every group
that is still open it has saved one pose on top of those that were saved before. -/
structure Onward (word : List Char) (turtle reached : Turtle C W J) (poses : List (Pose C W)) :
    Prop where
  visits : visit word turtle.pose turtle.jitter = .ok poses reached.jitter
  points : reached.points.toList = turtle.points.toList ++ poses
  saved : ∃ opened, reached.saved = opened ++ turtle.saved ∧ (opened.length : Int) = level word

variable {word : List Char} {turtle between reached : Turtle C W J} {poses later : List (Pose C W)}

/-- A turn, or a symbol that is skipped, in front of a word. -/
theorem Onward.plain {symbol : Char} (notOpening : symbol ≠ '[') (notClosing : symbol ≠ ']')
    {pose : Pose C W} (same : visit (J := J) (symbol :: word) turtle.pose = visit word pose)
    (onward : Onward word { turtle with pose := pose } reached poses) :
    Onward (symbol :: word) turtle reached poses where
  visits := by
    rw [same]
    exact onward.visits
  points := onward.points
  saved := by
    rw [level_cons_plain notOpening notClosing]
    exact onward.saved

/-- A segment in front of a word. -/
theorem Onward.segment {sway : W} {left : J} {next : Pose C W}
    (drawn : AngleSource.draw turtle.jitter = .ok sway left)
    (advanced : turtle.pose.advance sway = .ok next)
    (onward : Onward word (reach next { turtle.record with jitter := left }) reached poses) :
    Onward ('F' :: word) turtle reached (turtle.pose :: next :: poses) where
  visits := visit_forward drawn advanced onward.visits
  points := by
    rw [onward.points]
    simp [reach, record]
  saved := by
    rw [level_cons_plain (by decide) (by decide)]
    exact onward.saved

/-- A group that is never ended. -/
theorem Onward.openGroup (matched : Matched word)
    (onward : Onward (inside word) turtle.save reached poses) :
    Onward ('[' :: word) turtle reached poses := by
  rcases parts_of_matched matched with ⟨whole, nothing⟩
  rcases onward.saved with ⟨opened, saved, size⟩
  constructor
  · have outer : visit (beyond word) turtle.pose reached.jitter = .ok [] reached.jitter := by
      rw [nothing, visit]
      rfl
    have visits : visit ('[' :: word) turtle.pose turtle.jitter =
        .ok (poses ++ []) reached.jitter := visit_group onward.visits outer
    rwa [List.append_nil] at visits
  · exact onward.points
  · refine ⟨opened ++ [turtle.pose], ?_, ?_⟩
    · rw [saved]
      simp [save]
    · rw [level_cons, level_opening, ← whole, ← size]
      simp
      omega

/-- A group that is ended, and what comes after it. -/
theorem Onward.group {closed rest : List Char} (balanced : Balanced closed)
    (first : Onward closed turtle.save between poses)
    (second : Onward rest { between with pose := turtle.pose, saved := turtle.saved } reached
      later) :
    Onward ('[' :: (closed ++ ']' :: rest)) turtle reached (poses ++ later) := by
  rcases parts_of_stray balanced rest with ⟨inner, outer⟩
  constructor
  · have within : visit (inside (closed ++ ']' :: rest)) turtle.pose turtle.jitter =
        .ok poses between.jitter := by
      rw [inner]
      exact first.visits
    refine visit_group within ?_
    rw [outer]
    exact second.visits
  · rw [second.points, first.points, List.append_assoc]
    rfl
  · have even : level ('[' :: (closed ++ ']' :: rest)) = level rest := by
      rw [level_cons, level_append, level_cons ']', balanced.level_eq, level_opening,
        level_closing]
      omega
    rw [even]
    exact second.saved

/-- The closing bracket of a group finds the pose with which the group was begun. -/
theorem Onward.restored {closed : List Char} (balanced : Balanced closed)
    (onward : Onward closed turtle.save between poses) (followed : Followed between ']' reached) :
    reached = { between with pose := turtle.pose, saved := turtle.saved } := by
  rcases onward.saved with ⟨opened, saved, size⟩
  rw [balanced.level_eq, Int.natCast_eq_zero, List.length_eq_zero_iff] at size
  rw [size] at saved
  cases followed with
  | @restored pose below rest above =>
    have stack : turtle.pose :: turtle.saved = pose :: below :: rest := saved.symm.trans above
    rcases List.cons.inj stack with ⟨top, others⟩
    rw [top, others]
  | skipped other => exact absurd rfl (other .restore)

/-- A turtle records what a walk group by group records, and leaves the poses that it had saved
before below those that it saves. -/
theorem followAll_onward (matched : Matched word) {index : Nat} (based : turtle.saved ≠ [])
    (walked : followAll word index turtle = .ok () reached) :
    ∃ poses, Onward word turtle reached poses := by
  generalize from_ : turtle.pose = pose
  induction word, pose using visit.induct generalizing index turtle reached with
  | case1 pose =>
    cases walked
    exact ⟨[], by rw [visit]; rfl, by simp, [], rfl, rfl⟩
  | case2 word pose inductionHypothesis =>
    rw [matched_cons_plain (by decide) (by decide)] at matched
    rcases followAll_cons_ok walked with ⟨middle, followed, walked⟩
    cases followed with
    | stepped drawn advanced =>
      rcases inductionHypothesis _ matched (by exact based) walked rfl with ⟨poses, onward⟩
      exact ⟨_, onward.segment drawn advanced⟩
    | skipped other => exact absurd rfl (other .forward)
  | case3 word pose inductionHypothesis =>
    rw [matched_cons_plain (by decide) (by decide)] at matched
    rcases followAll_cons_ok walked with ⟨middle, followed, walked⟩
    cases followed with
    | turnedUp =>
      subst from_
      rcases inductionHypothesis matched (by exact based) walked (Pose.turnUp_eq _) with
          ⟨poses, onward⟩
      exact ⟨poses, onward.plain (by decide) (by decide) (by rw [visit, Pose.turnUp_eq])⟩
    | skipped other => exact absurd rfl (other .turnUp)
  | case4 word pose inductionHypothesis =>
    rw [matched_cons_plain (by decide) (by decide)] at matched
    rcases followAll_cons_ok walked with ⟨middle, followed, walked⟩
    cases followed with
    | turnedDown =>
      subst from_
      rcases inductionHypothesis matched (by exact based) walked (Pose.turnDown_eq _) with
          ⟨poses, onward⟩
      exact ⟨poses, onward.plain (by decide) (by decide) (by rw [visit, Pose.turnDown_eq])⟩
    | skipped other => exact absurd rfl (other .turnDown)
  | case5 word pose insideHypothesis beyondHypothesis =>
    subst from_
    rcases followAll_cons_ok walked with ⟨middle, followed, walked⟩
    cases followed with
    | skipped other => exact absurd rfl (other .save)
    | saved =>
      rcases matched_or_stray word with all | ⟨closed, rest, rfl, balanced⟩
      · rw [(parts_of_matched all).1] at insideHypothesis
        rcases insideHypothesis all (List.cons_ne_nil _ _) walked rfl with ⟨poses, onward⟩
        rw [← (parts_of_matched all).1] at onward
        exact ⟨poses, onward.openGroup all⟩
      · rcases parts_of_stray balanced rest with ⟨inner, outer⟩
        rw [inner] at insideHypothesis
        rw [outer] at beyondHypothesis
        rcases followAll_append_ok walked with ⟨atEnd, first, walked⟩
        obtain ⟨poses, within⟩ :=
          insideHypothesis balanced.matched (List.cons_ne_nil _ _) first rfl
        rcases followAll_cons_ok walked with ⟨after, followed, walked⟩
        have back := within.restored balanced followed
        subst back
        have behind : Matched rest := by
          have whole : '[' :: (closed ++ ']' :: rest) = '[' :: (closed ++ [']']) ++ rest := by simp
          rwa [whole, balanced.group.matched_append] at matched
        rcases beyondHypothesis behind (by exact based) walked rfl with ⟨later, onward⟩
        exact ⟨_, within.group balanced onward⟩
  | case6 symbol word pose notForward notUp notDown notOpening inductionHypothesis =>
    have notClosing : symbol ≠ ']' := by
      rintro rfl
      exact (Balanced.not_matched ⟨matched_nil, rfl⟩ word) matched
    rw [matched_cons_plain notOpening notClosing] at matched
    rcases followAll_cons_ok walked with ⟨middle, followed, walked⟩
    cases followed with
    | skipped other =>
      rcases inductionHypothesis matched based walked from_ with ⟨poses, onward⟩
      exact ⟨poses, onward.plain notOpening notClosing (by rw [visit] <;> assumption)⟩
    | stepped => exact absurd rfl notForward
    | turnedUp => exact absurd rfl notUp
    | turnedDown => exact absurd rfl notDown
    | saved => exact absurd rfl notOpening
    | restored => exact absurd rfl notClosing

end Turtle

/-- A matched word is walked to its end, as long as there are enough sways, and what the turtle
records is what a walk group by group from the origin records, with the same sways taken. -/
theorem interpret_visits {word : List Char} (matched : Matched word) {jitter : J}
    (enough : AngleSource.Supplies (word.count 'F') jitter) :
    ∃ (turtle : Turtle C W J) (left : J), interpret word jitter = .ok turtle left ∧
      visit word (.origin : Pose C W) jitter = .ok turtle.points.toList left := by
  rcases interpret_of_matched (C := C) matched enough with ⟨turtle, left, walked⟩
  rcases interpret_eq_ok_iff.mp walked with ⟨followed, spent⟩
  rcases Turtle.followAll_onward matched (List.cons_ne_nil _ _) followed with ⟨poses, onward⟩
  have visits := onward.visits
  have points : turtle.points.toList = poses := onward.points
  rw [spent, ← points] at visits
  exact ⟨turtle, left, walked, visits⟩

/-- A word with a group that is ended and one that is not. -/
theorem forked_visits :
    Matched ['F', '[', '+', 'F', ']', 'F', '[', '-', 'F'] ∧
      AngleSource.Supplies 4 (Jitter.constant (.int 5)) ∧
      ∃ (turtle : Turtle Float32 Float Jitter) (left : Jitter),
        interpret ['F', '[', '+', 'F', ']', 'F', '[', '-', 'F'] (.constant (.int 5)) =
          .ok turtle left ∧
        visit ['F', '[', '+', 'F', ']', 'F', '[', '-', 'F'] (.origin : Pose Float32 Float)
          (Jitter.constant (.int 5)) = .ok turtle.points.toList left := by
  have matched : Matched ['F', '[', '+', 'F', ']', 'F', '[', '-', 'F'] := by decide
  have enough := Jitter.constant_supplies (rfl : Jitter.summand (.int 5) = _) 4
  exact ⟨matched, enough, interpret_visits matched enough⟩

end Arbor
