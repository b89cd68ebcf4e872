import Arbor.Proofs.Space.Turning
import Arbor.Proofs.Walk.Descent
import Arbor.Proofs.Walk.Joining

/-!
# Branches lie along their objects

Two conventions meet in a branch.  The turtle finds the end of a segment by rotating an upright arm
about the place where it stands, and a scene rotates the object of a branch, which is made upright,
by the angles of the branch.  Over the real numbers both give the same direction
(`Pose.strides_of_advance`), because no pose of a walk has an angle about the third axis.

A branch has the heading of its second point.  So its object lies on it if that is the heading with
which its segment was drawn: if the walk has no other segment, or if the next segment goes on from
the end of this one without a turn on the way.
-/

namespace Arbor

open Brackets Number Space
open Real (cos sin)

namespace Brackets

variable {front between rest : List Char}

theorem last?_lt {bound number : Nat} {property : Nat → Prop} [DecidablePred property]
    (found : last? bound property = some number) : number < bound := by
  have member := List.mem_of_find?_eq_some found
  rwa [List.mem_reverse, List.mem_range] at member

/-- If the next segment goes on from a segment, no group is ended between them that was begun before
both. -/
theorem matched_of_predecessor? (matched : Matched (front ++ 'F' :: between))
    (apart : 'F' ∉ between)
    (goesOn : predecessor? (front ++ 'F' :: (between ++ 'F' :: rest)) (front.count 'F' + 1) =
      some (front.count 'F')) : Matched between := by
  have counted : (front ++ 'F' :: between).count 'F' = front.count 'F' + 1 := by
    simp [List.count_eq_zero.mpr apart]
  have whole : front ++ 'F' :: (between ++ 'F' :: rest) =
      front ++ 'F' :: between ++ 'F' :: rest := by simp
  rw [whole, ← counted, predecessor?_eq_trail matched, trail, counted, last?_succ] at goesOn
  split at goesOn
  · next isOpen =>
    rw [segmentPlace_count] at isOpen
    have parts : front ++ 'F' :: between = (front ++ ['F']) ++ between := by simp
    rw [matched_iff]
    intro start beginning
    have since := isOpen.since ((front ++ ['F']).length + start.length) (by
      have short := beginning.length_le
      simp
      omega) (by simp; omega)
    rw [levelAt_append _ (Nat.le_refl _), levelAt_length, parts, levelAt_append_right,
      level_concat_forward, levelAt, ← List.prefix_iff_eq_take.mp beginning] at since
    omega
  · exact absurd (last?_lt goesOn) (Nat.lt_irrefl _)

end Brackets

namespace Pose

/-- A pose in space without an angle about the third axis. -/
structure Upright (pose : Pose ℝ ℝ) : Prop where
  position : pose.position.Spatial
  angle : pose.angle.rest = [0]

/-- A step covers the length that was due, in the direction of the next heading. -/
structure Strides (pose : Pose ℝ ℝ) (sway : ℝ) (next : Pose ℝ ℝ) : Prop where
  heading : next.angle = .spatial pose.angle.x (pose.angle.y + sway) 0
  covered : next.position.sub pose.position = .ok ((pointing next.angle).scaled pose.length)
  length : ((pointing next.angle).scaled pose.length).length = |pose.length|

variable {pose next : Pose ℝ ℝ} {sway : ℝ}

/-- A segment is laid off from its beginning in the direction of its heading. -/
theorem segmentEnd_eq {start : Vec ℝ} (spatial : start.Spatial) (heading : Vec ℝ) (length : ℝ) :
    ∃ stop, segmentEnd start heading length = .ok stop ∧
      stop.sub start = .ok ((pointing heading).scaled length) := by
  rcases start with ⟨px, py, rest⟩
  rcases List.length_eq_one_iff.mp spatial with ⟨pz, rfl⟩
  let pitch : ℝ := Wide.radians heading.x
  let yaw : ℝ := Wide.radians heading.y
  have pitched := Rotation.pivot_eq px py pz (Rotation.apply_about_x pitch length)
  have yawed := Rotation.pivot_eq px py pz
    (Rotation.apply_about_y yaw (cos pitch * length) (sin pitch * length))
  refine ⟨.spatial (px + sin yaw * (sin pitch * length)) (py + cos pitch * length)
    (pz + cos yaw * (sin pitch * length)), ?_, ?_⟩
  · change ((Rotation.about .x pitch).pivot (.spatial (px + 0) (py + length) (pz + 0))
      (.spatial px py pz) >>= fun pitched =>
        (Rotation.about .y yaw).pivot pitched (.spatial px py pz)) = _
    rw [pitched]
    exact yawed
  · change Except.ok (Vec.spatial (px + sin yaw * (sin pitch * length) - px)
      (py + cos pitch * length - py) (pz + cos yaw * (sin pitch * length) - pz)) =
      .ok (.spatial (length * (sin pitch * sin yaw)) (length * cos pitch)
        (length * (sin pitch * cos yaw)))
    congr 2 <;> ring

theorem Upright.spatial (upright : pose.Upright) : pose.Spatial :=
  ⟨upright.position, by rw [Vec.Spatial, upright.angle]; rfl⟩

theorem Upright.turnUp (upright : pose.Upright) : pose.turnUp.Upright :=
  ⟨upright.position, upright.angle⟩

theorem Upright.turnDown (upright : pose.Upright) : pose.turnDown.Upright :=
  ⟨upright.position, upright.angle⟩

theorem Upright.advance (upright : pose.Upright) (advanced : pose.advance sway = .ok next) :
    next.Upright := by
  rcases advance_spatial upright.spatial sway with ⟨other, found, spatial⟩
  rw [advanced] at found
  cases found
  refine ⟨spatial.position, ?_⟩
  rw [(angle_length_of_advance advanced).1]
  exact upright.angle

theorem strides_of_advance (upright : pose.Upright) (advanced : pose.advance sway = .ok next) :
    pose.Strides sway next := by
  rcases segmentEnd_eq upright.position (swayed pose.angle sway) pose.length with
      ⟨stop, reached, covered⟩
  unfold Pose.advance at advanced
  dsimp only at advanced
  rw [reached] at advanced
  cases advanced
  constructor
  · change swayed pose.angle sway = _
    rw [swayed, upright.angle]
    rfl
  · exact covered
  · exact length_scaled pose.length _

theorem nextLength_pos (length : ℝ) : 0 < nextLength length := by
  unfold nextLength
  split
  · change (0 : ℝ) < (1 : ℕ) / 10 ^ 3
    norm_num
  · next positive =>
    have above : ¬ length - decay ≤ 0 := fun below => positive (decide_eq_true below)
    exact lt_of_not_ge above

/-- Without rounding, every pose of a walk is upright and has a length. -/
theorem upright_lasting : Lasting fun pose : Pose ℝ ℝ => pose.Upright ∧ 0 < pose.length where
  origin := ⟨⟨rfl, rfl⟩, by change (0 : ℝ) < Wide.decimal 1 0; rw [decimal_one]; exact one_pos⟩
  turnUp holds := ⟨holds.1.turnUp, holds.2⟩
  turnDown holds := ⟨holds.1.turnDown, holds.2⟩
  advance holds advanced := by
    refine ⟨holds.1.advance advanced, ?_⟩
    rw [(angle_length_of_advance advanced).2]
    exact nextLength_pos _

end Pose

namespace Branch

variable {branch : Branch ℝ ℝ} {first second : Pose ℝ ℝ} {radiusFactor sway : ℝ}

/-- The branch has the given length, and its angles turn the second axis into the direction from its
start to its tip. -/
structure LiesAlong (branch : Branch ℝ ℝ) (drawn : ℝ) : Prop where
  length : branch.length = drawn
  axis : ∃ turns axis, branch.turns = .ok turns ∧ turns.turn (.spatial 0 1 0) = .ok axis ∧
    branch.tip.sub branch.start = .ok (axis.scaled drawn)

/-- The angles of a branch turn the second axis into the direction of its heading. -/
theorem turns_up {x y : ℝ} (rotation : branch.rotation = .spatial x y 0) :
    ∃ turns, branch.turns = .ok turns ∧
      turns.turn (.spatial 0 1 0) = .ok (pointing branch.rotation) := by
  have none : (Wide.radians (0 : ℝ) : ℝ) = 0 := zero_mul _
  refine ⟨⟨Wide.radians x, Wide.radians y, 0, .zxy⟩, ?_, ?_⟩
  · unfold turns
    rw [rotation]
    change Turns.ofList .zxy [Wide.radians x, Wide.radians y, Wide.radians (0 : ℝ)] = _
    rw [none]
    rfl
  · rw [Turns.turn_up, rotation]
    rfl

theorem Spans.liesAlong (spans : branch.Spans radiusFactor first second)
    (strides : first.Strides sway second) (long : 0 < first.length) :
    branch.LiesAlong first.length := by
  rcases spans.length with ⟨along, covered, length⟩
  rw [strides.covered] at covered
  cases covered
  have heading := spans.rotation.trans strides.heading
  rcases turns_up heading with ⟨turns, turned, axis⟩
  refine ⟨?_, turns, _, turned, axis, ?_⟩
  · rw [length, strides.length, abs_of_pos long]
  · rw [spans.start, spans.tip, spans.rotation, strides.covered]

end Branch

namespace Turtle

variable {J : Type} [AngleSource J ℝ] {word front between rest : List Char} {index : Nat}
  {jitter : J} {turtle reached : Turtle ℝ ℝ J}

/-- At the end of a path without segments and turns, the pose is what it was. -/
theorem followAll_straight (matched : Matched between)
    (straight : ∀ symbol ∈ openPath between, symbol ≠ 'F' ∧ symbol ≠ '+' ∧ symbol ≠ '-')
    (walked : followAll between index turtle = .ok () reached) : reached.pose = turtle.pose := by
  refine followAll_matched (motive := fun word pose =>
    (∀ symbol ∈ openPath word, symbol ≠ 'F' ∧ symbol ≠ '+' ∧ symbol ≠ '-') →
      pose = turtle.pose) (fun _ => rfl) ?_ ?_ ?_ matched walked straight
  · intro word symbol before after notOpening notClosing matched _ known followed straight
    rw [openPath_append_plain matched notOpening notClosing] at straight
    rcases straight symbol (by simp) with ⟨notForward, notUp, notDown⟩
    rw [← known fun symbol member => straight symbol (List.mem_append_left _ member)]
    have moved := followed.moved notOpening notClosing
    generalize after.pose = next at moved ⊢
    cases moved with
    | advanced => exact absurd rfl notForward
    | turnedUp => exact absurd rfl notUp
    | turnedDown => exact absurd rfl notDown
    | unmoved => rfl
  · intro word pose matched known straight
    rw [openPath_append_opening matched] at straight
    exact known straight
  · intro word closed pose balanced matched known straight
    rw [openPath_append_group balanced matched] at straight
    exact known straight

theorem followAll_upright (walked : followAll word 0 (start jitter) = .ok () turtle) :
    turtle.Only fun pose => pose.Upright ∧ 0 < pose.length := by
  have kept := followAll_keeps_only Pose.upright_lasting word 0 _
    (start_only Pose.upright_lasting jitter)
  rwa [Act.reached_of_ok walked] at kept

/-- Every segment of a walk is a stride from the pose before its symbol to the one after it. -/
theorem segment_strides
    (walked : followAll (front ++ 'F' :: rest) 0 (start jitter) = .ok () turtle) :
    ∃ begun sway after, turtle.points[2 * front.count 'F']? = some begun ∧
      turtle.points[2 * front.count 'F' + 1]? = some after.pose ∧ 0 < begun.length ∧
      begun.Strides sway after.pose ∧
      followAll (front ++ ['F']) 0 (start jitter) = .ok () after := by
  rcases points_of_segment walked with ⟨before, after, first, followed, second, here, there⟩
  have upright := (followAll_upright first).pose
  cases followed with
  | skipped other => exact absurd rfl (other .forward)
  | stepped drawn advanced =>
    exact ⟨before.pose, _, _, here, there, upright.2,
      Pose.strides_of_advance upright.1 advanced, second⟩

/-- From an upright pose, a step forward is a stride as soon as its sway is drawn. -/
theorem forward_strides {sway : ℝ} {left : J} (upright : turtle.pose.Upright)
    (drawn : AngleSource.draw turtle.jitter = .ok sway left) :
    ∃ next, forward turtle = .ok () next ∧ next.jitter = left ∧ next.pose.Upright ∧
      turtle.pose.Strides sway next.pose := by
  rcases Pose.advance_spatial upright.spatial sway with ⟨pose, advanced, -⟩
  refine ⟨reach pose { turtle.record with jitter := left }, ?_, rfl, upright.advance advanced,
    Pose.strides_of_advance upright advanced⟩
  simp only [forward, drawn, advanced]

end Turtle

open Turtle

variable {J : Type} [AngleSource J ℝ] {word front between rest : List Char} {jitter left : J}
  {turtle : Turtle ℝ ℝ J} {radiusFactor : ℝ} {branches : List (Branch ℝ ℝ)}

/-- The branch of a walk with one segment lies along its object. -/
theorem single_lies_along (walked : interpret word jitter = .ok turtle left)
    (single : word.count 'F' = 1)
    (built : Branch.ofPoints turtle.points radiusFactor = .ok branches)
    (many : branches.length = (Branch.pairs turtle.points.size).length) :
    ∃ branch begun, branches = [branch] ∧ turtle.points[0]? = some begun ∧
      branch.LiesAlong begun.length := by
  rcases interpret_eq_ok_iff.mp walked with ⟨followed, -⟩
  have size := (followAll_trailing followed).size
  rw [single] at size
  rw [size] at many
  rcases List.length_eq_one_iff.mp many with ⟨branch, rfl⟩
  have counted : 0 < word.count 'F' := by omega
  rcases cut_at_segment counted with ⟨front, rest, rfl, none⟩
  rcases segment_strides followed with ⟨begun, sway, after, here, there, long, strides, -⟩
  rw [none] at here there
  have paired : (Branch.pairs turtle.points.size)[0]? = some (0, 1) := by
    rw [size]
    rfl
  rcases Branch.ofPoints_getElem? built paired with
      ⟨only, first, second, found, atStart, atTip, joined⟩
  cases found
  cases here.symm.trans atStart
  cases there.symm.trans atTip
  exact ⟨branch, begun, rfl, here, (Branch.spans_of_between joined).liesAlong strides long⟩

/-- The branch of a segment lies along its object if the next segment goes on from it straight. -/
theorem straight_lies_along
    (walked : interpret (front ++ 'F' :: (between ++ 'F' :: rest)) jitter = .ok turtle left)
    (built : Branch.ofPoints turtle.points radiusFactor = .ok branches) (apart : 'F' ∉ between)
    (goesOn : predecessor? (front ++ 'F' :: (between ++ 'F' :: rest)) (front.count 'F' + 1) =
      some (front.count 'F'))
    (notUp : '+' ∉ openPath between) (notDown : '-' ∉ openPath between) :
    ∃ branch begun, branches[front.count 'F']? = some branch ∧
      turtle.points[2 * front.count 'F']? = some begun ∧ branch.LiesAlong begun.length := by
  rcases interpret_eq_ok_iff.mp walked with ⟨followed, -⟩
  have size := (followAll_trailing followed).size
  have whole : front ++ 'F' :: (between ++ 'F' :: rest) =
      front ++ 'F' :: between ++ 'F' :: rest := by simp
  have counted : (front ++ 'F' :: between).count 'F' = front.count 'F' + 1 := by
    simp [List.count_eq_zero.mpr apart]
  rcases segment_strides followed with ⟨begun, sway, after, here, -, long, strides, drawn⟩
  rw [whole] at followed
  rcases points_of_segment followed with ⟨before, -, reached, -, -, there, -⟩
  rw [counted] at there
  -- The pose with which the next segment is begun is that with which this one has ended.
  have straight : before.pose = after.pose := by
    have parts : front ++ 'F' :: between = (front ++ ['F']) ++ between := by simp
    have matched := (followAll_saved_length reached).2
    rw [parts] at reached
    rcases followAll_append_ok reached with ⟨same, first, onward⟩
    cases drawn.symm.trans first
    refine followAll_straight (matched_of_predecessor? matched apart goesOn) ?_ onward
    intro symbol member
    exact ⟨fun forward => apart (mem_of_mem_openPath (forward ▸ member)),
      fun up => notUp (up ▸ member), fun down => notDown (down ▸ member)⟩
  have several : front.count 'F' + 2 ≤ (front ++ 'F' :: (between ++ 'F' :: rest)).count 'F' := by
    rw [whole, List.count_append, counted, List.count_cons_self]
    omega
  have paired : (Branch.pairs turtle.points.size)[front.count 'F']? =
      some (2 * front.count 'F', 2 * (front.count 'F' + 1)) := by
    rw [size, Branch.pairs_of_segments (by omega), List.getElem?_map,
      List.getElem?_range (by omega)]
    rfl
  rcases Branch.ofPoints_getElem? built paired with
      ⟨branch, first, second, found, atStart, atTip, joined⟩
  cases here.symm.trans atStart
  cases there.symm.trans atTip
  rw [straight] at joined
  exact ⟨branch, begun, found, here, (Branch.spans_of_between joined).liesAlong strides long⟩

/-- Without rounding, a step forward from any upright pose covers the length of the pose, in the
direction into which a branch with the new heading turns the second axis.  All poses of every walk
are upright, whether the walk fails or not.  So the branch of a segment lies along its object, with
the length that the segment was drawn with, if the segment is the only one or if the next one goes
on from it straight. -/
theorem steps_align_with_branches :
    (∀ (turtle : Turtle ℝ ℝ J) (sway : ℝ) (left : J), turtle.pose.Upright →
      AngleSource.draw turtle.jitter = .ok sway left →
        ∃ next, forward turtle = .ok () next ∧ next.jitter = left ∧ next.pose.Upright ∧
          turtle.pose.Strides sway next.pose ∧
          (0 ≤ turtle.pose.length → ∃ moved, next.pose.position.sub turtle.pose.position = .ok moved ∧
            moved.length = turtle.pose.length) ∧
          ∀ branch : Branch ℝ ℝ, branch.rotation = next.pose.angle →
            ∃ turns, branch.turns = .ok turns ∧
              turns.turn (.spatial 0 1 0) = .ok (pointing next.pose.angle)) ∧
    (∀ (word : List Char) (jitter : J),
      ((followAll word 0).reached (start jitter : Turtle ℝ ℝ J)).Only
        fun pose => pose.Upright ∧ 0 < pose.length) ∧
    ∀ (word : List Char) (jitter left : J) (turtle : Turtle ℝ ℝ J) (radiusFactor : ℝ),
      interpret word jitter = .ok turtle left →
        ∃ branches, Branch.ofPoints turtle.points radiusFactor = .ok branches ∧
          (word.count 'F' = 1 → ∃ branch begun, branches = [branch] ∧
            turtle.points[0]? = some begun ∧ branch.LiesAlong begun.length) ∧
          ∀ front between rest, word = front ++ 'F' :: (between ++ 'F' :: rest) →
            'F' ∉ between → '+' ∉ openPath between → '-' ∉ openPath between →
            predecessor? word (front.count 'F' + 1) = some (front.count 'F') →
              ∃ branch begun, branches[front.count 'F']? = some branch ∧
                turtle.points[2 * front.count 'F']? = some begun ∧
                branch.LiesAlong begun.length := by
  refine ⟨?_, ?_, ?_⟩
  · intro turtle sway left upright drawn
    rcases forward_strides upright drawn with ⟨next, stepped, spent, onward, strides⟩
    refine ⟨next, stepped, spent, onward, strides, fun long => ?_, fun branch same => ?_⟩
    · exact ⟨_, strides.covered, strides.length.trans (abs_of_nonneg long)⟩
    · rcases Branch.turns_up (same.trans strides.heading) with ⟨turns, turned, axis⟩
      exact ⟨turns, turned, same ▸ axis⟩
  · intro word jitter
    exact followAll_keeps_only Pose.upright_lasting word 0 _
      (start_only Pose.upright_lasting jitter)
  · intro word jitter left turtle radiusFactor walked
    rcases Branch.ofPoints_spatial (interpret_spatial walked).points radiusFactor with
        ⟨branches, built, many, -⟩
    refine ⟨branches, built, fun single => single_lies_along walked single built many, ?_⟩
    rintro front between rest rfl apart notUp notDown goesOn
    exact straight_lies_along walked built apart goesOn notUp notDown

/-- An angle is a source that gives this angle for ever. -/
instance : AngleSource ℝ ℝ where
  draw := fun sway => .ok sway sway

/-- The first of two segments after a turn, both swayed by the same angle. -/
theorem turned_pair_aligns :
    ∃ (turtle : Turtle ℝ ℝ ℝ) (left : ℝ) (branches : List (Branch ℝ ℝ)) (branch : Branch ℝ ℝ),
      interpret ['+', 'F', 'F'] (30 : ℝ) = .ok turtle left ∧
        Branch.ofPoints turtle.points (1 / 10) = .ok branches ∧
        branches[0]? = some branch ∧ branch.LiesAlong 1 := by
  have enough : AngleSource.Supplies (['+', 'F', 'F'].count 'F') (30 : ℝ) :=
    ⟨30, 30, rfl, 30, 30, rfl, trivial⟩
  rcases interpret_of_matched (C := ℝ) (by decide) enough with ⟨turtle, left, walked⟩
  rcases steps_align_with_branches.2.2 _ _ _ _ (1 / 10) walked with ⟨branches, built, -, aligns⟩
  rcases aligns ['+'] [] [] rfl (by decide) (by decide) (by decide) (by decide) with
      ⟨branch, begun, found, here, along⟩
  have counted : 0 < ['+', 'F', 'F'].count 'F' := by decide
  rcases segment_begins walked counted with
      ⟨first, ended, atStart, reached, continues⟩
  cases here.symm.trans atStart
  cases reached
  have length : begun.length = 1 := continues.length.trans decimal_one
  rw [length] at along
  exact ⟨turtle, left, branches, branch, walked, built, found, along⟩

end Arbor
