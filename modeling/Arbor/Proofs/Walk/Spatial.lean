import Arbor.Branch
import Arbor.Proofs.Act
import Arbor.Turtle

/-!
# Walks stay in space

Vectors can have any number of components, and sums, rotations and angles are refused if there are
not three of them.  A walk starts in space and never leaves it: every pose it holds, saves or
records has a place and a heading of three components.  So a step of a walk fails only if no sway
can be drawn, branches can be built among the points of every walk, and the heading of every such
branch can be turned into angles.
-/

namespace Arbor

open Number Space

variable {C W J : Type}

namespace Space

/-- A vector of three components. -/
def Vec.Spatial (v : Vec C) : Prop := v.rest.length = 1

theorem Vec.spatial_spatial (x y z : C) : (Vec.spatial x y z).Spatial := rfl

theorem Vec.combine_spatial (operation : VectorOperation) (f : C → C → C) {v w : Vec C}
    (left : v.Spatial) (right : w.Spatial) :
    ∃ sum, v.combine operation f w = .ok sum ∧ sum.Spatial := by
  have same : v.rest.length = w.rest.length := left.trans right.symm
  refine ⟨_, if_pos same, ?_⟩
  unfold Spatial
  rw [List.length_zipWith, left, right]
  rfl

variable [Wide W] [Component C W]

theorem Rotation.apply_spatial (rotation : Rotation C) {v : Vec C} (spatial : v.Spatial) :
    ∃ turned, rotation.apply v = .ok turned ∧ turned.Spatial := by
  rcases List.length_eq_one_iff.mp spatial with ⟨z, rest⟩
  unfold Rotation.apply
  rw [rest]
  exact ⟨_, rfl, Vec.spatial_spatial _ _ _⟩

theorem Rotation.pivot_spatial (rotation : Rotation C) {point origin : Vec C}
    (pointSpatial : point.Spatial) (originSpatial : origin.Spatial) :
    ∃ turned, rotation.pivot point origin = .ok turned ∧ turned.Spatial := by
  rcases Vec.combine_spatial .subtraction (· - ·) pointSpatial originSpatial with
      ⟨arm, difference, armSpatial⟩
  rcases rotation.apply_spatial armSpatial with ⟨turned, application, turnedSpatial⟩
  rcases Vec.combine_spatial .addition (· + ·) turnedSpatial originSpatial with
      ⟨sum, addition, sumSpatial⟩
  refine ⟨sum, ?_, sumSpatial⟩
  unfold Rotation.pivot Vec.sub Vec.add
  rw [difference]
  change (rotation.apply arm >>= fun turned => turned.combine .addition (· + ·) origin) = _
  rw [application]
  exact addition

end Space

/-! ## Poses -/

namespace Pose

/-- A pose with a place and a heading in space. -/
structure Spatial (pose : Pose C W) : Prop where
  position : pose.position.Spatial
  angle : pose.angle.Spatial

variable [Wide W] [Component C W]

theorem origin_spatial : (origin : Pose C W).Spatial := ⟨rfl, rfl⟩

theorem turnUp_spatial {pose : Pose C W} (spatial : pose.Spatial) : pose.turnUp.Spatial :=
  ⟨spatial.position, spatial.angle⟩

theorem turnDown_spatial {pose : Pose C W} (spatial : pose.Spatial) : pose.turnDown.Spatial :=
  ⟨spatial.position, spatial.angle⟩

theorem segmentEnd_spatial {start : Vec C} (spatial : start.Spatial) (heading : Vec C)
    (length : W) : ∃ stop, segmentEnd start heading length = .ok stop ∧ stop.Spatial := by
  obtain ⟨upright, addition, uprightSpatial⟩ := Vec.combine_spatial .addition (· + ·) spatial
    (Vec.spatial_spatial (Component.store 0) (Component.store length) (Component.store (0 : W) : C))
  rcases (Rotation.about .x
      (Wide.radians (Component.read heading.x))).pivot_spatial uprightSpatial spatial with
      ⟨pitched, pitching, pitchedSpatial⟩
  rcases (Rotation.about .y
      (Wide.radians (Component.read heading.y))).pivot_spatial pitchedSpatial spatial with
      ⟨stop, yawing, stopSpatial⟩
  refine ⟨stop, ?_, stopSpatial⟩
  unfold segmentEnd Vec.add
  rw [addition]
  change ((Rotation.about .x (Wide.radians (Component.read heading.x))).pivot upright start >>=
    fun pitched => (Rotation.about .y (Wide.radians (Component.read heading.y))).pivot pitched
      start) = _
  rw [pitching]
  exact yawing

/-- A step in space can always be done, once it has its sway. -/
theorem advance_spatial {pose : Pose C W} (spatial : pose.Spatial) (sway : W) :
    ∃ next, pose.advance sway = .ok next ∧ next.Spatial := by
  rcases segmentEnd_spatial spatial.position (swayed pose.angle sway) pose.length with
      ⟨stop, reaching, stopSpatial⟩
  refine ⟨⟨stop, swayed pose.angle sway, nextLength pose.length⟩, ?_,
    ⟨stopSpatial, spatial.angle⟩⟩
  unfold advance
  dsimp only
  rw [reaching]
  rfl

/-- A kind of poses that a walk starts with and that neither turns nor steps leave. -/
structure Lasting (kind : Pose C W → Prop) : Prop where
  origin : kind .origin
  turnUp : ∀ {pose : Pose C W}, kind pose → kind pose.turnUp
  turnDown : ∀ {pose : Pose C W}, kind pose → kind pose.turnDown
  advance : ∀ {pose next : Pose C W} {sway : W}, kind pose → pose.advance sway = .ok next →
    kind next

theorem spatial_lasting : Lasting (Spatial (C := C) (W := W)) where
  origin := origin_spatial
  turnUp := turnUp_spatial
  turnDown := turnDown_spatial
  advance := by
    intro pose next sway spatial advanced
    rcases advance_spatial spatial sway with ⟨other, found, otherSpatial⟩
    rw [advanced] at found
    cases found
    exact otherSpatial

end Pose

/-! ## Walks -/

namespace Turtle

/-- The pose of a turtle, those that it has saved and those that it has recorded are all of one
kind. -/
structure Only (kind : Pose C W → Prop) (turtle : Turtle C W J) : Prop where
  pose : kind turtle.pose
  saved : ∀ pose ∈ turtle.saved, kind pose
  points : ∀ pose ∈ turtle.points, kind pose

/-- A turtle that is in space, was so whenever it saved its pose, and has recorded only poses in
space. -/
structure Spatial (turtle : Turtle C W J) : Prop where
  pose : turtle.pose.Spatial
  saved : ∀ pose ∈ turtle.saved, pose.Spatial
  points : ∀ pose ∈ turtle.points, pose.Spatial

theorem spatial_iff (turtle : Turtle C W J) : turtle.Spatial ↔ turtle.Only Pose.Spatial :=
  ⟨fun spatial => ⟨spatial.pose, spatial.saved, spatial.points⟩,
    fun only => ⟨only.pose, only.saved, only.points⟩⟩

variable {kind : Pose C W → Prop}

theorem Only.record {turtle : Turtle C W J} (only : turtle.Only kind) :
    turtle.record.Only kind where
  pose := only.pose
  saved := only.saved
  points pose member := by
    rcases Array.mem_push.mp member with earlier | last
    · exact only.points pose earlier
    · exact last ▸ only.pose

theorem Only.reach {turtle : Turtle C W J} (only : turtle.Only kind) {pose : Pose C W}
    (next : kind pose) : (turtle.reach pose).Only kind :=
  record ⟨next, only.saved, only.points⟩

theorem restore_keeps_only (symbol : Char) (index : Nat) :
    Act.Keeps (Only (J := J) kind) (restore symbol index) := by
  intro turtle only
  unfold Act.reached restore
  match saved : turtle.saved with
  | [] => exact only
  | [_] => exact only
  | pose :: below :: rest =>
    have known := only.saved
    rw [saved] at known
    exact ⟨known pose List.mem_cons_self, fun other member => known other
      (List.mem_cons_of_mem pose member), only.points⟩

variable [Wide W] [Component C W]

theorem start_only (lasting : Pose.Lasting kind) (jitter : J) : (start jitter).Only kind where
  pose := lasting.origin
  saved pose member := by
    rw [List.mem_singleton.mp member]
    exact lasting.origin
  points pose member := absurd member (Array.not_mem_empty pose)

theorem start_spatial (jitter : J) : (start jitter : Turtle C W J).Spatial :=
  (spatial_iff _).mpr (start_only Pose.spatial_lasting jitter)

variable [AngleSource J W]

/-- A step forward fails only if no sway can be drawn. -/
theorem forward_eq {turtle : Turtle C W J} (spatial : turtle.Spatial) :
    (∃ failure jitter, AngleSource.draw turtle.jitter = .error failure jitter ∧
        forward turtle = .error failure { turtle.record with jitter := jitter }) ∨
      ∃ sway jitter pose, AngleSource.draw turtle.jitter = .ok sway jitter ∧
        turtle.pose.advance sway = .ok pose ∧ pose.Spatial ∧
        forward turtle = .ok () (reach pose { turtle.record with jitter := jitter }) := by
  cases drawn : AngleSource.draw (W := W) turtle.jitter with
  | error failure jitter =>
    refine Or.inl ⟨failure, jitter, rfl, ?_⟩
    simp only [forward, drawn]
  | ok sway jitter =>
    rcases Pose.advance_spatial spatial.pose sway with ⟨pose, advanced, next⟩
    refine Or.inr ⟨sway, jitter, pose, rfl, advanced, next, ?_⟩
    simp only [forward, drawn, advanced]

theorem forward_keeps_only (lasting : Pose.Lasting kind) :
    Act.Keeps (Only (J := J) kind) forward := by
  intro turtle only
  have begun : ∀ jitter : J, Only kind { turtle.record with jitter := jitter } :=
    fun _ => ⟨only.record.pose, only.record.saved, only.record.points⟩
  unfold Act.reached
  cases drawn : AngleSource.draw (W := W) turtle.jitter with
  | error failure jitter =>
    simp only [forward, drawn]
    exact begun jitter
  | ok sway jitter =>
    cases advanced : turtle.pose.advance sway with
    | error failure =>
      simp only [forward, drawn, advanced]
      exact begun jitter
    | ok pose =>
      simp only [forward, drawn, advanced]
      exact (begun jitter).reach (lasting.advance only.pose advanced)

theorem follow_keeps_only (lasting : Pose.Lasting kind) (symbol : Char) (index : Nat) :
    Act.Keeps (Only (J := J) kind) (follow symbol index) := by
  unfold follow
  cases Command.ofSymbol? symbol with
  | none => exact Act.Keeps.pure ()
  | some command =>
    cases command with
    | forward => exact forward_keeps_only lasting
    | turnUp =>
      exact Act.Keeps.modify fun turtle only => ⟨lasting.turnUp only.pose, only.saved, only.points⟩
    | turnDown =>
      exact Act.Keeps.modify fun turtle only => ⟨lasting.turnDown only.pose, only.saved, only.points⟩
    | save =>
      refine Act.Keeps.modify fun turtle only => ⟨only.pose, ?_, only.points⟩
      intro pose member
      rcases List.mem_cons.mp member with top | below
      · exact top ▸ only.pose
      · exact only.saved pose below
    | restore => exact restore_keeps_only symbol index

/-- However a walk ends, its poses are of every kind that turns and steps do not leave. -/
theorem followAll_keeps_only (lasting : Pose.Lasting kind) (word : List Char) (index : Nat) :
    Act.Keeps (Only (J := J) kind) (followAll word index) := by
  induction word generalizing index with
  | nil => exact Act.Keeps.pure ()
  | cons symbol word inductionHypothesis =>
    exact Act.Keeps.bind (follow_keeps_only lasting symbol index)
      fun _ => inductionHypothesis (index + 1)

theorem forward_keeps_spatial : Act.Keeps (Spatial (C := C) (W := W) (J := J)) forward :=
  fun turtle spatial => (spatial_iff _).mpr
    (forward_keeps_only Pose.spatial_lasting turtle ((spatial_iff turtle).mp spatial))

theorem followAll_keeps_spatial (word : List Char) (index : Nat) :
    Act.Keeps (Spatial (C := C) (W := W) (J := J)) (followAll word index) :=
  fun turtle spatial => (spatial_iff _).mpr
    (followAll_keeps_only Pose.spatial_lasting word index turtle ((spatial_iff turtle).mp spatial))

end Turtle

variable [Wide W] [Component C W] [AngleSource J W]

/-- A complete walk has recorded only poses in space. -/
theorem interpret_spatial {word : List Char} {jitter left : J} {turtle : Turtle C W J}
    (walked : interpret word jitter = .ok turtle left) : turtle.Spatial := by
  have kept := Turtle.followAll_keeps_spatial word 0 (Turtle.start jitter : Turtle C W J)
    (Turtle.start_spatial jitter)
  have drawn : Turtle.draw word (Turtle.start jitter : Turtle C W J) =
    Turtle.followAll word 0 (Turtle.start jitter) := rfl
  unfold interpret at walked
  rw [drawn] at walked
  unfold Act.reached at kept
  cases run : Turtle.followAll word 0 (Turtle.start jitter : Turtle C W J) with
  | error failure reached =>
    rw [run] at walked
    cases walked
  | ok value reached =>
    rw [run] at walked kept
    cases walked
    exact kept

/-! ## Branches -/

/-- If every single step succeeds, so do all of them, with a result for each. -/
theorem mapM_of_each {α β : Type} {f : α → Except Failure β} {good : β → Prop} (values : List α)
    (each : ∀ value ∈ values, ∃ result, f value = .ok result ∧ good result) :
    ∃ results, values.mapM f = .ok results ∧ results.length = values.length ∧
      ∀ result ∈ results, good result := by
  induction values with
  | nil => exact ⟨[], rfl, rfl, fun _ member => absurd member List.not_mem_nil⟩
  | cons value values inductionHypothesis =>
    rcases each value List.mem_cons_self with ⟨first, done, firstGood⟩
    rcases inductionHypothesis fun other member =>
        each other (List.mem_cons_of_mem value member) with
        ⟨others, allDone, sameLength, othersGood⟩
    refine ⟨first :: others, ?_, congrArg Nat.succ sameLength, ?_⟩
    · rw [List.mapM_cons, done]
      change (values.mapM f >>= fun others => pure (first :: others)) = _
      rw [allDone]
      rfl
    · intro result member
      rcases List.mem_cons.mp member with same | later
      · exact same ▸ firstGood
      · exact othersGood result later

namespace Branch

omit [AngleSource J W]

/-- A branch between two places in space with a heading in space. -/
structure Spatial (branch : Branch C W) : Prop where
  start : branch.start.Spatial
  tip : branch.tip.Spatial
  rotation : branch.rotation.Spatial

theorem between_spatial (radiusFactor : W) {first second : Pose C W} (begun : first.Spatial)
    (ended : second.Spatial) :
    ∃ branch, between radiusFactor first second = .ok branch ∧ branch.Spatial := by
  rcases Vec.combine_spatial .subtraction (· - ·) ended.position begun.position with
      ⟨along, difference, -⟩
  refine ⟨⟨first.position, second.position, along.length, radiusFactor * along.length,
    second.angle⟩, ?_, ⟨begun.position, ended.position, ended.angle⟩⟩
  unfold between Vec.sub
  rw [difference]
  rfl

/-- Among points in space branches can always be built, one for each pair of points. -/
theorem ofPoints_spatial {points : Array (Pose C W)} (spatial : ∀ pose ∈ points, pose.Spatial)
    (radiusFactor : W) :
    ∃ branches, ofPoints points radiusFactor = .ok branches ∧
      branches.length = (pairs points.size).length ∧ ∀ branch ∈ branches, branch.Spatial := by
  unfold ofPoints
  rw [← List.length_attach (l := pairs points.size)]
  exact mapM_of_each (pairs points.size).attach fun _ _ =>
    between_spatial radiusFactor (spatial _ (Array.getElem_mem _)) (spatial _ (Array.getElem_mem _))

/-- A heading in space can be turned into angles. -/
theorem turns_spatial {branch : Branch C W} (spatial : branch.Spatial) :
    ∃ turns, branch.turns = .ok turns := by
  rcases List.length_eq_one_iff.mp spatial.rotation with ⟨z, rest⟩
  unfold turns Vec.fill Vec.map Vec.toList
  rw [rest]
  exact ⟨_, rfl⟩

end Branch
end Arbor
