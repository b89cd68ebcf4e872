import Arbor.Space.Rotation

/-!
# Poses of the turtle

A pose is a place, a heading given as an angle in degrees about each axis, and the length of the
next segment.  The turtle starts at the origin, heading along the second axis.  `advance` is one
step forward: the segment is laid off along the second axis and turned about the first axis and
then about the second, and the next segment is shorter by a fixed amount, down to a least length.
-/

namespace Arbor

open Number Space

/-- Where the turtle is and what its next segment looks like. -/
structure Pose (C W : Type) where
  position : Vec C
  angle : Vec C
  length : W
  deriving Repr

namespace Pose

variable {C W : Type} [Wide W] [Component C W]

/-- The angle of a turn, in degrees. -/
def turnAngle : W := Wide.decimal 30 0

/-- What a segment is longer than the next one. -/
def decay : W := Wide.decimal 2 2

/-- The length of segments that would have none left. -/
def leastLength : W := Wide.decimal 1 3

/-- The length of the first segment. -/
def initialLength : W := Wide.decimal 1 0

/-- The pose in which every walk starts. -/
def origin : Pose C W where
  position := .spatial (Component.store 0) (Component.store 0) (Component.store 0)
  angle := .spatial (Component.store 0) (Component.store 0) (Component.store 0)
  length := initialLength

/-- The pose turned about the first axis, one way. -/
def turnUp (pose : Pose C W) : Pose C W :=
  { pose with
    angle := { pose.angle with x := Component.store (Component.read pose.angle.x + turnAngle) } }

/-- The pose turned about the first axis, the other way. -/
def turnDown (pose : Pose C W) : Pose C W :=
  { pose with
    angle := { pose.angle with x := Component.store (Component.read pose.angle.x - turnAngle) } }

/-- The length of the segment after one of the given length. -/
def nextLength (length : W) : W :=
  if Wide.nonpositive (length - decay) then leastLength else length - decay

/-- A heading swayed about the second axis. -/
def swayed (angle : Vec C) (sway : W) : Vec C :=
  { angle with y := Component.store (Component.read angle.y + sway) }

/-- The end of a segment that starts at the given place and has the given heading and length. -/
def segmentEnd (start : Vec C) (heading : Vec C) (length : W) : Except Failure (Vec C) := do
  let upright ← start.add (.spatial (Component.store 0) (Component.store length) (Component.store 0))
  let pitched ← (Rotation.about .x (Wide.radians (Component.read heading.x))).pivot upright start
  (Rotation.about .y (Wide.radians (Component.read heading.y))).pivot pitched start

/-- The pose one segment further, with the heading swayed first. -/
def advance (pose : Pose C W) (sway : W) : Except Failure (Pose C W) := do
  let heading := swayed pose.angle sway
  let position ← segmentEnd pose.position heading pose.length
  return ⟨position, heading, nextLength pose.length⟩

end Pose
end Arbor
