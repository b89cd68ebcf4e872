import Arbor.Branch.Pairing
import Arbor.Event
import Arbor.Pose

/-!
# Branches

A branch says where a piece of the tree lies before any object is made for it: its two ends, its
length and radius, and its heading in degrees.  What a scene needs to place an object (a position,
angles in radians, a scale) is worked out from that.  The objects are made from a prefab of radius
one and height two, which is why a scale holds half of the length.
-/

namespace Arbor

open Number Space

/-- A piece of the tree between two places. -/
structure Branch (C W : Type) where
  start : Vec C
  tip : Vec C
  length : W
  radius : W
  rotation : Vec C
  deriving Repr

namespace Branch

variable {C W : Type} [Wide W] [Component C W]

/-- The radius of a branch of length one. -/
def standardRadius : W := Wide.decimal 1 1

/-- The order in which the rotations of a branch are done. -/
def order : AxisOrder := .zxy

/-- The branch that joins two points.  It has the heading of the second one. -/
def between (radiusFactor : W) (first second : Pose C W) : Except Failure (Branch C W) := do
  let along ← second.position.sub first.position
  return ⟨first.position, second.position, along.length, radiusFactor * along.length, second.angle⟩

/-- The branches among recorded points, in the order of the walk. -/
def ofPoints (points : Array (Pose C W)) (radiusFactor : W) : Except Failure (List (Branch C W)) :=
  (pairs points.size).attach.mapM fun ⟨pair, member⟩ =>
    have firstInside : pair.1 < points.size := (lt_of_mem_pairs member).1
    have secondInside : pair.2 < points.size := (lt_of_mem_pairs member).2
    between radiusFactor points[pair.1] points[pair.2]

/-- What the building of branches reports. -/
def builtEvents (branches points : Nat) : List Event := [.built branches points]

/-- Where the object of a branch is placed. -/
def position (branch : Branch C W) : Vec C := branch.start

/-- The scale of the object of a branch. -/
def scale (branch : Branch C W) : Vec C :=
  .spatial (Component.store branch.radius) (Component.store (Wide.halve branch.length))
    (Component.store branch.radius)

/-- The angles by which the object of a branch is turned. -/
def turns (branch : Branch C W) : Except Failure (Turns C) :=
  Turns.ofList order
    (branch.rotation.fill fun angle => Wide.radians (Component.read angle)).toList

/-- The branch with something done to every component of its vectors. -/
def map {D : Type} (f : C → D) (branch : Branch C W) : Branch D W :=
  ⟨branch.start.map f, branch.tip.map f, branch.length, branch.radius, branch.rotation.map f⟩

/-- Whether two branches are the same: their vectors agree up to the last bit of each component,
their length and radius exactly. -/
def same [Patterned C] (left right : Branch C Float) : Bool :=
  left.start.agrees right.start && left.tip.agrees right.tip && left.length == right.length
    && left.radius == right.radius && left.rotation.agrees right.rotation

/-- Which branches of a list are the same.  A branch is the same as itself, whatever its
numbers. -/
def sameness [Patterned C] (branches : List (Branch C Float)) : List (List Bool) :=
  branches.mapIdx fun row left => branches.mapIdx fun column right =>
    row == column || left.same right

/-- The letters by which the components of a vector are assigned to. -/
def componentLetters : List String := ["x", "y", "z", "w"]

/-- Assigning to a component of one of the branch's own vectors always fails, whether or not there
is such a component. -/
def assignOwn (part : String) : Except Failure Unit :=
  if componentLetters.contains part then refuse .frozenVector else refuse (.lacks "Vector" part)

/-- A vector that is worked out anew whenever it is asked for has its components replaced without
any effect on the branch. -/
def assignComputed (size : Nat) (part : String) : Except Failure Unit :=
  match componentLetters.idxOf? part with
  | none => refuse (.lacks "Vector" part)
  | some place => if place < size then .ok () else refuse (.componentBeyond part size)

/-- Assigning to a field of a branch, or to a part of what the field holds.  A whole field is never
replaced, and only vectors have parts to assign to. -/
def assign (branch : Branch C W) (field : String) : Option String → Except Failure Unit
  | none => refuse (.frozenField field)
  | some part =>
    if ["start", "end", "rotation"].contains field then assignOwn part
    else if field = "position" then assignComputed branch.position.size part
    else if field = "scale" then assignComputed branch.scale.size part
    else if ["length", "radius"].contains field then refuse (.lacks (Value.real 0).typeName part)
    else if field = "rotation_euler" then refuse (.lacks "method" part)
    else refuse (.lacks "BranchDescriptor" field)

end Branch
end Arbor
