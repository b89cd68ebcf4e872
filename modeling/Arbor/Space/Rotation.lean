import Arbor.Space.Vec

/-!
# Rotations of space

`Rotation.about` is the rotation about one of the axes, written as the rows of its matrix; it acts
on vectors of three components only.  `pivot` rotates a point about another one.  A `Turns` value
keeps three angles together with the order in which rotations about the axes are to be done, which
is the form in which a scene is told how a branch lies.
-/

namespace Arbor
namespace Space

open Number

/-- The axes of space. -/
inductive Axis where
  | x
  | y
  | z
  deriving DecidableEq, Repr

/-- The orders in which rotations about the three axes can follow each other, the first one
first. -/
inductive AxisOrder where
  | xyz
  | xzy
  | yxz
  | yzx
  | zxy
  | zyx
  deriving DecidableEq, Repr

namespace Axis

/-- The letter of an axis. -/
def letter : Axis → String
  | x => "X"
  | y => "Y"
  | z => "Z"

/-- The axis with the given letter. -/
def ofLetter (letter : String) : Except Failure Axis :=
  match [x, y, z].find? fun axis => axis.letter == letter with
  | some axis => .ok axis
  | none => refuse .unknownAxis

end Axis

namespace AxisOrder

/-- All orders. -/
def all : List AxisOrder := [xyz, xzy, yxz, yzx, zxy, zyx]

/-- The letters of the axes in order. -/
def letters : AxisOrder → String
  | xyz => "XYZ"
  | xzy => "XZY"
  | yxz => "YXZ"
  | yzx => "YZX"
  | zxy => "ZXY"
  | zyx => "ZYX"

/-- The order with the given letters. -/
def ofLetters (letters : String) : Except Failure AxisOrder :=
  match all.find? fun order => order.letters == letters with
  | some order => .ok order
  | none => refuse (.unknownOrder letters)

end AxisOrder

/-- Three angles in radians, one for each axis, and the order of the rotations. -/
structure Turns (C : Type) where
  x : C
  y : C
  z : C
  order : AxisOrder
  deriving DecidableEq, Repr

namespace Turns

variable {C : Type}

/-- The angles in the order of the axes. -/
def toList (turns : Turns C) : List C := [turns.x, turns.y, turns.z]

/-- The angles with something done to each. -/
def map (f : C → C) (turns : Turns C) : Turns C := ⟨f turns.x, f turns.y, f turns.z, turns.order⟩

/-- Three angles with an order. -/
def ofList (order : AxisOrder) : List C → Except Failure (Turns C)
  | [x, y, z] => .ok ⟨x, y, z, order⟩
  | other => refuse (.notThreeAngles other.length)

end Turns

/-- A linear map of space, row by row. -/
structure Rotation (C : Type) where
  first : C × C × C
  second : C × C × C
  third : C × C × C

namespace Rotation

variable {C W : Type} [Wide W] [Component C W]

/-- The rotation by an angle in radians about an axis. -/
def about (axis : Axis) (angle : W) : Rotation C :=
  let turn := Component.wrap (Component.store angle : C)
  let c := Component.cosine turn
  let s := Component.sine turn
  let zero : C := Component.store 0
  let one : C := Component.store (Wide.decimal 1 0)
  match axis with
  | .x => ⟨(one, zero, zero), (zero, c, -s), (zero, s, c)⟩
  | .y => ⟨(c, zero, s), (zero, one, zero), (-s, zero, c)⟩
  | .z => ⟨(c, -s, zero), (s, c, zero), (zero, zero, one)⟩

/-- A row applied to three components: the products are kept as components, and their sum is
wide. -/
def applyRow (row : C × C × C) (x y z : C) : C :=
  Component.store
    (0 + Component.read (row.1 * x) + Component.read (row.2.1 * y) + Component.read (row.2.2 * z))

/-- A rotation applied to a vector of space. -/
def apply (rotation : Rotation C) (v : Vec C) : Except Failure (Vec C) :=
  match v.rest with
  | [z] =>
    .ok (.spatial (applyRow rotation.first v.x v.y z) (applyRow rotation.second v.x v.y z)
      (applyRow rotation.third v.x v.y z))
  | _ => refuse .notSpatial

/-- Rotate a point about another one. -/
def pivot (rotation : Rotation C) (point origin : Vec C) : Except Failure (Vec C) := do
  let arm ← point.sub origin
  let turned ← rotation.apply arm
  turned.add origin

end Rotation
end Space
end Arbor
