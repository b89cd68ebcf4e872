import Arbor.Document

/-!
# The shape of prefabs

Branches are copies of a prefab, a cylinder along the second axis, centred on its origin.  The
cylinder is laid out round the third axis and then turned.
-/

namespace Arbor

open Number Space

namespace Mesh

/-- A quarter turn about the first axis, which takes the third axis to the second. -/
def quarterTurn : Rotation Float32 := .about .x (Wide.radians (-90.0 : Float))

/-- The sine and the cosine of `place / segments` of a whole turn.  The angle is reduced to an eighth
of a turn on either side of an axis before it is rounded, so that a circle is symmetric to the last
bit. -/
def sineAndCosine (segments place : Nat) : Float32 × Float32 :=
  let octant := 8 * place / segments
  let turn : Int := 8 * segments
  let onCircle (part : Int) (sign : Float32) : Float32 × Float32 :=
    let angle := narrow (2.0 * 3.141592653589793) * (narrow (.ofInt part) / narrow (.ofInt turn))
    (Component.sine angle, Component.cosine angle * sign)
  let part : Int := 8 * place
  if octant = 0 then onCircle part 1
  else if octant ≤ 2 then (onCircle (turn / 4 - part) 1).swap
  else if octant ≤ 4 then onCircle (turn / 2 - part) (-1)
  else if octant ≤ 6 then (onCircle (part - turn * 3 / 4) (-1)).swap
  else onCircle (part - turn) 1

/-- A row applied to a vertex.  Products and sums are kept as singles, and a zero is added at last,
which leaves no negative zero. -/
def turnedRow (row : Float32 × Float32 × Float32) (x y z : Float32) : Float32 :=
  row.1 * x + row.2.1 * y + row.2.2 * z + 0

/-- A vertex of the cylinder that is laid out round the third axis, after the quarter turn. -/
def turned (x y z : Float32) : List Float32 :=
  [turnedRow quarterTurn.first x y z, turnedRow quarterTurn.second x y z,
    turnedRow quarterTurn.third x y z]

/-- The two vertices of an edge along the cylinder, of which there are so many. -/
def edgeVertices (segments place : Nat) : List (List Float32) :=
  let (sine, cosine) := sineAndCosine segments place
  [turned sine cosine (-1), turned sine cosine 1]

/-- The vertices of a mesh. -/
def vertices (mesh : Mesh) : List (List Float32) :=
  (List.range mesh.segments).flatMap (edgeVertices mesh.segments)

/-- The number of corners of every face: the quadrangles of the side and the two ends.  A mesh of no
segments has no ends either. -/
def faceSizes (mesh : Mesh) : List Nat :=
  if mesh.segments = 0 then []
  else List.replicate mesh.segments 4 ++ [mesh.segments, mesh.segments]

/-- The number of edges: those along the cylinder and those of its two ends. -/
def edges (mesh : Mesh) : Nat := 3 * mesh.segments

end Mesh
end Arbor
