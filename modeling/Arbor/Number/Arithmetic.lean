import Arbor.Number.Format

/-!
# The arithmetic a walk is done in

Vector components are kept in one number type and worked with in another: a component is read into
the wide type, and a result is stored back.  `Wide` and `Component` name the operations that the
walk, the rotations and the branches need, and nothing else.  The program runs them on singles and
doubles, where storing rounds; the same definitions can be read over a field in which it does not.
No law is part of the classes, because none but the trivial ones holds of both.
-/

namespace Arbor
namespace Number

/-- The wide numbers: lengths, angles in degrees or radians, and sums over components. -/
class Wide (W : Type) extends Add W, Sub W, Mul W, Zero W where
  /-- The number nearest to `digits / 10 ^ places`. -/
  decimal (digits places : Nat) : W
  /-- Half of a number. -/
  halve : W → W
  /-- The square root of a sum of squares. -/
  root : W → W
  /-- An angle in degrees, taken to radians. -/
  radians : W → W
  /-- An angle in radians, taken to degrees. -/
  degrees : W → W
  /-- Whether a number is zero or below. -/
  nonpositive : W → Bool

/-- The components of vectors, with the wide type they are read into. -/
class Component (C : Type) (W : outParam Type) extends Add C, Sub C, Mul C, Neg C where
  /-- The value of a component. -/
  read : C → W
  /-- The component that keeps a value. -/
  store : W → C
  /-- The same angle in radians within half a turn of zero. -/
  wrap : C → C
  /-- The cosine of an angle in radians. -/
  cosine : C → C
  /-- The sine of an angle in radians. -/
  sine : C → C

/-- Doubles: degrees become radians by one product with the rounded quotient of half a turn. -/
instance : Wide Float where
  zero := 0.0
  decimal digits places := Float.ofScientific digits true places
  halve x := x / 2.0
  root := Float.sqrt
  radians x := x * (3.141592653589793 / 180.0)
  degrees x := x * (180.0 / 3.141592653589793)
  nonpositive x := x ≤ 0.0

/-- Half a turn, as a single. -/
def halfTurn : Float32 := narrow 3.141592653589793

/-- Bring an angle within half a turn of zero, rounding every step. -/
def wrapSingle (angle : Float32) : Float32 :=
  let shifted := angle + halfTurn
  let turn := halfTurn * narrow 2.0
  (shifted - turn * floorSingle (shifted / turn)) - halfTurn

/-- Singles read into doubles.  Sine and cosine are taken on the wide side and stored. -/
instance : Component Float32 Float where
  read := widen
  store := narrow
  wrap := wrapSingle
  cosine x := narrow (widen x).cos
  sine x := narrow (widen x).sin

end Number
end Arbor
