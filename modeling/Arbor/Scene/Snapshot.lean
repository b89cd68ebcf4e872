import Arbor.Number.Decimal
import Arbor.Scene.Recording

/-!
# What a recording scene shows

A snapshot lists the live objects of a stage with their numbers rounded to six places and their
angles in degrees, so that two snapshots can be compared.  The dimensions of a stage are how far
the places of its live objects lie apart along each axis.
-/

namespace Arbor
namespace Recording

open Number Space

/-- The decimal places that a snapshot keeps. -/
def snapshotPlaces : Nat := 6

/-- A live object as a snapshot shows it. -/
structure Snapshot where
  index : Nat
  location : List Float
  degrees : List Float
  order : AxisOrder
  scale : List Float

/-- Components as a snapshot shows them. -/
def rounded (components : List Float32) : List Float :=
  components.map fun c => roundPlaces snapshotPlaces (widen c)

/-- An object as a snapshot shows it. -/
def Item.snapshot (item : Item) : Snapshot where
  index := item.index
  location := rounded item.location.toList
  degrees := item.rotation.toList.map fun c => roundPlaces snapshotPlaces (Wide.degrees (widen c))
  order := item.rotation.order
  scale := rounded item.scale.toList

/-- The greater of two numbers, or the one that is not a number. -/
def greater (a b : Float) : Float := if b ≤ a || a.isNaN then a else b

/-- The lesser of two numbers, or the one that is not a number. -/
def lesser (a b : Float) : Float := if a ≤ b || a.isNaN then a else b

/-- How far numbers lie apart, which is nothing if there are none. -/
def span : List Float → Float
  | [] => 0.0
  | first :: others => others.foldl greater first - others.foldl lesser first

/-- The first three components of a place. -/
def spatialParts (v : Vec Float32) : Except Failure (Float × Float × Float) := do
  let z ← v.third
  return (widen v.x, widen v.y, widen z)

namespace Theatre

/-- The live objects of a stage, rounded. -/
def snapshot (theatre : Theatre) (number : Nat) : List Snapshot :=
  (theatre.liveItems number).map Item.snapshot

/-- How far the live objects of a stage lie apart along each axis.  Every one of them must have a
place in space. -/
def dimensions (theatre : Theatre) (number : Nat) : Except Failure (List Float) := do
  let places ← (theatre.liveItems number).mapM fun item => spatialParts item.location
  return [span (places.map fun place => place.1), span (places.map fun place => place.2.1),
    span (places.map fun place => place.2.2)]

end Theatre
end Recording
end Arbor
