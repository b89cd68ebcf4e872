import Arbor.Failure
import Arbor.Number.Arithmetic

/-!
# Vectors

A vector has two components or more.  Sums and differences are taken component by component and
only between vectors of one size.  The length of a vector is worked out in the wide numbers, from
the last component to the first; over rounded arithmetic the order counts.
-/

namespace Arbor
namespace Space

open Number

/-- A vector: its first two components and those after them. -/
structure Vec (C : Type) where
  x : C
  y : C
  rest : List C
  deriving DecidableEq, Repr

namespace Vec

variable {C W : Type}

/-- A vector of space. -/
def spatial (x y z : C) : Vec C := ⟨x, y, [z]⟩

/-- The components in order. -/
def toList (v : Vec C) : List C := v.x :: v.y :: v.rest

/-- The number of components. -/
def size (v : Vec C) : Nat := v.rest.length + 2

/-- The vector with the given components, of which there must be two. -/
def ofList : List C → Except Failure (Vec C)
  | x :: y :: rest => .ok ⟨x, y, rest⟩
  | few => refuse (.vectorTooShort few.length)

theorem ofList_toList (v : Vec C) : ofList v.toList = .ok v := rfl

/-- The vector with something done to every component. -/
def map {D : Type} (f : C → D) (v : Vec C) : Vec D := ⟨f v.x, f v.y, v.rest.map f⟩

/-- The third component. -/
def third (v : Vec C) : Except Failure C :=
  match v.rest with
  | z :: _ => .ok z
  | [] => refuse .noComponent

/-- Combine two vectors of one size component by component. -/
def combine (operation : VectorOperation) (f : C → C → C) (v w : Vec C) :
    Except Failure (Vec C) :=
  if v.rest.length = w.rest.length then .ok ⟨f v.x w.x, f v.y w.y, v.rest.zipWith f w.rest⟩
  else refuse (.differentSizes operation)

/-- The sum of two vectors of one size. -/
def add [Component C W] (v w : Vec C) : Except Failure (Vec C) := combine .addition (· + ·) v w

/-- The difference of two vectors of one size. -/
def sub [Component C W] (v w : Vec C) : Except Failure (Vec C) :=
  combine .subtraction (· - ·) v w

/-- The vector with a wide number stored in every component. -/
def fill [Component C W] (f : C → W) (v : Vec C) : Vec C := v.map fun c => Component.store (f c)

/-- The length of a vector: the root of the sum of the squares, which are rounded to components
before they are added. -/
def length [Wide W] [Component C W] (v : Vec C) : W :=
  Wide.root (v.toList.reverse.foldl (fun sum c => sum + Component.read (c * c)) 0)

end Vec

/-- Components that are told apart by the patterns they are kept in. -/
class Patterned (C : Type) where
  /-- The pattern of a component. -/
  pattern : C → UInt32

/-- Singles are kept in their bits, in which all that are not numbers look the same. -/
instance : Patterned Float32 := ⟨Float32.toBits⟩

/-- A pattern stands for itself.  Patterns also tell apart singles that are not numbers. -/
instance : Patterned UInt32 := ⟨id⟩

variable {C : Type} [Patterned C]

/-- Whether two components are the same or neighbours.  Patterns of negative numbers are turned
round, so that all numbers stand in order on one line, and the distance on that line is taken. -/
def neighbours (a b : C) : Bool :=
  let (a, b) := (Patterned.pattern a, Patterned.pattern b)
  let left := if a >>> 31 = b >>> 31 then a else a ^^^ 0x7fffffff
  let distance := left - b
  distance = 0 || distance = 1 || distance = 0xffffffff

/-- Whether two vectors agree up to the last bit of each component. -/
def Vec.agrees (v w : Vec C) : Bool :=
  v.rest.length == w.rest.length && (v.toList.zip w.toList).all fun pair => neighbours pair.1 pair.2

end Space
end Arbor
