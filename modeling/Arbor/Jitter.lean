import Arbor.Act
import Arbor.Jitter.Twister
import Arbor.Number.Arithmetic

/-!
# Jitter

A segment is swayed by an angle that the walk does not know beforehand.  `AngleSource` is all that
a walk asks of such a source: the next angle as a wide number, or a failure, and the source after
it.  A `Jitter` is a source given by settings: one angle for all segments, a list of angles used up
one by one, or a seeded sequence of whole degrees.
-/

namespace Arbor

/-- A source of angles in degrees.  A source that fails may still have changed. -/
class AngleSource (J : Type) (W : outParam Type) where
  /-- Take the next angle. -/
  draw : Act J W

namespace Jitter

/-- The least angle a seeded or constant source gives. -/
def leastSway : Int := -30

/-- The greatest angle a seeded or constant source gives. -/
def greatestSway : Int := 30

/-- How often a seeded draw may fall outside the range before its bits are reduced. -/
def attempts : Nat := 4096

end Jitter

/-- A source of angles given by settings. -/
inductive Jitter where
  | constant (sway : Value)
  | listed (sways : List Value)
  | seeded (twister : Jitter.Twister)

namespace Jitter

/-- Whether a value is a number within the allowed angles.  Other values cannot be compared. -/
def withinRange : Value → Except Failure Bool
  | .int sway => .ok (leastSway ≤ sway && sway ≤ greatestSway)
  | .flag _ => .ok true
  | .real sway => .ok (.ofInt leastSway ≤ sway && sway ≤ .ofInt greatestSway)
  | value => refuse (.uncomparable "<=" (Value.int leastSway).typeName value.typeName)

/-- The source that gives one angle for ever, which has to be within the allowed ones. -/
def ofConstant (sway : Value) : Except Failure Jitter := do
  if ← withinRange sway then return .constant sway
  else refuse (.swayOutOfRange sway leastSway greatestSway)

/-- The source of the draws that a seed fixes. -/
def ofSeed (seed : Int) : Jitter := .seeded (.ofSeed seed)

/-- The source used when none is given. -/
def standard : Jitter := ofSeed 0

/-- Take the next value of a source. -/
def next : Act Jitter Value
  | constant sway => .ok sway (constant sway)
  | listed (sway :: sways) => .ok sway (listed sways)
  | listed [] => .error ⟨.swaysExhausted, [], []⟩ (listed [])
  | seeded twister =>
    let (steps, twister) := twister.below (greatestSway - leastSway + 1).toNat attempts
    .ok (.int (leastSway + steps)) (seeded twister)

/-- The double nearest to a whole number, which must not be beyond the doubles. -/
def realOfWhole (n : Int) : Except Failure Float :=
  let size := Number.double.roundMagnitude n.natAbs 0
  if size = Number.double.infinity then refuse .tooLargeForReal
  else
    let magnitude := Float.ofBits (.ofNat size)
    .ok (if n < 0 then -magnitude else magnitude)

/-- A value as a number that can be added to an angle. -/
def summand : Value → Except Failure Float
  | .int sway => realOfWhole sway
  | .flag sway => .ok (if sway then 1.0 else 0.0)
  | .real sway => .ok sway
  | value => refuse (.swayNotNumber value.typeName)

/-- The next angle of a source.  The value is gone even if it is no number. -/
def draw : Act Jitter Float := do Act.lift (summand (← next))

instance : AngleSource Jitter Float where
  draw := draw

/-- Take a number of values in turn. -/
def take : Nat → Act Jitter (List Value)
  | 0 => pure []
  | count + 1 => do
    let value ← next
    let more ← take count
    return value :: more

end Jitter
end Arbor
