import Arbor.Event
import Arbor.Jitter
import Arbor.Pose

/-!
# Walking a word

The turtle reads a word from left to right.  A segment symbol makes it step forward, which records
the pose before the step and the pose after it; two symbols turn it; an opening bracket saves its
pose and a closing one takes the pose saved last.  All other symbols are skipped.  At the bottom of
the saved poses lies the pose in which the walk started, which no bracket takes.  A walk that fails
keeps what it had recorded up to there.
-/

namespace Arbor

open Number Space

/-- What a symbol tells the turtle to do. -/
inductive Command where
  | forward
  | turnUp
  | turnDown
  | save
  | restore
  deriving DecidableEq, Repr

/-- The command a symbol stands for, if any. -/
def Command.ofSymbol? : Char → Option Command
  | 'F' => some .forward
  | '+' => some .turnUp
  | '-' => some .turnDown
  | '[' => some .save
  | ']' => some .restore
  | _ => none

/-- A turtle on its way: where its sways come from, its pose, the poses saved with the latest one
first, and the poses recorded so far. -/
structure Turtle (C W J : Type) where
  jitter : J
  pose : Pose C W
  saved : List (Pose C W)
  points : Array (Pose C W)

namespace Turtle

variable {C W J : Type} [Wide W] [Component C W]

/-- A turtle before its first step. -/
def start (jitter : J) : Turtle C W J where
  jitter := jitter
  pose := .origin
  saved := [.origin]
  points := #[]

/-- Go back to the start.  Only the source of the sways stays as it is. -/
def reset (turtle : Turtle C W J) : Turtle C W J := start turtle.jitter

/-- Record the present pose. -/
def record (turtle : Turtle C W J) : Turtle C W J :=
  { turtle with points := turtle.points.push turtle.pose }

/-- Go on to another pose and record it. -/
def reach (pose : Pose C W) (turtle : Turtle C W J) : Turtle C W J :=
  record { turtle with pose := pose }

/-- Step forward.  The pose before the step is recorded first, and stays recorded if no sway can be
drawn or the step cannot be done. -/
def forward [AngleSource J W] : Act (Turtle C W J) Unit := fun turtle =>
  let jitter := turtle.jitter
  let last := turtle.pose
  let begun := turtle.record
  match AngleSource.draw jitter with
  | .error failure jitter => .error failure { begun with jitter := jitter }
  | .ok sway jitter =>
    match last.advance sway with
    | .error failure => .error failure { begun with jitter := jitter }
    | .ok pose => .ok () (reach pose { begun with jitter := jitter })

/-- Save the present pose. -/
def save (turtle : Turtle C W J) : Turtle C W J :=
  { turtle with saved := turtle.pose :: turtle.saved }

/-- Take the pose saved last, unless only the starting pose is left.  The place of the symbol in
its word goes into the failure. -/
def restore (symbol : Char) (index : Nat) : Act (Turtle C W J) Unit := fun turtle =>
  match turtle.saved with
  | pose :: below :: rest => .ok () { turtle with pose := pose, saved := below :: rest }
  | _ => .error ⟨.unmatched symbol.toString index, [], []⟩ turtle

/-- Follow the symbol at a place of the word. -/
def follow [AngleSource J W] (symbol : Char) (index : Nat) : Act (Turtle C W J) Unit :=
  match Command.ofSymbol? symbol with
  | some .forward => forward
  | some .turnUp => modify fun turtle => { turtle with pose := turtle.pose.turnUp }
  | some .turnDown => modify fun turtle => { turtle with pose := turtle.pose.turnDown }
  | some .save => modify save
  | some .restore => restore symbol index
  | none => pure ()

/-- Follow the symbols of a word, the first of which has the given place. -/
def followAll [AngleSource J W] : List Char → Nat → Act (Turtle C W J) Unit
  | [], _ => pure ()
  | symbol :: word, index => do
    follow symbol index
    followAll word (index + 1)

/-- Walk a word from the start. -/
def draw [AngleSource J W] (word : List Char) : Act (Turtle C W J) Unit := do
  modify reset
  followAll word 0

/-- The number of saved poses that no bracket has taken, the starting pose apart. -/
def openBranches (turtle : Turtle C W J) : Nat := turtle.saved.length - 1

/-- What a walk reports at the end of its word. -/
def endEvents (turtle : Turtle C W J) : List Event :=
  if 0 < turtle.openBranches then [.leftOpen turtle.openBranches] else []

/-- What a complete walk of so many symbols reports. -/
def walkEvents (turtle : Turtle C W J) (symbols : Nat) : List Event :=
  turtle.endEvents ++ [.interpreted symbols turtle.points.size]

end Turtle

/-- Walk a word with a new turtle, which draws its sways from the given source.  What is left of
the source is there afterwards even if the walk fails. -/
def interpret {C W J : Type} [Wide W] [Component C W] [AngleSource J W] (word : List Char) :
    Act J (Turtle C W J) := fun jitter =>
  match Turtle.draw word (Turtle.start jitter : Turtle C W J) with
  | .ok () turtle => .ok turtle turtle.jitter
  | .error failure turtle => .error failure turtle.jitter

end Arbor
