import Arbor.Act

/-!
# What is reported along the way

Operations report what they did, besides their result.  An `Event` says what happened; its level,
the part of the library that reports it and its wording follow from that.  A `Log` holds events in
the order in which they happened, those before a failure included.
-/

namespace Arbor

/-- How much attention an event deserves. -/
inductive Level where
  | detail
  | warning
  deriving DecidableEq, Repr

/-- The part of the library that reports an event. -/
inductive Origin where
  | settings
  | grammar
  | turtle
  | geometry
  | tree
  deriving DecidableEq, Repr

/-- Something worth reporting. -/
inductive Event where
  /-- A loose count of iterations was moved into the allowed range. -/
  | clamped (given : Value) (taken : Int)
  /-- The given rewriting pass, counted from one, left so many symbols. -/
  | rewritten (pass symbols : Nat)
  /-- The input of a walk ended inside so many brackets. -/
  | leftOpen (branches : Nat)
  /-- A walk of so many symbols recorded so many points. -/
  | interpreted (symbols points : Nat)
  /-- So many branches were built from so many points. -/
  | built (branches points : Nat)
  /-- A tree failed with so many branches already placed. -/
  | abandoned (branches : Nat)
  /-- A failed tree could not be taken back in full. -/
  | leftInScene (failure : Reason)
  /-- A tree was grown. -/
  | grown (symbols points branches : Nat)

namespace Event

/-- A change to what was asked for, and anything left in a scene, deserve a warning. -/
def level : Event → Level
  | clamped _ _ | leftInScene _ => .warning
  | _ => .detail

/-- Where an event comes from. -/
def origin : Event → Origin
  | clamped _ _ => .settings
  | rewritten _ _ => .grammar
  | leftOpen _ | interpreted _ _ => .turtle
  | built _ _ => .geometry
  | abandoned _ | leftInScene _ | grown _ _ _ => .tree

/-- The wording of an event. -/
def message : Event → String
  | clamped given taken => "iterations " ++ given.written ++ " clamped to " ++ toString taken
  | rewritten pass symbols =>
    "iteration " ++ toString pass ++ ": " ++ toString symbols ++ " symbols"
  | leftOpen branches => toString branches ++ " branch(es) left open at end of input"
  | interpreted symbols points =>
    "interpreted " ++ toString symbols ++ " symbols into " ++ toString points ++ " points"
  | built branches points =>
    "built " ++ toString branches ++ " branches from " ++ toString points ++ " points"
  | abandoned branches =>
    "regeneration failed, removing " ++ toString branches ++ " partial branches"
  | leftInScene failure => "rollback left branches in the scene: " ++ failure.message
  | grown symbols points branches =>
    "regenerated tree: " ++ toString symbols ++ " symbols, " ++ toString points ++ " points, "
      ++ toString branches ++ " branches"

end Event

/-- Events in the order in which they happened. -/
abbrev Log := Array Event

/-- Report events. -/
def report (events : List Event) : Act Log Unit := fun log => .ok () (log ++ events)

end Arbor
