import Arbor.Event

/-!
# The settings of a tree

A tree grows from a start word by a number of rewriting passes, and its branches are made from a
prefab, under a parent, and end up under an owner.  Settings hold the first two unchecked, as they
came from outside.  `Settings.validate` checks them and gives the `Growth` they stand for.
-/

namespace Arbor

/-- The start word when none is given: one segment. -/
def standardStart : String := "F"

/-- The greatest number of passes a tree may ask for. -/
def greatestIterations : Nat := 6

/-- What is known about a tree before it grows.  `R` is the type of things in the scene that the
settings refer to. -/
structure Settings (R : Type) where
  start : Value := .text standardStart
  iterations : Value := .int 0
  prefab : Option R := none
  parent : Option R := none
  owner : Option R := none

/-- A start word and a number of passes within bounds. -/
structure Growth where
  start : List Char
  passes : Nat
  bounded : passes ≤ greatestIterations

/-- The number of passes a value stands for: a whole number from zero to the greatest one. -/
def checkIterations : Value → Except Failure { passes : Nat // passes ≤ greatestIterations }
  | .int count =>
    if inRange : 0 ≤ count ∧ count ≤ greatestIterations then
      .ok ⟨count.toNat, by omega⟩
    else refuse (.iterationsOutOfRange count greatestIterations)
  | value => refuse (.iterationsNotWhole value)

/-- The growth that a start word and a number of passes stand for.  The start word is checked
first. -/
def checkGrowth (start iterations : Value) : Except Failure Growth :=
  match start with
  | .text start =>
    match checkIterations iterations with
    | .ok passes => .ok ⟨start.toList, passes.1, passes.2⟩
    | .error failure => .error failure
  | value => refuse (.startNotText value)

namespace Settings

variable {R : Type}

/-- What the branches are moved under once they are placed: the owner, or else the parent they were
made under. -/
def destination (settings : Settings R) : Option R :=
  match settings.owner with
  | some owner => some owner
  | none => settings.parent

/-- Check the start word and the number of passes. -/
def validate (settings : Settings R) : Except Failure Growth :=
  checkGrowth settings.start settings.iterations

end Settings
end Arbor
