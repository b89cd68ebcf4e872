import Arbor.Tree

/-!
# Taking a failed tree back

When a tree fails half way, the objects it has already made are taken back.  Unlike clearing, this
tries every object, whether or not an earlier one could be removed, and registers none of them any
longer.  The failure that is passed on is the one the tree failed for.  If some object could not be
removed, that is reported and becomes the context of this failure.  An interruption is not held up:
nothing is taken back after one, and one that strikes meanwhile is passed on at once.
-/

namespace Arbor

/-- The objects that could not be removed: how many there are, and why the first was not. -/
structure Losses where
  failed : Nat := 0
  first : Option Failure := none

/-- One more object that could not be removed. -/
def Losses.add (losses : Losses) (failure : Failure) : Losses :=
  ⟨losses.failed + 1, some (losses.first.getD failure)⟩

namespace Plot

variable {σ H R J : Type}

/-- Try to remove every one of some objects, and count the losses. -/
def removeEach (scene : Scene σ H R) : List H → Losses → Act (Plot σ H R J) Losses
  | [], losses => pure losses
  | handle :: handles, losses => fun plot =>
    match sceneCall .destroy (scene.destroy handle) plot with
    | .ok () plot => removeEach scene handles losses plot
    | .error failure plot =>
      if failure.kind = .scene then removeEach scene handles (losses.add failure) plot
      else .error failure plot

/-- Take back all objects of a tree. -/
def takeBack (scene : Scene σ H R) : Act (Plot σ H R J) Unit := do
  let branches := (← get).tree.branches
  change fun tree => (tree.keep []).forget
  let losses ← removeEach scene branches {}
  match losses.first with
  | none => pure ()
  | some first => throw (first.raisedFrom (.leftBehind losses.failed branches.length))

/-- Report that a tree failed, take it back, and give the failure to pass on. -/
def recover (scene : Scene σ H R) (failure : Failure) : Act (Plot σ H R J) Failure := do
  onLog (report [.abandoned (← get).tree.branches.length])
  fun plot =>
    match takeBack scene plot with
    | .ok () plot => .ok failure plot
    | .error loss plot =>
      if loss.kind = .scene then
        (onLog (report [.leftInScene loss.reason]) *> pure (failure.during loss)) plot
      else .error (loss.during failure) plot

/-- Do something that is taken back if it fails. -/
def orTakenBack (scene : Scene σ H R) (act : Act (Plot σ H R J) Unit) :
    Act (Plot σ H R J) Unit := fun plot =>
  match act plot with
  | .ok () plot => .ok () plot
  | .error failure plot =>
    if failure.recoverable then (recover scene failure >>= throw) plot
    else .error failure plot

end Plot
end Arbor
