import Arbor.Branch
import Arbor.Rules.Expansion
import Arbor.Scene
import Arbor.Settings
import Arbor.Turtle

/-!
# Trees

A `Tree` remembers what it was last grown from and registers the handle of every object that it has
made in a scene and that has not been taken from there again.  A `Plot` is one tree with the scene
it stands in and the log to which it reports; growing and clearing a tree are actions on a plot.
-/

namespace Arbor

open Space

/-- A tree: its settings, the source of its sways, what it was grown from, and its objects in the
order in which they were made. -/
structure Tree (H R J : Type) where
  settings : Settings R := {}
  jitter : J
  rules : Option Rules.Table := none
  expanded : List Char := []
  points : Array (Pose Float32 Float) := #[]
  descriptors : List (Branch Float32 Float) := []
  branches : List H := []

namespace Tree

variable {H R J : Type}

/-- Forget what the tree was grown from.  Its objects stay registered. -/
def forget (tree : Tree H R J) : Tree H R J :=
  { tree with rules := none, expanded := [], points := #[], descriptors := [] }

/-- Register one more object. -/
def register (handle : H) (tree : Tree H R J) : Tree H R J :=
  { tree with branches := tree.branches ++ [handle] }

/-- Register other objects instead. -/
def keep (handles : List H) (tree : Tree H R J) : Tree H R J := { tree with branches := handles }

end Tree

/-- A tree in its scene, with the log of what is done to it. -/
structure Plot (σ H R J : Type) where
  scene : σ
  log : Log := #[]
  tree : Tree H R J

namespace Plot

variable {σ H R J α : Type}

/-- Change the tree. -/
def change (f : Tree H R J → Tree H R J) : Act (Plot σ H R J) Unit :=
  modify fun plot => { plot with tree := f plot.tree }

/-- An action on the log. -/
def onLog (act : Act Log α) : Act (Plot σ H R J) α :=
  act.within fun ⟨scene, log, tree⟩ => (log, fun log => ⟨scene, log, tree⟩)

/-- An action on the settings. -/
def onSettings (act : Act (Settings R) α) : Act (Plot σ H R J) α :=
  act.within fun ⟨scene, log, tree⟩ =>
    (tree.settings, fun settings => ⟨scene, log, { tree with settings := settings }⟩)

/-- An action on the source of the sways. -/
def onJitter (act : Act J α) : Act (Plot σ H R J) α :=
  act.within fun ⟨scene, log, tree⟩ =>
    (tree.jitter, fun jitter => ⟨scene, log, { tree with jitter := jitter }⟩)

end Plot

/-- How a failure of a scene looks to whoever called it: a failure that a scene raised on its own
account, and an interruption, are passed on; any other becomes the cause of a failed call. -/
def Failure.ofSceneCall (failure : Failure) (action : SceneAction) : Failure :=
  if failure.kind = .scene ∨ failure.recoverable = false then failure
  else failure.raisedFrom (.callFailed action failure.message)

namespace Plot

variable {σ H R J α : Type}

/-- Ask something of the scene. -/
def sceneCall (action : SceneAction) (act : Act σ α) : Act (Plot σ H R J) α :=
  fun ⟨scene, log, tree⟩ =>
    match act scene with
    | .ok value scene => .ok value ⟨scene, log, tree⟩
    | .error failure scene => .error (failure.ofSceneCall action) ⟨scene, log, tree⟩

/-- Make the object of a branch: register it as soon as it is there, then place it, then move it to
where it belongs. -/
def createBranch (scene : Scene σ H R) (branch : Branch Float32 Float) :
    Act (Plot σ H R J) H := do
  let settings := (← get).tree.settings
  let handle ← sceneCall .instantiate (scene.instantiate settings.prefab settings.parent)
  change (Tree.register handle)
  let turns ← Act.lift branch.turns
  sceneCall .transform (scene.setTransform handle branch.position turns branch.scale)
  sceneCall .reparent (scene.reparent handle settings.destination)
  return handle

/-- Make the objects of branches, one after the other. -/
def createBranches (scene : Scene σ H R) : List (Branch Float32 Float) → Act (Plot σ H R J) Unit
  | [] => pure ()
  | branch :: branches => do
    discard (createBranch scene branch)
    createBranches scene branches

/-- Remove registered objects from the scene, from first to last.  An object stays registered until
the scene has removed it, so what is left after a failure can be removed later. -/
def removeAll (scene : Scene σ H R) : List H → Act (Plot σ H R J) Unit
  | [] => pure ()
  | handle :: handles => do
    sceneCall .destroy (scene.destroy handle)
    change (Tree.keep handles)
    removeAll scene handles

/-- Forget what the tree was grown from and remove its objects. -/
def clear (scene : Scene σ H R) : Act (Plot σ H R J) Unit := do
  change Tree.forget
  removeAll scene (← get).tree.branches

end Plot
end Arbor
