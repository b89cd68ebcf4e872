import Arbor.Tree.Growing

/-!
# Groves

A grove is several trees that share the state of their scenes and one log.  What is done to one
tree leaves the other trees as they are; whether it also leaves their objects alone is a matter of
the scene.
-/

namespace Arbor

/-- Trees with the state of the scenes they stand in. -/
structure Grove (σ H R J : Type) where
  scene : σ
  log : Log := #[]
  trees : List (Tree H R J) := []

namespace Grove

variable {σ H R J α : Type}

/-- An action on the state of the scenes. -/
def onScene (act : Act σ α) : Act (Grove σ H R J) α :=
  act.within fun ⟨scene, log, trees⟩ => (scene, fun scene => ⟨scene, log, trees⟩)

/-- An action on one of the trees. -/
def onTree (number : Nat) (act : Act (Plot σ H R J) α) : Act (Grove σ H R J) α :=
  fun ⟨scene, log, trees⟩ =>
    match trees[number]? with
    | none => .error ⟨.noEntry, [], []⟩ ⟨scene, log, trees⟩
    | some tree =>
      match act ⟨scene, log, tree⟩ with
      | .ok value ⟨scene, log, tree⟩ => .ok value ⟨scene, log, trees.set number tree⟩
      | .error failure ⟨scene, log, tree⟩ => .error failure ⟨scene, log, trees.set number tree⟩

/-- Put one more tree behind the others. -/
def plant (tree : Tree H R J) (grove : Grove σ H R J) : Grove σ H R J :=
  { grove with trees := grove.trees ++ [tree] }

end Grove
end Arbor
