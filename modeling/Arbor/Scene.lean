import Arbor.Act
import Arbor.Space.Rotation

/-!
# Scenes

A scene owns the visible objects of trees.  Whoever grows a tree needs four things of a scene and
no more, and a `Scene` is these four, as actions on the state in which the scene keeps its objects.
`H` is the type of the handles by which it names objects, `R` that of the things it takes as
prefabs and parents.
-/

namespace Arbor

open Space

/-- What can be done with the objects of a scene.  Any of it may fail, before or after it has had
an effect. -/
structure Scene (σ H R : Type) where
  /-- Make an object from a prefab under a parent. -/
  instantiate (prefab parent : Option R) : Act σ H
  /-- Place, turn and scale an object. -/
  setTransform (handle : H) (position : Vec Float32) (rotation : Turns Float32)
    (scale : Vec Float32) : Act σ Unit
  /-- Move an object under another parent. -/
  reparent (handle : H) (parent : Option R) : Act σ Unit
  /-- Remove an object. -/
  destroy (handle : H) : Act σ Unit

end Arbor
