import Arbor.Modeller

/-!
# Scenes in a modeller

A renderer makes the objects of trees in a document, as copies of a prefab.  When no prefab is given
it uses its own, which it makes once.  What the modeller refuses is raised again as a failure of the
scene that shows the object concerned; other failures, such as that of a text used as an object or
of a location that is not one of space, pass through.
-/

namespace Arbor

open Number Space

/-- What a renderer works with: the document, and the prefab that it has made for itself, if it
has. -/
structure Workshop (δ H : Type) where
  document : δ
  prefab : Option H := none

/-- An action on the document alone. -/
def Workshop.onDocument {δ H α : Type} (act : Act δ α) : Act (Workshop δ H) α :=
  act.within fun ⟨document, prefab⟩ => (document, fun document => ⟨document, prefab⟩)

namespace Modeller

/-- The name of a prefab when none is given. -/
def prefabName : String := "branch_prefab"

/-- The number of segments of a prefab when none is given. -/
def prefabSegments : Nat := 12

/-- The name of a root when none is given. -/
def rootName : String := "lsystem_tree"

/-- Whether a failure means that a modeller refused an object. -/
def isRefusal (failure : Failure) : Bool :=
  failure.kind.isA .runtime || failure.kind = .stale || failure.kind = .type

variable {δ H R α : Type} (modeller : Modeller δ H R)

/-- Make a prefab: a mesh, and an object that shows it and is listed nowhere. -/
def makePrefab (name : String) (segments : Nat) : Act δ H := do
  let mesh ← modeller.addMesh (name ++ "_data")
  modeller.shapeMesh mesh segments
  modeller.addObject name (some mesh)

/-- Make a root for a tree and list it.  The tree grows along the second axis, and the root is
turned so that it stands upright.  A root that cannot be placed is there, but listed nowhere. -/
def makeRoot (name : String) (location : List Float32) : Act δ H := do
  let root ← modeller.addObject name none
  modeller.setLocation (modeller.object root) location
  modeller.setRotation (modeller.object root)
    [Component.store (Wide.radians (90.0 : Float)), 0, 0]
  modeller.link (← modeller.activeHome) root
  return root

/-- Do something with an object, and say so if the modeller refuses it. -/
def orRefused (action : SceneAction) (reference : R) (act : Act δ α) : Act δ α := fun document =>
  match act document with
  | .ok value document => .ok value document
  | .error failure document =>
    if isRefusal failure then
      .error (failure.raisedFrom (.refused action (modeller.written document reference))) document
    else .error failure document

/-- The home in which something under the given parent is listed: the first one of the parent, or
else the one for new objects. -/
def homeUnder : Option R → Act δ modeller.Home
  | none => modeller.activeHome
  | some parent => do
    match ← modeller.homes parent with
    | home :: _ => return home
    | [] => modeller.activeHome

/-- Copy a prefab, list the copy where its parent is listed, and put it under the parent.  The copy
stays in the document even if the rest fails. -/
def place (prefab : R) (parent : Option R) : Act δ H := do
  let handle ← modeller.copy prefab
  modeller.link (← modeller.homeUnder parent) handle
  modeller.setParent (modeller.object handle) parent
  return handle

/-- The prefab of the renderer's own, made when it is first asked for. -/
def ownPrefab : Act (Workshop δ H) H := do
  match (← get).prefab with
  | some prefab => return prefab
  | none =>
    let prefab ← Workshop.onDocument (modeller.makePrefab prefabName prefabSegments)
    modify fun workshop => { workshop with prefab := some prefab }
    return prefab

/-- The prefab that is given, or else the renderer's own. -/
def prefabOr : Option R → Act (Workshop δ H) R
  | some prefab => pure prefab
  | none => modeller.object <$> modeller.ownPrefab

/-- Make an object from a prefab, or from the renderer's own. -/
def instantiate (prefab parent : Option R) : Act (Workshop δ H) H := do
  let prefab ← modeller.prefabOr prefab
  Workshop.onDocument (modeller.orRefused .instantiate prefab (modeller.place prefab parent))

/-- Place, turn and scale an object, in this order; what was set before a failure stays set. -/
def setTransform (reference : R) (position : Vec Float32) (rotation : Turns Float32)
    (scale : Vec Float32) : Act δ Unit :=
  modeller.orRefused .transform reference do
    modeller.setLocation reference position.toList
    modeller.setOrder reference rotation.order
    modeller.setRotation reference rotation.toList
    modeller.setScale reference scale.toList

/-- Put an object under another parent. -/
def reparent (reference : R) (parent : Option R) : Act δ Unit :=
  modeller.orRefused .reparent reference (modeller.setParent reference parent)

/-- Remove an object. -/
def destroy (reference : R) : Act δ Unit :=
  modeller.orRefused .destroy reference (modeller.remove reference)

/-- The scene that a renderer works on. -/
def scene : Scene (Workshop δ H) H R where
  instantiate := modeller.instantiate
  setTransform handle position rotation scale :=
    Workshop.onDocument (modeller.setTransform (modeller.object handle) position rotation scale)
  reparent handle parent := Workshop.onDocument (modeller.reparent (modeller.object handle) parent)
  destroy handle := Workshop.onDocument (modeller.destroy (modeller.object handle))

end Modeller
end Arbor
