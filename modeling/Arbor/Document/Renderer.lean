import Arbor.Document.Prefab
import Arbor.Modeller.Renderer

/-!
# Documents as those of a modeller

The documents here are those of one modeller, except for one question that is left open: how the
components of a location, a rotation or a scale are kept.  The program keeps them as they are, apart
from infinite ones, which it moves into the range of the finite numbers.  A document knows the
prefab of every renderer that works on it.
-/

namespace Arbor
namespace Document

open Number Space

/-- The modeller whose documents keep components as the function says. -/
def modeller (kept : Float32 → Float32) : Modeller Document Nat Reference where
  Home := Collection
  Mesh := Nat
  object := .object
  written := written
  addMesh := addMesh
  shapeMesh := shapeMesh
  addObject name mesh := addObject { name := name, mesh := mesh }
  copy := copy
  homes := homes
  activeHome := pure .scene
  link := link
  setParent := setParent
  setLocation := setLocation kept
  setOrder := setOrder
  setRotation := setRotation kept
  setScale := setScale kept
  remove := remove

export Modeller (prefabName prefabSegments rootName)

/-- Make a prefab. -/
def makePrefab : String → Nat → Act Document Nat := (modeller finiteSingle).makePrefab

/-- Make a root for a tree. -/
def makeRoot : String → List Float32 → Act Document Nat := (modeller finiteSingle).makeRoot

/-- Add a renderer that has no prefab yet. -/
def addRenderer : Act Document Nat := fun document =>
  .ok document.prefabs.length { document with prefabs := document.prefabs ++ [none] }

/-- An action on what a renderer works with. -/
def asRenderer {α : Type} (renderer : Nat) (act : Act (Workshop Document Nat) α) :
    Act Document α :=
  act.within fun document =>
    (⟨document, document.prefabs.getD renderer none⟩, fun workshop =>
      { workshop.document with
        prefabs := workshop.document.prefabs.set renderer workshop.prefab })

/-- Make an object from a prefab, or from the renderer's own. -/
def instantiate (renderer : Nat) (prefab parent : Option Reference) : Act Document Nat :=
  asRenderer renderer ((modeller finiteSingle).instantiate prefab parent)

/-- Place, turn and scale an object. -/
def setTransform : Reference → Vec Float32 → Turns Float32 → Vec Float32 → Act Document Unit :=
  (modeller finiteSingle).setTransform

/-- Put an object under another parent. -/
def reparent : Reference → Option Reference → Act Document Unit :=
  (modeller finiteSingle).reparent

/-- Remove an object. -/
def destroy : Reference → Act Document Unit := (modeller finiteSingle).destroy

/-- The scene that a renderer works on. -/
def scene (renderer : Nat) : Scene Document Nat Reference :=
  let workshop := (modeller finiteSingle).scene
  { instantiate := instantiate renderer
    setTransform := fun id position rotation scale =>
      asRenderer renderer (workshop.setTransform id position rotation scale)
    reparent := fun id parent => asRenderer renderer (workshop.reparent id parent)
    destroy := fun id => asRenderer renderer (workshop.destroy id) }

end Document
end Arbor
