import Arbor.Document.Renderer
import Arbor.Text.Order
import Arbor.Tree.Grove

/-!
# Planting trees in a document

A tree is planted with a root of its own and a renderer of its own, and grown at once.  If it cannot
be grown there is no tree, but its root stays.  `plantSamples` plants the two trees by which a
document shows what the library does.
-/

namespace Arbor
namespace Document

/-- The trees that are grown in a document. -/
abbrev Garden := Grove Document Nat Reference Jitter

/-- What a tree is planted with, where the standard is not wanted. -/
structure Seedling where
  start : Value := .text standardStart
  iterations : Value := .int 3
  location : List Float32 := [0, 0, 0]
  seed : Int := 0
  prefab : Option Reference := none

/-- A tree that has been planted: its root, and the renderer it uses. -/
structure Planted where
  root : Nat
  renderer : Nat

/-- Plant a tree and grow it.  It becomes the last tree of the garden. -/
def plant (seedling : Seedling) : Act Garden Planted := do
  let root ← Grove.onScene (makeRoot rootName seedling.location)
  let settings : Settings Reference :=
    { start := seedling.start
      iterations := seedling.iterations
      prefab := seedling.prefab
      parent := some (.object root) }
  let renderer ← Grove.onScene addRenderer
  let number := (← get).trees.length
  fun garden =>
    let planted := garden.plant { settings := settings, jitter := .ofSeed seedling.seed }
    match (Grove.onTree number (Plot.regenerate (scene renderer) none none)) planted with
    | .ok () grown => .ok ⟨root, renderer⟩ grown
    | .error failure grown => .error failure { grown with trees := grown.trees.take number }

/-- The two sample trees. -/
def samples : List Seedling :=
  [{ seed := 1 }, { iterations := .int 4, location := [10, 0, 0], seed := 2 }]

/-- Plant the sample trees.  They stay in the document, but not among the trees of the garden. -/
def plantSamples : Act Garden Unit := do
  let trees := (← get).trees
  samples.forM fun seedling => discard (plant seedling)
  modify fun garden => { garden with trees := trees }

/-- The number of objects under an object. -/
def childCount (document : Document) (id : Nat) : Nat :=
  (document.present.filter fun object => object.parent = some id).length

/-- The numbers of the objects that show no mesh, by name. -/
def bareObjects (document : Document) : List Nat :=
  let bare := (List.range document.objects.size).filterMap fun id =>
    (document.objects[id]?).bind fun object =>
      if object.removed || object.mesh.isSome then none else some (id, object.name.toList)
  (bare.mergeSort fun a b => Text.notAfter a.2 b.2).map Prod.fst

end Document
end Arbor
