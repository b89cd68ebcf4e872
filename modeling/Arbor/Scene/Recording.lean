import Arbor.Scene

/-!
# Scenes that record

A recording scene keeps every object in memory and shows nothing.  Several such scenes stand side
by side in a `Theatre`, which holds the objects ever made on any of them: a handle names one of
these objects for good, and each stage knows which of them are live on it and how many it has made.
A stage deals only with its own live objects.  An object that has been destroyed is refused as such
on every stage; everything else that is not live on the stage is unknown to it.
-/

namespace Arbor
namespace Recording

open Space

/-- An object made by a scene.  Its index counts the objects made by the same stage before it. -/
structure Item where
  index : Nat
  prefab : Option Value
  parent : Option Value
  location : Vec Float32 := .spatial 0 0 0
  rotation : Turns Float32 := ⟨0, 0, 0, .zxy⟩
  scale : Vec Float32 := .spatial 1 1 1
  destroyed : Bool := false

/-- What one scene keeps: its live objects in the order in which they were made, and how many it
has made. -/
structure Stage where
  live : List Nat := []
  created : Nat := 0

/-- Scenes side by side, and all objects ever made on them. -/
structure Theatre where
  items : Array Item := #[]
  stages : List Stage

/-- What is given as a handle: the number of an object, or some value that is none. -/
inductive Handle where
  | item (id : Nat)
  | other (value : Value)

/-- What is given to place, turn or scale an object: a vector, turns, or mere components. -/
inductive Given where
  | vector (value : Vec Float32)
  | turns (value : Turns Float32)
  | components (values : List Float32)

namespace Given

/-- The components of what is given, in their order. -/
def toList : Given → List Float32
  | vector value => value.toList
  | turns value => value.toList
  | components values => values

/-- What is given, as a vector.  Of mere components there must be two. -/
def toVec (given : Given) : Except Failure (Vec Float32) := Vec.ofList given.toList

/-- What is given, as turns.  Nothing else says in which order to turn. -/
def toTurns : Given → Except Failure (Turns Float32)
  | turns value => .ok value
  | vector _ => refuse (.lacks "Vector" "order")
  | components _ => refuse (.lacks "list" "order")

end Given

/-- The written form of a sequence of components. -/
def writtenComponents (components : List Float32) : String :=
  "(" ++ ", ".intercalate (components.map fun c => Number.realText (Number.widen c)) ++ ")"

/-- The written form of a reference, which may be missing. -/
def writtenReference : Option Value → String
  | some value => value.written
  | none => Value.null.written

namespace Item

/-- The written form of an object. -/
def written (item : Item) : String :=
  "RecordedBranch(index=" ++ toString item.index ++ ", prefab=" ++ writtenReference item.prefab
    ++ ", parent=" ++ writtenReference item.parent
    ++ ", location=Vector(" ++ writtenComponents item.location.toList
    ++ "), rotation=Euler(" ++ writtenComponents item.rotation.toList
    ++ ", '" ++ item.rotation.order.letters
    ++ "'), scale=Vector(" ++ writtenComponents item.scale.toList
    ++ "), destroyed=" ++ (Value.flag item.destroyed).written ++ ")"

end Item

namespace Theatre

/-- So many stages without any object. -/
def ofStages (count : Nat) : Theatre where
  stages := List.replicate count {}

/-- What a stage keeps.  A stage that is not there keeps nothing. -/
def stage (theatre : Theatre) (number : Nat) : Stage := theatre.stages.getD number {}

/-- Change what a stage keeps. -/
def updateStage (number : Nat) (change : Stage → Stage) (theatre : Theatre) : Theatre :=
  { theatre with stages := theatre.stages.modify number change }

/-- Change an object. -/
def updateItem (id : Nat) (change : Item → Item) (theatre : Theatre) : Theatre :=
  { theatre with items := theatre.items.modify id change }

/-- The object a handle names, if it is live on the stage. -/
def checkLive (number : Nat) (handle : Handle) : Act Theatre Nat := fun theatre =>
  match handle with
  | .other value => .error ⟨.unknownHandle value.written, [], []⟩ theatre
  | .item id =>
    match theatre.items[id]? with
    | none => .error ⟨.unknownHandle (toString id), [], []⟩ theatre
    | some item =>
      if item.destroyed then .error ⟨.alreadyDestroyed item.index, [], []⟩ theatre
      else if id ∈ (theatre.stage number).live then .ok id theatre
      else .error ⟨.unknownHandle item.written, [], []⟩ theatre

/-- Make an object on a stage, at the end of its live ones. -/
def instantiate (number : Nat) (prefab parent : Option Value) : Act Theatre Nat := fun theatre =>
  let id := theatre.items.size
  let index := (theatre.stage number).created
  let item : Item := { index := index, prefab := prefab, parent := parent }
  let enter (stage : Stage) : Stage := ⟨stage.live ++ [id], stage.created + 1⟩
  .ok id (updateStage number enter { theatre with items := theatre.items.push item })

/-- Place, turn and scale an object, in this order.  What is given is brought into form only when it
is its turn to be set, and what was set before a refusal stays set. -/
def transform (number : Nat) (handle : Handle) (location rotation scale : Given) :
    Act Theatre Unit := do
  let id ← checkLive number handle
  let location ← Act.lift location.toVec
  modify (updateItem id fun item => { item with location := location })
  let rotation ← Act.lift rotation.toTurns
  modify (updateItem id fun item => { item with rotation := rotation })
  let scale ← Act.lift scale.toVec
  modify (updateItem id fun item => { item with scale := scale })

/-- Place, turn and scale an object, with the components of its place and of its scale. -/
def setTransform (number : Nat) (handle : Handle) (location : List Float32)
    (rotation : Turns Float32) (scale : List Float32) : Act Theatre Unit :=
  transform number handle (.components location) (.turns rotation) (.components scale)

/-- Move an object under another parent. -/
def reparent (number : Nat) (handle : Handle) (parent : Option Value) : Act Theatre Unit := do
  let id ← checkLive number handle
  modify (updateItem id fun item => { item with parent := parent })

/-- Remove an object from its stage. -/
def destroy (number : Nat) (handle : Handle) : Act Theatre Unit := do
  let id ← checkLive number handle
  modify (updateItem id fun item => { item with destroyed := true })
  modify (updateStage number fun stage => { stage with live := stage.live.erase id })

/-- The scene on a stage. -/
def scene (number : Nat) : Scene Theatre Nat Value where
  instantiate := instantiate number
  setTransform id position rotation scale :=
    setTransform number (.item id) position.toList rotation scale.toList
  reparent id := reparent number (.item id)
  destroy id := destroy number (.item id)

/-- The live objects of a stage. -/
def liveItems (theatre : Theatre) (number : Nat) : List Item :=
  (theatre.stage number).live.filterMap fun id => theatre.items[id]?

end Theatre
end Recording
end Arbor
