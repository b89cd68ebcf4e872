import Arbor.Document.Register
import Arbor.Scene

/-!
# Documents of objects

A document holds objects, the meshes that they show, and the collections in which they are listed.
An object lies in one collection or in none; copying it copies everything but that, and the copy
shows the same mesh.  An object that has been removed is never used again, and whatever is done
with it fails; its children lose their parent, and its mesh stays.  What is used as an object may
also be a mere text, which has none of the parts of one.  Names are those that the registers of the
document give, one register for each kind of thing.
-/

namespace Arbor

open Number Space

/-- Where the objects of a document are listed: directly in its scene, or in a named
collection. -/
inductive Collection where
  | scene
  | named (name : String)
  deriving DecidableEq, Repr

/-- What shows as a branch: a closed cylinder round the second axis, of radius one and height
two. -/
structure Mesh where
  name : String
  segments : Nat

/-- An object of a document. -/
structure Object where
  name : String
  mesh : Option Nat := none
  parent : Option Nat := none
  location : Vec Float32 := .spatial 0 0 0
  rotation : Turns Float32 := ⟨0, 0, 0, .xyz⟩
  scale : Vec Float32 := .spatial 1 1 1
  home : Option Collection := none
  removed : Bool := false

/-- All objects ever made, the meshes, the names in use, and the default prefab of every renderer
that works on the document. -/
structure Document where
  objects : Array Object := #[]
  meshes : Array Mesh := #[]
  objectNames : Document.Register := {}
  meshNames : Document.Register := {}
  collectionNames : Document.Register := {}
  prefabs : List (Option Nat) := []

/-- What is used as an object. -/
inductive Reference where
  | object (id : Nat)
  | text (value : String)
  deriving DecidableEq, Repr

namespace Document

/-- The objects that have not been removed. -/
def present (document : Document) : List Object :=
  document.objects.toList.filter fun object => !object.removed

/-- Change an object. -/
def update (id : Nat) (change : Object → Object) (document : Document) : Document :=
  { document with objects := document.objects.modify id change }

/-- Add an object under the name that its own is entered as. -/
def addObject (object : Object) : Act Document Nat := fun document =>
  let (name, names) := document.objectNames.enter "Object" object.name
  .ok document.objects.size
    { document with
      objects := document.objects.push { object with name := name }
      objectNames := names }

/-- Add an empty mesh under the name that its own is entered as. -/
def addMesh (name : String) : Act Document Nat := fun document =>
  let (name, names) := document.meshNames.enter "Mesh" name
  .ok document.meshes.size
    { document with
      meshes := document.meshes.push ⟨name, 0⟩
      meshNames := names }

/-- Give a mesh the shape of a branch. -/
def shapeMesh (mesh segments : Nat) : Act Document Unit :=
  modify fun document =>
    { document with
      meshes := document.meshes.modify mesh fun mesh => { mesh with segments := segments } }

/-- Enter the name of a collection. -/
def addCollection (name : String) : Act Document Collection := fun document =>
  let (name, names) := document.collectionNames.enter "Collection" name
  .ok (.named name) { document with collectionNames := names }

/-- Why a text that is used as an object fails: it has none of the parts of one. -/
def textLacks (part : String) : Reason := .lacks (Value.text "").typeName part

/-- The object that is meant, if it has not been removed.  A text fails for the given reason. -/
def resolve (reference : Reference) (ifText : Reason) : Act Document (Nat × Object) :=
  fun document =>
    match reference with
    | .text _ => .error ⟨ifText, [], []⟩ document
    | .object id =>
      match document.objects[id]? with
      | none => .error ⟨.removedObject, [], []⟩ document
      | some object =>
        if object.removed then .error ⟨.removedObject, [], []⟩ document
        else .ok (id, object) document

/-- The written form of what is used as an object. -/
def written (document : Document) : Reference → String
  | .text value => Text.quoted value
  | .object id =>
    match document.objects[id]? with
    | none => "<bpy_struct, Object invalid>"
    | some object =>
      if object.removed then "<bpy_struct, Object invalid>"
      else "bpy.data.objects[" ++ Text.quoted object.name ++ "]"

/-- Copy an object.  The copy is listed nowhere. -/
def copy (reference : Reference) : Act Document Nat := do
  let (_, object) ← resolve reference (textLacks "copy")
  addObject { object with home := none }

/-- The collection in which an object lies, if it lies in one. -/
def homes (reference : Reference) : Act Document (List Collection) := do
  let (_, object) ← resolve reference (textLacks "users_collection")
  return object.home.toList

/-- Assign to a part of an object, unless what is assigned does not do. -/
def assign (part : String) (reference : Reference) (change : Object → Except Failure Object) :
    Act Document Unit := do
  let (id, object) ← resolve reference (textLacks part)
  let changed ← Act.lift (change object)
  modify (update id fun _ => changed)

/-- Put an object into a collection. -/
def link (home : Collection) (id : Nat) : Act Document Unit :=
  assign "users_collection" (.object id) fun object => .ok { object with home := some home }

/-- Whether an object is one of the parents of another, or that one itself; at most so many steps
upwards are looked at. -/
def isAbove (document : Document) (id : Nat) : Nat → Nat → Bool
  | 0, _ => false
  | steps + 1, other =>
    other == id ||
      match (document.objects[other]?).bind Object.parent with
      | none => false
      | some parent => document.isAbove id steps parent

/-- Put an object under a parent.  An object cannot be its own parent, and one that would be its own
ancestor is left without a parent. -/
def setParent (child : Reference) (parent : Option Reference) : Act Document Unit := do
  let (id, _) ← resolve child (textLacks "parent")
  match parent with
  | none => modify (update id fun object => { object with parent := none })
  | some reference =>
    let (above, _) ← resolve reference .textAsParent
    if above = id then throw ⟨.ownParent, [], []⟩
    let circular := (← get).isAbove id (← get).objects.size above
    modify (update id fun object =>
      { object with parent := if circular then none else some above })

/-- Something made of three components that are kept as the function says.  There have to be three
of them. -/
def threeItems {α : Type} (kept : Float32 → Float32) (make : Float32 → Float32 → Float32 → α) :
    List Float32 → Except Failure α
  | [x, y, z] => .ok (make (kept x) (kept y) (kept z))
  | other => refuse (.notThreeItems other.length)

/-- Place an object. -/
def setLocation (kept : Float32 → Float32) (reference : Reference) (components : List Float32) :
    Act Document Unit :=
  assign "location" reference fun object =>
    threeItems kept (fun x y z => { object with location := .spatial x y z }) components

/-- Say in which order an object is turned.  Its angles stay what they are. -/
def setOrder (reference : Reference) (order : AxisOrder) : Act Document Unit :=
  assign "rotation_mode" reference fun object =>
    .ok { object with rotation := { object.rotation with order := order } }

/-- Turn an object, in the order in which it is turned already. -/
def setRotation (kept : Float32 → Float32) (reference : Reference) (components : List Float32) :
    Act Document Unit :=
  assign "rotation_euler" reference fun object =>
    threeItems kept (fun x y z => { object with rotation := ⟨x, y, z, object.rotation.order⟩ })
      components

/-- Scale an object. -/
def setScale (kept : Float32 → Float32) (reference : Reference) (components : List Float32) :
    Act Document Unit :=
  assign "scale" reference fun object =>
    threeItems kept (fun x y z => { object with scale := .spatial x y z }) components

/-- Remove an object.  Its children have no parent any longer, and its name is free again. -/
def remove (reference : Reference) : Act Document Unit := do
  let (id, removed) ← resolve reference .textToRemove
  let orphaned (object : Object) : Object :=
    if object.parent = some id then { object with parent := none } else object
  modify fun document =>
    { document with
      objects := document.objects.map orphaned
      objectNames := document.objectNames.leave removed.name }
  modify (update id fun object => { object with removed := true, home := none })

/-- List an object in a collection of its own, and nowhere else. -/
def collect (reference : Reference) (name : String) : Act Document Unit := do
  let (id, _) ← resolve reference (textLacks "users_collection")
  let home ← addCollection name
  modify (update id fun object => { object with home := some home })

/-- List an object nowhere. -/
def unlink (reference : Reference) : Act Document Unit :=
  assign "users_collection" reference fun object => .ok { object with home := none }

end Document
end Arbor
