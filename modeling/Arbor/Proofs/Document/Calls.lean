import Arbor.Document.Renderer
import Arbor.Proofs.Act

/-!
# What calls do to a document

An object that is used is looked up first, and a call on something that is no object of the document
fails without an effect.  Apart from that a call adds an object behind all others, changes one
object that stays, or removes one and takes it from above its children.
-/

namespace Arbor
namespace Document

variable {document before after : Document} {id : Nat} {object : Object} {reference : Reference}
  {change : Object → Object}

/-- An object that is in the document and has not been removed. -/
def Live (document : Document) (id : Nat) : Prop :=
  ∃ object, document.objects[id]? = some object ∧ object.removed = false

theorem Live.inside (live : document.Live id) : id < document.objects.size := by
  rcases live with ⟨object, found, -⟩
  exact (Array.getElem?_eq_some_iff.mp found).1

/-! ## Looking an object up -/

theorem resolve_of_live (found : document.objects[id]? = some object)
    (stands : object.removed = false) (ifText : Reason) :
    resolve (.object id) ifText document = .ok (id, object) document := by
  simp only [resolve, found, stands, Bool.false_eq_true, if_false]

/-- An object is found if it is in the document, and looking it up changes nothing. -/
theorem resolve_cases (reference : Reference) (ifText : Reason) (document : Document) :
    (∃ id object, reference = .object id ∧ document.objects[id]? = some object ∧
      object.removed = false ∧ resolve reference ifText document = .ok (id, object) document) ∨
    ∃ failure, resolve reference ifText document = .error failure document := by
  cases reference with
  | text value => exact Or.inr ⟨_, rfl⟩
  | object id =>
    cases found : document.objects[id]? with
    | none => exact Or.inr ⟨⟨.removedObject, [], []⟩, by simp only [resolve, found]⟩
    | some object =>
      cases flag : object.removed with
      | false => exact Or.inl ⟨id, object, rfl, found, flag, resolve_of_live found flag ifText⟩
      | true =>
        exact Or.inr ⟨⟨.removedObject, [], []⟩, by simp only [resolve, found, flag, if_true]⟩

theorem resolve_keeps (property : Document → Prop) (reference : Reference) (ifText : Reason) :
    Act.Keeps property (resolve reference ifText) := by
  intro document holds
  rcases resolve_cases reference ifText document with ⟨_, _, -, -, -, run⟩ | ⟨failure, run⟩
  · rwa [Act.reached_of_ok run]
  · rwa [Act.reached_of_error run]

/-! ## Objects that change -/

theorem update_objects (id : Nat) (change : Object → Object) (document : Document) (other : Nat) :
    (document.update id change).objects[other]? =
      if id = other then (document.objects[other]?).map change else document.objects[other]? := by
  simp only [update, Array.getElem?_modify]

/-- No object comes or goes by a change that does not remove its object. -/
theorem update_live (stays : ∀ object, document.objects[id]? = some object →
      (change object).removed = object.removed) (other : Nat) :
    (document.update id change).Live other ↔ document.Live other := by
  unfold Live
  rw [update_objects]
  split
  · rename_i same
    subst same
    constructor
    · rintro ⟨_, found, stands⟩
      rcases Option.map_eq_some_iff.mp found with ⟨object, there, rfl⟩
      exact ⟨object, there, (stays object there).symm.trans stands⟩
    · rintro ⟨object, there, stands⟩
      exact ⟨_, congrArg (Option.map change) there, (stays object there).trans stands⟩
  · rfl

theorem assign_of_live (found : document.objects[id]? = some object)
    (stands : object.removed = false) (part : String) {assigns : Object → Except Failure Object}
    {changed : Object} (fits : assigns object = .ok changed) :
    assign part (.object id) assigns document =
      .ok () (document.update id fun _ => changed) := by
  refine (Act.bind_of_ok (resolve_of_live found stands _)).trans ?_
  dsimp only
  rw [fits]
  rfl

/-! ## Objects that come -/

/-- One object has come, behind all others. -/
structure Added (object : Object) (before after : Document) : Prop where
  objects : after.objects = before.objects.push object

namespace Added

theorem found (added : Added object before after) :
    after.objects[before.objects.size]? = some object := by
  rw [added.objects, Array.getElem?_push_size]

theorem others (added : Added object before after) {other : Nat}
    (different : other ≠ before.objects.size) :
    after.objects[other]? = before.objects[other]? := by
  rw [added.objects, Array.getElem?_push, if_neg different]

/-- The objects in the document are those that were, and the one that has come. -/
theorem live (added : Added object before after) (stands : object.removed = false) (other : Nat) :
    after.Live other ↔ other = before.objects.size ∨ before.Live other := by
  by_cases same : other = before.objects.size
  · exact iff_of_true ⟨object, same ▸ added.found, stands⟩ (Or.inl same)
  · rw [or_iff_right same, Live, added.others same, Live]

end Added

/-- An object comes under the name that the register gives. -/
theorem addObject_added (object : Object) (before : Document) :
    ∃ name after, addObject object before = .ok before.objects.size after ∧
      Added { object with name := name } before after := by
  unfold addObject
  generalize before.objectNames.enter "Object" object.name = entered
  exact ⟨entered.1, _, rfl, ⟨rfl⟩⟩

theorem copy_of_live (found : before.objects[id]? = some object) (stands : object.removed = false) :
    ∃ name after, copy (.object id) before = .ok before.objects.size after ∧
      Added { object with name := name, home := none } before after := by
  rcases addObject_added { object with home := none } before with ⟨name, after, run, added⟩
  exact ⟨name, after, (Act.bind_of_ok (resolve_of_live found stands _)).trans run, added⟩

theorem addMesh_objects (name : String) (before : Document) :
    ∃ after, addMesh name before = .ok before.meshes.size after ∧
      after.objects = before.objects := by
  unfold addMesh
  generalize before.meshNames.enter "Mesh" name = entered
  exact ⟨_, rfl, rfl⟩

/-- A prefab is one more object, which is under no other. -/
theorem makePrefab_added (kept : Float32 → Float32) (name : String) (segments : Nat)
    (before : Document) :
    ∃ object after,
      (modeller kept).makePrefab name segments before = .ok before.objects.size after ∧
      Added object before after ∧ object.removed = false := by
  rcases addMesh_objects (name ++ "_data") before with ⟨meshed, run, objects⟩
  have shaped : shapeMesh before.meshes.size segments meshed = .ok () _ := rfl
  rcases addObject_added { name := name, mesh := some before.meshes.size }
      { meshed with
        meshes := meshed.meshes.modify before.meshes.size fun mesh =>
          { mesh with segments := segments } } with ⟨used, after, comes, added⟩
  have size : meshed.objects.size = before.objects.size := congrArg Array.size objects
  refine ⟨_, after, ?_, ⟨added.objects.trans (congrArg (Array.push · _) objects)⟩, rfl⟩
  rw [← size]
  exact (Act.bind_of_ok run).trans ((Act.bind_of_ok shaped).trans comes)

/-! ## An object that goes -/

/-- An object without its parent, if that is the given one. -/
def withoutParent (parent : Nat) (object : Object) : Object :=
  if object.parent = some parent then { object with parent := none } else object

theorem withoutParent_removed (parent : Nat) (object : Object) :
    (withoutParent parent object).removed = object.removed := by
  unfold withoutParent
  split <;> rfl

/-- A document from which an object has been removed. -/
structure Removed (id : Nat) (before after : Document) : Prop where
  gone : ¬ after.Live id
  others : ∀ other, other ≠ id →
    after.objects[other]? = (before.objects[other]?).map (withoutParent id)

theorem remove_of_live (found : before.objects[id]? = some object)
    (stands : object.removed = false) :
    ∃ after, remove (.object id) before = .ok () after ∧ Removed id before after := by
  refine ⟨_, Act.bind_of_ok (resolve_of_live found stands _), ?_, fun other different => ?_⟩
  · rintro ⟨object, there, standing⟩
    rw [update_objects, if_pos rfl] at there
    rcases Option.map_eq_some_iff.mp there with ⟨original, -, rfl⟩
    cases standing
  · rw [update_objects, if_neg (Ne.symm different)]
    simp only [Array.getElem?_map]
    rfl

/-- The objects in the document are those that were, without the one that has been removed. -/
theorem Removed.live (removed : Removed id before after) (other : Nat) :
    after.Live other ↔ before.Live other ∧ other ≠ id := by
  by_cases same : other = id
  · exact iff_of_false (same ▸ removed.gone) fun ⟨_, different⟩ => different same
  · rw [and_iff_left same]
    unfold Live
    rw [removed.others other same]
    constructor
    · rintro ⟨_, found, stands⟩
      rcases Option.map_eq_some_iff.mp found with ⟨object, there, rfl⟩
      exact ⟨object, there, (withoutParent_removed id object).symm.trans stands⟩
    · rintro ⟨object, found, stands⟩
      exact ⟨_, congrArg (Option.map (withoutParent id)) found,
        (withoutParent_removed id object).trans stands⟩

end Document
end Arbor
