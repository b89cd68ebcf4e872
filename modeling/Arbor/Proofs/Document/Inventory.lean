import Arbor.Proofs.Document.Calls
import Arbor.Proofs.Modeller.Inventory

/-!
# The objects in a document

Documents keep account of their objects in the way in which modellers are relied on to do.
-/

namespace Arbor
namespace Document

variable {document before after : Document} {id : Nat} {object : Object} {reference : Reference}

/-- The objects in a document. -/
def live (document : Document) : Set Nat := {id | document.Live id}

theorem Added.inserts (added : Added object before after) (stands : object.removed = false) :
    before.objects.size ∉ before.live ∧
      after.live = insert before.objects.size before.live := by
  refine ⟨fun live => Nat.lt_irrefl _ (Live.inside live), ?_⟩
  ext other
  exact added.live stands other

theorem live_of_objects (same : after.objects = before.objects) : after.live = before.live := by
  unfold live Live
  rw [same]

theorem live_of_update {change : Object → Object}
    (stays : ∀ object, document.objects[id]? = some object →
      (change object).removed = object.removed) :
    (document.update id change).live = document.live :=
  Set.ext fun other => update_live stays other

/-- Assigning to a part of an object lets none come or go, if it does not remove the object. -/
theorem assign_keeps {assigns : Object → Except Failure Object}
    (stays : ∀ object changed, assigns object = .ok changed → changed.removed = object.removed)
    (part : String) (reference : Reference) (objects : Set Nat) :
    Act.Keeps (live · = objects) (assign part reference assigns) := by
  intro document same
  rcases resolve_cases reference (textLacks part) document with
      ⟨id, object, rfl, found, stands, run⟩ | ⟨failure, run⟩
  · cases fits : assigns object with
    | error failure =>
      have refused : assign part (.object id) assigns document = .error failure document := by
        refine (Act.bind_of_ok run).trans ?_
        dsimp only
        rw [fits]
        rfl
      rwa [Act.reached_of_error refused]
    | ok changed =>
      rw [Act.reached_of_ok (assign_of_live found stands part fits), ← same]
      refine live_of_update fun other there => ?_
      cases found.symm.trans there
      exact stays object changed fits
  · have refused : assign part reference assigns document = .error failure document :=
      Act.bind_of_error run
    rwa [Act.reached_of_error refused]

/-- So does assigning to a part that has three components. -/
theorem assignThree_keeps {make : Object → Float32 → Float32 → Float32 → Object}
    (stays : ∀ object x y z, (make object x y z).removed = object.removed)
    (kept : Float32 → Float32) (part : String) (reference : Reference) (components : List Float32)
    (objects : Set Nat) :
    Act.Keeps (live · = objects)
      (assign part reference fun object => threeItems kept (make object) components) := by
  refine assign_keeps (fun object changed fits => ?_) part reference objects
  unfold threeItems at fits
  split at fits
  · cases fits
    exact stays object _ _ _
  · cases fits

theorem setParent_keeps (child : Reference) (parent : Option Reference) (objects : Set Nat) :
    Act.Keeps (live · = objects) (setParent child parent) := by
  have adopts (id : Nat) (parent : Option Nat) : Act.Keeps (live · = objects)
      (modify (update id fun object => { object with parent := parent }) : Act Document Unit) := by
    refine Act.Keeps.modify fun document same => ?_
    rw [← same]
    exact live_of_update fun _ _ => rfl
  refine Act.Keeps.bind (resolve_keeps _ child _) fun (id, _) => ?_
  cases parent with
  | none => exact adopts id none
  | some reference =>
    refine Act.Keeps.bind (resolve_keeps _ reference _) fun (above, _) => ?_
    dsimp only
    by_cases own : above = id
    · rw [if_pos own]
      exact fun document same => same
    · rw [if_neg own]
      exact fun document => adopts id _ document

/-- Documents keep account of their objects. -/
def inventory (kept : Float32 → Float32) : (modeller kept).Inventory where
  live := live
  copied {reference handle before after} run := by
    rcases resolve_cases reference (textLacks "copy") before with
        ⟨id, object, rfl, found, stands, -⟩ | ⟨failure, refused⟩
    · rcases copy_of_live found stands with ⟨name, copied, runs, added⟩
      cases runs.symm.trans run
      exact added.inserts stands
    · cases (Act.bind_of_error refused).symm.trans run
  uncopied {reference failure before after} run := by
    rcases resolve_cases reference (textLacks "copy") before with
        ⟨id, object, rfl, found, stands, -⟩ | ⟨_, refused⟩
    · rcases copy_of_live found stands with ⟨name, copied, runs, -⟩
      cases runs.symm.trans run
    · cases (Act.bind_of_error refused).symm.trans run
      rfl
  added {name mesh handle before after} run := by
    rcases addObject_added { name := name, mesh := mesh } before with ⟨used, _, runs, added⟩
    cases runs.symm.trans run
    exact added.inserts rfl
  unadded {name mesh failure before after} run := by
    rcases addObject_added { name := name, mesh := mesh } before with ⟨used, _, runs, -⟩
    cases runs.symm.trans run
  removed {handle before after} run := by
    rcases resolve_cases (.object handle) .textToRemove before with
        ⟨id, object, ⟨⟩, found, stands, -⟩ | ⟨failure, refused⟩
    · rcases remove_of_live found stands with ⟨_, runs, removed⟩
      cases runs.symm.trans run
      exact Set.ext removed.live
    · cases (Act.bind_of_error refused).symm.trans run
  addMesh name objects document same := by
    rcases addMesh_objects name document with ⟨after, run, still⟩
    have reached : ((modeller kept).addMesh name).reached document = after := Act.reached_of_ok run
    rw [reached, ← same]
    exact live_of_objects still
  shapeMesh mesh segments objects := Act.Keeps.modify fun _ same => same
  homes reference objects :=
    Act.Keeps.bind (resolve_keeps _ reference _) fun _ => Act.Keeps.pure _
  activeHome objects := Act.Keeps.pure _
  link home handle objects := by
    change Act.Keeps _ (link home handle)
    exact assign_keeps (by rintro object _ ⟨⟩; rfl) _ _ objects
  setParent := setParent_keeps
  setLocation reference components objects := by
    change Act.Keeps _ (setLocation kept reference components)
    exact assignThree_keeps (by intros; rfl) kept _ reference components objects
  setOrder reference order objects := by
    change Act.Keeps _ (setOrder reference order)
    exact assign_keeps (by rintro object _ ⟨⟩; rfl) _ reference objects
  setRotation reference components objects := by
    change Act.Keeps _ (setRotation kept reference components)
    exact assignThree_keeps (by intros; rfl) kept _ reference components objects
  setScale reference components objects := by
    change Act.Keeps _ (setScale kept reference components)
    exact assignThree_keeps (by intros; rfl) kept _ reference components objects

end Document
end Arbor
