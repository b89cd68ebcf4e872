import Arbor.Proofs.Document.Calls
import Arbor.Proofs.Modeller.Appearance

/-!
# How objects in a document look

What is assigned to an object in a document can be read back from it, with its components kept as
the function says.  In a document that can be reached, the parents of objects are objects of the
document themselves.  So an object that is above no other one cannot be above its new parent, and no
circle is ever refused.
-/

namespace Arbor

open Number Space Modeller

/-- What shows of an object. -/
def Object.sight (object : Object) : Sight Nat :=
  ⟨object.location, object.rotation, object.scale, object.parent⟩

namespace Document

variable {document before after : Document} {id other : Nat} {object : Object} {sight : Sight Nat}
  {drawn : Option (Sight Nat)} {kept : Float32 → Float32}

/-- What shows of an object that is in the document. -/
def look (document : Document) (id : Nat) : Option (Sight Nat) :=
  (document.objects[id]?).bind fun object => if object.removed then none else some object.sight

theorem look_eq_some :
    document.look id = some sight ↔ ∃ object, document.objects[id]? = some object ∧
      object.removed = false ∧ object.sight = sight := by
  unfold look
  rw [Option.bind_eq_some_iff]
  refine exists_congr fun object => and_congr_right fun _ => ?_
  cases object.removed <;> simp

theorem look_of_live (found : document.objects[id]? = some object)
    (stands : object.removed = false) : document.look id = some object.sight :=
  look_eq_some.mpr ⟨object, found, stands, rfl⟩

theorem look_of_not_live (gone : ¬ document.Live id) : document.look id = none := by
  cases looks : document.look id with
  | none => rfl
  | some sight =>
    rcases look_eq_some.mp looks with ⟨object, found, stands, -⟩
    exact absurd ⟨object, found, stands⟩ gone

theorem look_of_same (same : after.objects[id]? = before.objects[id]?) :
    after.look id = before.look id := by
  unfold look
  rw [same]

/-- The documents in which the parents of objects are objects, and what shows in them. -/
def view : View Document Nat where
  sound document := ∀ id sight parent, document.look id = some sight →
    sight.parent = some parent → ∃ other, document.look parent = some other
  look := look

/-! ## Drawing one object -/

/-- A document stays sound if an object is drawn anew under another one, or goes from above none. -/
theorem redrawn_of_look (sound : view.sound before) (here : after.look id = drawn)
    (others : ∀ other, other ≠ id → after.look other = before.look other)
    (under : ∀ sight parent, drawn = some sight → sight.parent = some parent →
      view.Shows before parent)
    (free : drawn = none → view.Childless before id) : view.Redrawn id drawn before after := by
  refine ⟨fun other sight parent looks above => ?_, here, others⟩
  have shown : view.Shows before parent := by
    by_cases same : other = id
    · exact under sight parent (here.symm.trans (same ▸ looks)) above
    · exact sound other sight parent ((others other same).symm.trans looks) above
  by_cases same : parent = id
  · cases fate : drawn with
    | some drawing => exact ⟨drawing, same ▸ here.trans fate⟩
    | none =>
      have different : other ≠ id := by
        rintro rfl
        cases (looks.symm.trans here).trans fate
      have looked := (others other different).symm.trans looks
      exact absurd (above.trans (congrArg some same)) (free fate other sight looked)
  · exact shown.imp fun _ looks => (others parent same).trans looks

theorem Added.redrawn (added : Added object before after) (stands : object.removed = false)
    (sound : view.sound before)
    (under : ∀ parent, object.parent = some parent → view.Shows before parent) :
    before.look before.objects.size = none ∧
      view.Redrawn before.objects.size (some object.sight) before after := by
  refine ⟨look_of_not_live fun live => Nat.lt_irrefl _ live.inside,
    redrawn_of_look sound (look_of_live added.found stands)
      (fun other different => look_of_same (added.others different)) ?_ ?_⟩
  · rintro _ parent ⟨⟩ above
    exact under parent above
  · rintro ⟨⟩

theorem redrawn_of_update (sound : view.sound before) (found : before.objects[id]? = some object)
    (change : Object → Object) (stays : (change object).removed = false)
    (under : ∀ parent, (change object).parent = some parent → view.Shows before parent) :
    view.Redrawn id (some (change object).sight) before (before.update id change) := by
  have there : (before.update id change).objects[id]? = some (change object) := by
    rw [update_objects, if_pos rfl, found]
    rfl
  refine redrawn_of_look sound (look_of_live there stays) (fun other different => ?_) ?_ ?_
  · refine look_of_same ?_
    rw [update_objects, if_neg (Ne.symm different)]
  · rintro _ parent ⟨⟩ above
    exact under parent above
  · rintro ⟨⟩

/-- Assigning to a part of an object changes what shows of this object, and does not move it under
another parent. -/
theorem assign_redraws (sound : view.sound before) (found : before.objects[id]? = some object)
    (stands : object.removed = false) (part : String) (change : Object → Object)
    (stays : (change object).removed = object.removed)
    (under : (change object).parent = object.parent) :
    ∃ after, assign part (.object id) (fun object => .ok (change object)) before = .ok () after ∧
      view.Redrawn id (some (change object).sight) before after := by
  have fixed (parent : Nat) (above : (change object).parent = some parent) :
      view.Shows before parent :=
    sound id object.sight parent (look_of_live found stands) (under.symm.trans above)
  exact ⟨_, assign_of_live found stands part rfl,
    redrawn_of_update sound found (fun _ => change object) (stays.trans stands) fixed⟩

/-! ## Parents -/

/-- An object that is above none is above no other one, however far up that one's parents go. -/
theorem isAbove_of_childless (sound : view.sound document) (childless : view.Childless document id)
    (shown : view.Shows document other) (different : other ≠ id) (steps : Nat) :
    document.isAbove id steps other = false := by
  induction steps generalizing other with
  | zero => rfl
  | succ steps inductionHypothesis =>
    rcases shown with ⟨_, looks⟩
    rcases look_eq_some.mp looks with ⟨object, found, -, rfl⟩
    unfold isAbove
    rw [beq_false_of_ne different, Bool.false_or, found, Option.bind_some]
    cases above : object.parent with
    | none => rfl
    | some parent =>
      refine inductionHypothesis (sound other object.sight parent looks above) ?_
      rintro rfl
      exact childless other object.sight looks above

/-- An object that is above none can be put under any other one. -/
theorem setParent_redraws (sound : view.sound before) (found : before.objects[id]? = some object)
    (stands : object.removed = false) (childless : view.Childless before id) {parent : Option Nat}
    (fits : ∀ above, parent = some above → above ≠ id ∧ view.Shows before above) :
    ∃ after, setParent (.object id) (parent.map .object) before = .ok () after ∧
      view.Redrawn id (some { object.sight with parent := parent }) before after := by
  have redrawn : view.Redrawn id (some { object.sight with parent := parent }) before
      (before.update id fun object => { object with parent := parent }) :=
    redrawn_of_update sound found (fun object => { object with parent := parent }) stands
      fun above given => (fits above given).2
  refine ⟨_, (Act.bind_of_ok (resolve_of_live found stands _)).trans ?_, redrawn⟩
  cases parent with
  | none => rfl
  | some above =>
    rcases fits above rfl with ⟨different, shown⟩
    rcases shown with ⟨_, looks⟩
    rcases look_eq_some.mp looks with ⟨other, there, standing, -⟩
    refine (Act.bind_of_ok (resolve_of_live there standing _)).trans ?_
    dsimp only
    have circular := isAbove_of_childless sound childless ⟨_, looks⟩ different before.objects.size
    rw [if_neg different]
    change Act.settled (.ok ()) (before.update id fun object => { object with
      parent := if before.isAbove id before.objects.size above then none else some above }) = _
    rw [circular]
    rfl

/-- An object that is above none goes without a trace on the others. -/
theorem Removed.redrawn (removed : Removed id before after) (sound : view.sound before)
    (childless : view.Childless before id) : view.Redrawn id none before after := by
  refine redrawn_of_look sound (look_of_not_live removed.gone) (fun other different => ?_)
    (fun _ _ none => absurd none nofun) fun _ => childless
  unfold look
  rw [removed.others other different]
  cases found : before.objects[other]? with
  | none => rfl
  | some object =>
    rw [Option.map_some, Option.bind_some, Option.bind_some, withoutParent_removed]
    cases stands : object.removed with
    | true => rfl
    | false =>
      have apart := childless other object.sight (look_of_live found stands)
      have same : withoutParent id object = object := if_neg apart
      rw [same]

/-! ## Documents as those that can be read back -/

/-- The object is listed in a collection. -/
def Listed (document : Document) (id : Nat) : Prop :=
  ∃ object home, document.objects[id]? = some object ∧ object.home = some home

/-- What is assigned to an object in a document can be read back from it. -/
def readable (kept : Float32 → Float32) : (modeller kept).Readable kept where
  toView := view
  listed := Listed
  houses _ _ := True
  meshed _ _ := True
  parents sound looks above := sound _ _ _ looks above
  copies {before handle sight} sound looks := by
    rcases look_eq_some.mp looks with ⟨object, found, stands, rfl⟩
    rcases copy_of_live found stands with ⟨name, after, run, added⟩
    rcases added.redrawn stands sound (fun parent above => sound _ _ parent looks above) with
        ⟨new, redrawn⟩
    refine ⟨_, after, run, new, redrawn, ?_⟩
    rintro ⟨copied, home, there, listed⟩
    cases added.found.symm.trans there
    cases listed
  addsMesh {before} name sound := by
    rcases addMesh_objects name before with ⟨after, run, same⟩
    have look : view.look after = view.look before := by
      funext id
      exact look_of_same (congrArg (·[id]?) same)
    refine ⟨_, after, run, ⟨?_, look⟩, trivial⟩
    change ∀ id sight parent, view.look after id = _ → _ → ∃ other, view.look after parent = _
    rw [look]
    exact sound
  shapes segments sound _ := ⟨_, rfl, ⟨sound, rfl⟩, trivial⟩
  adds {before mesh} name sound _ := by
    rcases addObject_added { name := name, mesh := some mesh } before with
        ⟨used, after, run, added⟩
    rcases added.redrawn rfl sound nofun with ⟨new, redrawn⟩
    exact ⟨_, _, after, run, new, redrawn, rfl⟩
  homes {document handle} _ shown := by
    rcases shown with ⟨_, looks⟩
    rcases look_eq_some.mp looks with ⟨object, found, stands, -⟩
    exact ⟨_, Act.bind_of_ok (resolve_of_live found stands _), fun _ _ => trivial⟩
  activeHome _ := ⟨_, rfl, trivial⟩
  links {before home handle} sound _ shown _ := by
    rcases shown with ⟨_, looks⟩
    rcases look_eq_some.mp looks with ⟨object, found, stands, rfl⟩
    rcases assign_redraws sound found stands "users_collection"
        (fun object => { object with home := some home }) rfl rfl with ⟨after, run, redrawn⟩
    refine ⟨after, run, redrawn.sound, funext fun other => ?_⟩
    by_cases same : other = handle
    · rw [same, redrawn.here]
      exact looks.symm
    · exact redrawn.others other same
  adopts {before handle sight parent} sound looks childless fits := by
    rcases look_eq_some.mp looks with ⟨object, found, stands, rfl⟩
    exact setParent_redraws sound found stands childless fits
  places {before handle sight} x y z sound looks := by
    rcases look_eq_some.mp looks with ⟨object, found, stands, rfl⟩
    exact assign_redraws sound found stands "location"
      (fun object => { object with location := .spatial (kept x) (kept y) (kept z) }) rfl rfl
  orders {before handle sight} order sound looks := by
    rcases look_eq_some.mp looks with ⟨object, found, stands, rfl⟩
    rcases assign_redraws sound found stands "rotation_mode"
        (fun object => { object with rotation := { object.rotation with order := order } })
        rfl rfl with ⟨after, run, redrawn⟩
    exact ⟨_, after, run, rfl, redrawn⟩
  turns {before handle sight} x y z sound looks := by
    rcases look_eq_some.mp looks with ⟨object, found, stands, rfl⟩
    exact assign_redraws sound found stands "rotation_euler"
      (fun object =>
        { object with rotation := ⟨kept x, kept y, kept z, object.rotation.order⟩ }) rfl rfl
  scales {before handle sight} x y z sound looks := by
    rcases look_eq_some.mp looks with ⟨object, found, stands, rfl⟩
    exact assign_redraws sound found stands "scale"
      (fun object => { object with scale := .spatial (kept x) (kept y) (kept z) }) rfl rfl
  removes {before handle} sound shown childless := by
    rcases shown with ⟨_, looks⟩
    rcases look_eq_some.mp looks with ⟨object, found, stands, -⟩
    rcases remove_of_live found stands with ⟨after, run, removed⟩
    exact ⟨after, run, removed.redrawn sound childless⟩

end Document
end Arbor
