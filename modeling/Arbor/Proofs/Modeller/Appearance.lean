import Arbor.Proofs.Modeller.Calls

/-!
# How documents look

What shows of an object is where it lies, how it is turned and scaled, and its parent.  A modeller
is `Readable` if what is assigned to an object can be read back from it, if a copy is a new object
that looks like the old one, if removing an object removes no other, and if no call is refused that
makes sense.  How the components that are assigned are kept is left open, so that they may be
rounded or brought within bounds.
-/

namespace Arbor
namespace Modeller

open Space

variable {δ H R : Type}

/-- What shows of an object. -/
structure Sight (H : Type) where
  location : Vec Float32
  turns : Turns Float32
  scale : Vec Float32
  parent : Option H

/-- The documents that a modeller can reach, and what shows of the objects in them.  Nothing shows
of what is not in the document. -/
structure View (δ H : Type) where
  sound : δ → Prop
  look : δ → H → Option (Sight H)

namespace View

variable {view : View δ H} {before between after : δ} {handle other : H} {sight : Option (Sight H)}

/-- The object is in the document. -/
def Shows (view : View δ H) (document : δ) (handle : H) : Prop :=
  ∃ sight, view.look document handle = some sight

/-- No object is under the given one. -/
def Childless (view : View δ H) (document : δ) (handle : H) : Prop :=
  ∀ other sight, view.look document other = some sight → sight.parent ≠ some handle

/-- Only one object looks different than before, or has come or gone. -/
structure Redrawn (view : View δ H) (handle : H) (sight : Option (Sight H)) (before after : δ) :
    Prop where
  sound : view.sound after
  here : view.look after handle = sight
  others : ∀ other, other ≠ handle → view.look after other = view.look before other

/-- All objects look as before. -/
structure Unchanged (view : View δ H) (before after : δ) : Prop where
  sound : view.sound after
  look : view.look after = view.look before

theorem Unchanged.redrawn (unchanged : Unchanged view before between)
    (redrawn : Redrawn view handle sight between after) : Redrawn view handle sight before after :=
  ⟨redrawn.sound, redrawn.here, fun other different =>
    unchanged.look ▸ redrawn.others other different⟩

theorem Redrawn.unchanged (redrawn : Redrawn view handle sight before between)
    (unchanged : Unchanged view between after) : Redrawn view handle sight before after :=
  ⟨unchanged.sound, unchanged.look ▸ redrawn.here, unchanged.look ▸ redrawn.others⟩

theorem Redrawn.shows_iff (redrawn : Redrawn view handle sight before after)
    (different : other ≠ handle) : view.Shows after other ↔ view.Shows before other := by
  unfold Shows
  rw [redrawn.others other different]

/-- What has been drawn twice looks as it was drawn last. -/
theorem Redrawn.trans {first : Option (Sight H)} (begun : Redrawn view handle first before between)
    (later : Redrawn view handle sight between after) : Redrawn view handle sight before after :=
  ⟨later.sound, later.here, fun other different =>
    (later.others other different).trans (begun.others other different)⟩

end View

/-- What a modeller is relied on for as to how its documents look. -/
structure Readable (kept : Float32 → Float32) (modeller : Modeller δ H R) extends View δ H where
  /-- The object is listed in some home. -/
  listed : δ → H → Prop
  /-- The home is in the document. -/
  houses : δ → modeller.Home → Prop
  /-- The mesh is in the document. -/
  meshed : δ → modeller.Mesh → Prop
  parents : ∀ {document : δ} {handle parent : H} {sight : Sight H}, sound document →
    look document handle = some sight → sight.parent = some parent → toView.Shows document parent
  copies : ∀ {before : δ} {handle : H} {sight : Sight H}, sound before →
    look before handle = some sight →
    ∃ copy after, modeller.copy (modeller.object handle) before = .ok copy after ∧
      look before copy = none ∧ toView.Redrawn copy (some sight) before after ∧ ¬ listed after copy
  addsMesh : ∀ {before : δ} (name : String), sound before →
    ∃ mesh after, modeller.addMesh name before = .ok mesh after ∧ toView.Unchanged before after ∧
      meshed after mesh
  shapes : ∀ {before : δ} {mesh : modeller.Mesh} (segments : Nat), sound before →
    meshed before mesh →
    ∃ after, modeller.shapeMesh mesh segments before = .ok () after ∧
      toView.Unchanged before after ∧ meshed after mesh
  adds : ∀ {before : δ} {mesh : modeller.Mesh} (name : String), sound before → meshed before mesh →
    ∃ handle sight after, modeller.addObject name (some mesh) before = .ok handle after ∧
      look before handle = none ∧ toView.Redrawn handle (some sight) before after ∧
      sight.parent = none
  homes : ∀ {document : δ} {handle : H}, sound document → toView.Shows document handle →
    ∃ homes, modeller.homes (modeller.object handle) document = .ok homes document ∧
      ∀ home ∈ homes, houses document home
  activeHome : ∀ {document : δ}, sound document →
    ∃ home, modeller.activeHome document = .ok home document ∧ houses document home
  -- What is listed in a home already may be refused there.
  links : ∀ {before : δ} {home : modeller.Home} {handle : H}, sound before → houses before home →
    toView.Shows before handle → ¬ listed before handle →
    ∃ after, modeller.link home handle before = .ok () after ∧ toView.Unchanged before after
  -- An object that is above another one might come under itself, which may be refused.
  adopts : ∀ {before : δ} {handle : H} {sight : Sight H} {parent : Option H}, sound before →
    look before handle = some sight → toView.Childless before handle →
    (∀ above, parent = some above → above ≠ handle ∧ toView.Shows before above) →
    ∃ after,
      modeller.setParent (modeller.object handle) (parent.map modeller.object) before =
        .ok () after ∧
      toView.Redrawn handle (some { sight with parent := parent }) before after
  places : ∀ {before : δ} {handle : H} {sight : Sight H} (x y z : Float32), sound before →
    look before handle = some sight →
    ∃ after, modeller.setLocation (modeller.object handle) [x, y, z] before = .ok () after ∧
      toView.Redrawn handle (some { sight with location := .spatial (kept x) (kept y) (kept z) })
        before after
  orders : ∀ {before : δ} {handle : H} {sight : Sight H} (order : AxisOrder), sound before →
    look before handle = some sight →
    ∃ turns after, modeller.setOrder (modeller.object handle) order before = .ok () after ∧
      turns.order = order ∧
      toView.Redrawn handle (some { sight with turns := turns }) before after
  turns : ∀ {before : δ} {handle : H} {sight : Sight H} (x y z : Float32), sound before →
    look before handle = some sight →
    ∃ after, modeller.setRotation (modeller.object handle) [x, y, z] before = .ok () after ∧
      toView.Redrawn handle
        (some { sight with turns := ⟨kept x, kept y, kept z, sight.turns.order⟩ }) before after
  scales : ∀ {before : δ} {handle : H} {sight : Sight H} (x y z : Float32), sound before →
    look before handle = some sight →
    ∃ after, modeller.setScale (modeller.object handle) [x, y, z] before = .ok () after ∧
      toView.Redrawn handle (some { sight with scale := .spatial (kept x) (kept y) (kept z) })
        before after
  -- What is under an object that is removed would look different without it.
  removes : ∀ {before : δ} {handle : H}, sound before → toView.Shows before handle →
    toView.Childless before handle →
    ∃ after, modeller.remove (modeller.object handle) before = .ok () after ∧
      toView.Redrawn handle none before after

namespace Readable

variable {kept : Float32 → Float32} {modeller : Modeller δ H R}
  (readable : modeller.Readable kept) {before after document : δ} {handle : H} {sight : Sight H}

/-! ## What a renderer draws -/

/-- A prefab is a new object under no other one. -/
theorem makes_prefab (sound : readable.sound before) (name : String) (segments : Nat) :
    ∃ handle sight after, modeller.makePrefab name segments before = .ok handle after ∧
      readable.look before handle = none ∧
      readable.Redrawn handle (some sight) before after ∧ sight.parent = none := by
  rcases readable.addsMesh (name ++ "_data") sound with ⟨mesh, empty, adds, same, meshed⟩
  rcases readable.shapes segments same.sound meshed with ⟨shaped, shapes, still, meshed⟩
  rcases readable.adds name still.sound meshed with
      ⟨handle, sight, after, comes, new, redrawn, orphan⟩
  refine ⟨handle, sight, after, ?_, ?_, same.redrawn (still.redrawn redrawn), orphan⟩
  · exact (Act.bind_of_ok adds).trans ((Act.bind_of_ok shapes).trans comes)
  · rw [← new, still.look, same.look]

/-- The home of something that is put under an object is found without any effect. -/
theorem finds_home (sound : readable.sound document) {parent : Option H}
    (there : ∀ above, parent = some above → readable.Shows document above) :
    ∃ home, modeller.homeUnder (parent.map modeller.object) document = .ok home document ∧
      readable.houses document home := by
  cases parent with
  | none => exact readable.activeHome sound
  | some parent =>
    rcases readable.homes sound (there parent rfl) with ⟨homes, run, houses⟩
    cases homes with
    | nil =>
      rcases readable.activeHome sound with ⟨home, active, house⟩
      exact ⟨home, (Act.bind_of_ok run).trans active, house⟩
    | cons home homes => exact ⟨home, Act.bind_of_ok run, houses home List.mem_cons_self⟩

/-- Nothing is under what has only just come. -/
theorem childless_of_new (sound : readable.sound before) (new : readable.look before handle = none)
    (drawn : readable.Redrawn handle (some sight) before after)
    (under : ∀ above, sight.parent = some above → readable.Shows before above) :
    readable.Childless after handle := by
  have absent : ¬ readable.Shows before handle := by
    rintro ⟨_, shown⟩
    cases new.symm.trans shown
  intro other shown looks above
  by_cases same : other = handle
  · rw [same, drawn.here] at looks
    cases looks
    exact absent (under handle above)
  · rw [drawn.others other same] at looks
    exact absent (readable.parents sound looks above)

/-- A copy is listed and put under an object that is there. -/
theorem places_copy (sound : readable.sound before)
    (shown : readable.look before handle = some sight) {parent : Option H}
    (there : ∀ above, parent = some above → readable.Shows before above) :
    ∃ copy after,
      modeller.place (modeller.object handle) (parent.map modeller.object) before = .ok copy after ∧
      readable.look before copy = none ∧
      readable.Redrawn copy (some { sight with parent := parent }) before after := by
  rcases readable.copies sound shown with ⟨copy, copied, copying, new, drawn, unlisted⟩
  have apart (above : H) (given : parent = some above) : above ≠ copy := by
    rintro rfl
    rcases there above given with ⟨_, shown⟩
    cases new.symm.trans shown
  have still (above : H) (given : parent = some above) : readable.Shows copied above := by
    rcases there above given with ⟨other, shown⟩
    exact ⟨other, (drawn.others above (apart above given)).trans shown⟩
  have childless := readable.childless_of_new sound new drawn fun above same =>
    readable.parents sound shown same
  rcases readable.finds_home drawn.sound still with ⟨home, found, house⟩
  rcases readable.links drawn.sound house ⟨sight, drawn.here⟩ unlisted with ⟨listed, links, same⟩
  have looks : readable.look listed copy = some sight := same.look ▸ drawn.here
  have bare : readable.Childless listed copy := fun other shown looks =>
    childless other shown (same.look ▸ looks)
  have fits (above : H) (given : parent = some above) :
      above ≠ copy ∧ readable.Shows listed above :=
    ⟨apart above given, (still above given).imp fun _ shown => same.look ▸ shown⟩
  rcases readable.adopts same.sound looks bare fits with ⟨after, adopts, redrawn⟩
  refine ⟨copy, after, ?_, new, (drawn.unchanged same).trans redrawn⟩
  exact (Act.bind_of_ok copying).trans ((Act.bind_of_ok found).trans
    ((Act.bind_of_ok links).trans (Act.bind_of_ok adopts)))

/-- An object is placed, turned and scaled. -/
theorem sets_transform (sound : readable.sound before)
    (shown : readable.look before handle = some sight) (x y z : Float32) (rotation : Turns Float32)
    (a b c : Float32) :
    ∃ after,
      modeller.setTransform (modeller.object handle) (.spatial x y z) rotation (.spatial a b c)
        before = .ok () after ∧
      readable.Redrawn handle (some ⟨.spatial (kept x) (kept y) (kept z), rotation.map kept,
        .spatial (kept a) (kept b) (kept c), sight.parent⟩) before after := by
  rcases readable.places x y z sound shown with ⟨placed, places, first⟩
  rcases readable.orders rotation.order first.sound first.here with
      ⟨turns, ordered, orders, order, second⟩
  rcases readable.turns rotation.x rotation.y rotation.z second.sound second.here with
      ⟨turned, rotates, third⟩
  rcases readable.scales a b c third.sound third.here with ⟨after, scales, fourth⟩
  refine ⟨after, orRefused_of_ok modeller .transform _ ?_, ?_⟩
  · exact (Act.bind_of_ok places).trans ((Act.bind_of_ok orders).trans
      ((Act.bind_of_ok rotates).trans scales))
  · have whole := ((first.trans second).trans third).trans fourth
    simp only [order] at whole
    exact whole

end Readable
end Modeller
end Arbor
