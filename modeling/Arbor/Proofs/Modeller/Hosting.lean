import Arbor.Proofs.Modeller.Appearance
import Arbor.Proofs.Tree.Lockstep

/-!
# Documents host trees

A modeller whose documents can be read back refuses nothing to a tree whose prefab, parent and owner
are in the document.  The objects that were there at first look as they did: nothing is ever put
under an object of the tree, so nothing changes with one.  Besides the objects of the tree only the
renderer's own prefab comes to the document.
-/

namespace Arbor

open Space

variable {δ H R : Type}

/-- The settings with other names for the things in the scene. -/
def Settings.map {S : Type} (f : R → S) (settings : Settings R) : Settings S where
  start := settings.start
  iterations := settings.iterations
  prefab := settings.prefab.map f
  parent := settings.parent.map f
  owner := settings.owner.map f

theorem Settings.destination_map {S : Type} (f : R → S) (settings : Settings R) :
    (settings.map f).destination = settings.destination.map f := by
  cases owner : settings.owner <;> simp only [destination, map, owner, Option.map_some,
    Option.map_none]

theorem Space.Vec.Spatial.eq_spatial {C : Type} {v : Vec C} (spatial : v.Spatial) :
    ∃ x y z, v = .spatial x y z := by
  rcases v with ⟨x, y, rest⟩
  rcases List.length_eq_one_iff.mp spatial with ⟨z, rfl⟩
  exact ⟨x, y, z, rfl⟩

namespace Modeller

variable {kept : Float32 → Float32} {modeller : Modeller δ H R}
  {readable : modeller.Readable kept} {settings : Settings H}
  {base before between after : Workshop δ H}
  {held : List H} {handle : H} {sight : Sight H}

namespace Readable

/-- A workshop in which a tree can be grown: the objects that the settings name are in the document,
and so is the renderer's own prefab, if it has one. -/
structure Ready (readable : modeller.Readable kept) (settings : Settings H)
    (workshop : Workshop δ H) : Prop where
  sound : readable.sound workshop.document
  own : ∀ handle, workshop.prefab = some handle → readable.Shows workshop.document handle
  prefab : ∀ handle, settings.prefab = some handle → readable.Shows workshop.document handle
  parent : ∀ handle, settings.parent = some handle → readable.Shows workshop.document handle
  owner : ∀ handle, settings.owner = some handle → readable.Shows workshop.document handle

theorem Ready.destination (ready : Ready readable settings base) (handle : H)
    (given : settings.destination = some handle) : readable.Shows base.document handle := by
  unfold Settings.destination at given
  cases owned : settings.owner with
  | some other =>
    rw [owned] at given
    cases given
    exact ready.owner handle owned
  | none =>
    rw [owned] at given
    exact ready.parent handle given

/-- A workshop in which a renderer has worked for a tree that holds some objects now.  Those are
new, the objects that were there at first look as they did, and every object is under one of these
or under none. -/
structure Tended (readable : modeller.Readable kept) (base : Workshop δ H) (held : List H)
    (workshop : Workshop δ H) : Prop where
  sound : readable.sound workshop.document
  spared : ∀ handle, readable.Shows base.document handle →
    readable.look workshop.document handle = readable.look base.document handle
  holds : ∀ handle ∈ held,
    readable.Shows workshop.document handle ∧ ¬ readable.Shows base.document handle
  nodup : held.Nodup
  only : ∀ handle, readable.Shows workshop.document handle →
    readable.Shows base.document handle ∨ handle ∈ held ∨ workshop.prefab = some handle
  parents : ∀ handle sight parent, readable.look workshop.document handle = some sight →
    sight.parent = some parent → readable.Shows base.document parent
  own : ∀ handle, workshop.prefab = some handle →
    readable.Shows workshop.document handle ∧ handle ∉ held

namespace Tended

theorem begun (ready : Ready readable settings base) : Tended readable base [] base where
  sound := ready.sound
  spared _ _ := rfl
  holds _ member := absurd member List.not_mem_nil
  nodup := List.nodup_nil
  only _ shown := Or.inl shown
  parents _ _ _ shown above := readable.parents ready.sound shown above
  own handle same := ⟨ready.own handle same, List.not_mem_nil⟩

/-- What was there at first still is. -/
theorem still (tended : Tended readable base held before)
    (shown : readable.Shows base.document handle) : readable.Shows before.document handle := by
  rcases shown with ⟨sight, looks⟩
  exact ⟨sight, (tended.spared handle ⟨sight, looks⟩).trans looks⟩

/-- Nothing is under what was not there at first. -/
theorem childless (tended : Tended readable base held before)
    (new : ¬ readable.Shows base.document handle) :
    readable.Childless before.document handle :=
  fun other sight looks above => new (tended.parents other sight handle looks above)

section

variable {document : δ} {drawn : Option (Sight H)}
  (redrawn : readable.Redrawn handle drawn before.document document)
include redrawn

/-- What was there at first looks as it did when something else is drawn. -/
theorem spared_redrawn (tended : Tended readable base held before)
    (new : ¬ readable.Shows base.document handle) (other : H)
    (shown : readable.Shows base.document other) :
    readable.look document other = readable.look base.document other := by
  have different : other ≠ handle := by
    rintro rfl
    exact new shown
  rw [redrawn.others other different, tended.spared other shown]

theorem parents_redrawn (tended : Tended readable base held before)
    (under : ∀ sight parent, drawn = some sight → sight.parent = some parent →
      readable.Shows base.document parent) (other : H) (sight : Sight H) (parent : H)
    (looks : readable.look document other = some sight) (above : sight.parent = some parent) :
    readable.Shows base.document parent := by
  by_cases same : other = handle
  · rw [same, redrawn.here] at looks
    exact under sight parent looks above
  · rw [redrawn.others other same] at looks
    exact tended.parents other sight parent looks above

end

/-- A new object that comes under one of those that were there at first may be the tree's. -/
theorem joined (tended : Tended readable base held before)
    (new : readable.look before.document handle = none) {document : δ}
    (redrawn : readable.Redrawn handle (some sight) before.document document)
    (under : ∀ parent, sight.parent = some parent → readable.Shows base.document parent) :
    Tended readable base (held ++ [handle]) ⟨document, before.prefab⟩ := by
  have absent : ¬ readable.Shows before.document handle := by
    rintro ⟨_, shown⟩
    cases new.symm.trans shown
  have strange : ¬ readable.Shows base.document handle := fun shown => absent (tended.still shown)
  have apart {other : H} (shown : readable.Shows before.document other) : other ≠ handle := by
    rintro rfl
    exact absent shown
  refine ⟨redrawn.sound, tended.spared_redrawn redrawn strange, fun other member => ?_,
    List.nodup_append.mpr ⟨tended.nodup, List.nodup_singleton _, ?_⟩, fun other shown => ?_,
    tended.parents_redrawn redrawn ?_, fun other own => ?_⟩
  · rcases List.mem_append.mp member with old | last
    · rcases tended.holds other old with ⟨shown, fresh⟩
      exact ⟨(redrawn.shows_iff (apart shown)).mpr shown, fresh⟩
    · rw [List.mem_singleton.mp last]
      exact ⟨⟨sight, redrawn.here⟩, strange⟩
  · intro other member last again same
    rw [List.mem_singleton.mp again] at same
    exact apart (tended.holds other member).1 same
  · by_cases same : other = handle
    · exact Or.inr (Or.inl (List.mem_append_right _ (List.mem_singleton.mpr same)))
    · exact (tended.only other ((redrawn.shows_iff same).mp shown)).imp_right
        (Or.imp_left (List.mem_append_left _))
  · rintro _ parent ⟨⟩ above
    exact under parent above
  · rcases tended.own other own with ⟨shown, free⟩
    refine ⟨(redrawn.shows_iff (apart shown)).mpr shown, fun member => ?_⟩
    rcases List.mem_append.mp member with old | last
    · exact free old
    · exact apart shown (List.mem_singleton.mp last)

/-- The last object of the tree may be the renderer's own prefab instead. -/
theorem kept_back {document : δ}
    (tended : Tended readable base (held ++ [handle]) ⟨document, none⟩) :
    Tended readable base held ⟨document, some handle⟩ := by
  rcases List.nodup_append.mp tended.nodup with ⟨nodup, -, apart⟩
  refine ⟨tended.sound, tended.spared, fun other member =>
    tended.holds other (List.mem_append_left _ member), nodup, fun other shown => ?_,
    tended.parents, ?_⟩
  · rcases tended.only other shown with old | member | own
    · exact Or.inl old
    · exact Or.inr ((List.mem_append.mp member).imp_right fun last =>
        congrArg some (List.mem_singleton.mp last).symm)
    · cases own
  · rintro _ ⟨⟩
    have last : handle ∈ held ++ [handle] := List.mem_append_right _ List.mem_cons_self
    exact ⟨(tended.holds handle last).1, fun member =>
      apart handle member handle List.mem_cons_self rfl⟩

/-- An object of the tree may be removed. -/
theorem removed (tended : Tended readable base (handle :: held) before) {document : δ}
    (redrawn : readable.Redrawn handle none before.document document) :
    Tended readable base held ⟨document, before.prefab⟩ := by
  rcases List.nodup_cons.mp tended.nodup with ⟨single, nodup⟩
  have strange := (tended.holds handle List.mem_cons_self).2
  have gone : ¬ readable.Shows document handle := by
    rintro ⟨_, shown⟩
    cases redrawn.here.symm.trans shown
  refine ⟨redrawn.sound, tended.spared_redrawn redrawn strange, fun other member => ?_, nodup,
    fun other shown => ?_, tended.parents_redrawn redrawn ?_, fun other own => ?_⟩
  · rcases tended.holds other (List.mem_cons_of_mem _ member) with ⟨shown, fresh⟩
    have different : other ≠ handle := by
      rintro rfl
      exact single member
    exact ⟨(redrawn.shows_iff different).mpr shown, fresh⟩
  · have different : other ≠ handle := by
      rintro rfl
      exact gone shown
    refine (tended.only other ((redrawn.shows_iff different).mp shown)).imp_right
      (Or.imp_left fun member => ?_)
    exact (List.mem_cons.mp member).resolve_left different
  · rintro _ _ ⟨⟩
  · rcases tended.own other own with ⟨shown, free⟩
    have different : other ≠ handle := by
      rintro rfl
      exact free List.mem_cons_self
    exact ⟨(redrawn.shows_iff different).mpr shown, fun member =>
      free (List.mem_cons_of_mem _ member)⟩

/-- The prefab is there, or comes to be there, and nothing else looks different. -/
theorem prepared (tended : Tended readable base held before)
    (ready : Ready readable settings base) :
    ∃ handle sight after,
      modeller.prefabOr (settings.prefab.map modeller.object) before =
        .ok (modeller.object handle) after ∧
      Tended readable base held after ∧ readable.look after.document handle = some sight ∧
      ∀ other, readable.Shows before.document other →
        readable.look after.document other = readable.look before.document other := by
  cases given : settings.prefab with
  | some handle =>
    rcases tended.still (ready.prefab handle given) with ⟨sight, looks⟩
    exact ⟨handle, sight, before, rfl, tended, looks, fun _ _ => rfl⟩
  | none =>
    cases had : before.prefab with
    | some handle =>
      rcases (tended.own handle had).1 with ⟨sight, looks⟩
      have found := ownPrefab_of_some modeller had
      exact ⟨handle, sight, before, Act.map_of_ok modeller.object found, tended, looks,
        fun _ _ => rfl⟩
    | none =>
      rcases readable.makes_prefab tended.sound prefabName prefabSegments with
          ⟨handle, sight, document, makes, new, redrawn, orphan⟩
      have owned := (ownPrefab_of_none modeller had).trans
        (Act.bind_of_ok (Workshop.onDocument_of_ok makes before.prefab))
      have grown := tended.joined new redrawn fun parent above => by
        cases orphan.symm.trans above
      rw [had] at grown
      refine ⟨handle, sight, ⟨document, some handle⟩, Act.map_of_ok modeller.object owned,
        grown.kept_back, redrawn.here, fun other shown => redrawn.others other ?_⟩
      rintro rfl
      rcases shown with ⟨_, looks⟩
      cases new.symm.trans looks

end Tended

/-- An object of a tree lies as a branch does, under what the settings say. -/
def Lies (readable : modeller.Readable kept) (settings : Settings H) (workshop : Workshop δ H)
    (handle : H) (stance : Stance) : Prop :=
  readable.look workshop.document handle = some ⟨stance.position.map kept, stance.turns.map kept,
    stance.scale.map kept, settings.destination⟩

/-- The object of a branch is made, placed and moved. -/
theorem Tended.plants (tended : Tended readable base held before)
    (ready : Ready readable settings base) {position scale : Vec Float32} (turns : Turns Float32)
    (placed : position.Spatial) (scaled : scale.Spatial) :
    ∃ handle made laid after,
      modeller.scene.instantiate (settings.prefab.map modeller.object)
        (settings.parent.map modeller.object) before = .ok handle made ∧
      modeller.scene.setTransform handle position turns scale made = .ok () laid ∧
      modeller.scene.reparent handle (settings.destination.map modeller.object) laid =
        .ok () after ∧
      Tended readable base (held ++ [handle]) after ∧
      Lies readable settings after handle ⟨position, turns, scale⟩ ∧
      ∀ other, readable.Shows before.document other →
        readable.look after.document other = readable.look before.document other := by
  rcases tended.prepared ready with ⟨prefab, sight, between, prepares, tending, looks, kept⟩
  rcases readable.places_copy tending.sound looks
      (fun above given => tending.still (ready.parent above given)) with
      ⟨copy, made, places, new, begun⟩
  rcases placed.eq_spatial with ⟨x, y, z, rfl⟩
  rcases scaled.eq_spatial with ⟨a, b, c, rfl⟩
  rcases readable.sets_transform begun.sound begun.here x y z turns a b c with
      ⟨laid, transforms, later⟩
  have drawn := begun.trans later
  have strange : ¬ readable.Shows base.document copy := fun shown => by
    rcases tending.still shown with ⟨_, shown⟩
    cases new.symm.trans shown
  have childless := (tending.joined new drawn ready.parent).childless strange
  have fits (above : H) (given : settings.destination = some above) :
      above ≠ copy ∧ readable.Shows laid above := by
    have there := ready.destination above given
    refine ⟨?_, (tending.joined new drawn ready.parent).still there⟩
    rintro rfl
    exact strange there
  rcases readable.adopts drawn.sound drawn.here childless fits with ⟨after, adopts, last⟩
  have whole := drawn.trans last
  have makes : modeller.scene.instantiate (settings.prefab.map modeller.object)
      (settings.parent.map modeller.object) before = .ok copy ⟨made, between.prefab⟩ :=
    (Act.bind_of_ok prepares).trans
      (Workshop.onDocument_of_ok (orRefused_of_ok modeller .instantiate _ places) between.prefab)
  have lays := modeller.scene_setTransform_of_ok transforms between.prefab
  have moves := modeller.scene_reparent_of_ok adopts between.prefab
  refine ⟨copy, _, _, _, makes, lays, moves, tending.joined new whole ready.destination,
    whole.here, fun other shown => ?_⟩
  have different : other ≠ copy := by
    rintro rfl
    rcases shown with ⟨_, shown⟩
    cases new.symm.trans ((kept other ⟨_, shown⟩).trans shown)
  exact (whole.others other different).trans (kept other shown)

/-- A modeller whose documents can be read back hosts a tree whose prefab, parent and owner are in
the document. -/
def hosting (ready : Ready readable settings base) :
    modeller.scene.Hosting (settings.map modeller.object) where
  sound held workshop := Tended readable base held workshop
  lies := Lies readable settings
  plants {held before branch turns} tended spatial heading := by
    have scaled : branch.scale.Spatial := Vec.spatial_spatial _ _ _
    rcases tended.plants ready turns spatial.start scaled with
        ⟨handle, made, laid, after, makes, places, moves, grown, lies, others⟩
    rw [Settings.destination_map]
    refine ⟨handle, made, laid, after, makes, places, moves, grown, lies, ?_⟩
    intro other member stance lying
    exact (others other (tended.holds other member).1).trans lying
  removes {handle held before} tended := by
    rcases tended.holds handle List.mem_cons_self with ⟨shown, strange⟩
    rcases readable.removes tended.sound shown (tended.childless strange) with
        ⟨after, removes, redrawn⟩
    exact ⟨_, modeller.scene_destroy_of_ok removes before.prefab, tended.removed redrawn⟩

end Readable
end Modeller
end Arbor
