import Arbor.Proofs.Scene.Recording

/-!
# What calls make of a stage

A call with a live object of a stage always succeeds, and so does the making of an object.  What the
theatre is like afterwards is summed up for several calls at once: `Entered` for objects that have
been made, which come behind all others, and `Struck` for objects that have been destroyed, which
leave the others where they are.  Both can be put together call by call.
-/

namespace Arbor
namespace Recording
namespace Theatre

open Space

variable {number id : Nat} {theatre before between after : Theatre}

/-! ## Calls with live objects -/

theorem checkLive_of_live (sound : theatre.Sound number)
    (live : id ∈ (theatre.stage number).live) :
    checkLive number (.item id) theatre = .ok id theatre := by
  rcases sound.stands id live with ⟨item, there, stands⟩
  simp only [checkLive, there, stands, Bool.false_eq_true, if_false, if_pos live]

theorem updateItem_updateItem (theatre : Theatre) (id : Nat) (first second : Item → Item) :
    (theatre.updateItem id first).updateItem id second =
      theatre.updateItem id fun item => second (first item) := by
  have same : (theatre.items.modify id first).modify id second =
      theatre.items.modify id fun item => second (first item) := by
    refine Array.ext_getElem? fun other => ?_
    simp only [Array.getElem?_modify]
    split
    · rw [Option.map_map]
      rfl
    · rfl
  simp only [updateItem, same]

/-- What placing, turning and scaling an object comes to, once the handle has been let through.  The
first part of it that has no form to be set in ends it, and the parts before that have been set. -/
inductive Transformed (id : Nat) (location rotation scale : Given) (before : Theatre) :
    Except Failure Unit → Theatre → Prop
  | unplaced {failure : Failure} (refused : location.toVec = .error failure) :
    Transformed id location rotation scale before (.error failure) before
  | unturned {place : Vec Float32} {failure : Failure} (placed : location.toVec = .ok place)
    (refused : rotation.toTurns = .error failure) :
    Transformed id location rotation scale before (.error failure)
      (before.updateItem id fun item => { item with location := place })
  | unscaled {place : Vec Float32} {turns : Turns Float32} {failure : Failure}
    (placed : location.toVec = .ok place) (turned : rotation.toTurns = .ok turns)
    (refused : scale.toVec = .error failure) :
    Transformed id location rotation scale before (.error failure)
      (before.updateItem id fun item => { item with location := place, rotation := turns })
  | whole {place size : Vec Float32} {turns : Turns Float32} (placed : location.toVec = .ok place)
    (turned : rotation.toTurns = .ok turns) (scaled : scale.toVec = .ok size) :
    Transformed id location rotation scale before (.ok ())
      (before.updateItem id fun item =>
        { item with location := place, rotation := turns, scale := size })

theorem transform_transformed {handle : Handle}
    (checked : checkLive number handle before = .ok id before) (location rotation scale : Given) :
    ∃ result after, transform number handle location rotation scale before =
        Act.settled result after ∧
      Transformed id location rotation scale before result after := by
  unfold transform
  rw [Act.bind_of_ok checked]
  cases placed : location.toVec with
  | error failure => exact ⟨.error failure, _, rfl, .unplaced placed⟩
  | ok place =>
    cases turned : rotation.toTurns with
    | error failure => exact ⟨.error failure, _, rfl, .unturned placed turned⟩
    | ok turns =>
      have both : ((before.updateItem id fun item => { item with location := place }).updateItem id
          fun item => { item with rotation := turns }) =
          before.updateItem id fun item => { item with location := place, rotation := turns } :=
        updateItem_updateItem ..
      cases scaled : scale.toVec with
      | error failure =>
        exact ⟨.error failure, _, congrArg (Act.settled (.error failure)) both,
          .unscaled placed turned scaled⟩
      | ok size =>
        have all : (((before.updateItem id fun item => { item with location := place }).updateItem
            id fun item => { item with rotation := turns }).updateItem id
              fun item => { item with scale := size }) =
            before.updateItem id fun item =>
              { item with location := place, rotation := turns, scale := size } := by
          rw [both, updateItem_updateItem]
        exact ⟨.ok (), _, congrArg (Act.settled (.ok ())) all, .whole placed turned scaled⟩

/-- There is one way in which placing, turning and scaling goes. -/
theorem Transformed.unique {location rotation scale : Given} {result other : Except Failure Unit}
    {left : Theatre} (first : Transformed id location rotation scale before result after)
    (second : Transformed id location rotation scale before other left) :
    result = other ∧ after = left := by
  cases first with
  | unplaced refused =>
    cases second with
    | unplaced again =>
      cases refused.symm.trans again
      exact ⟨rfl, rfl⟩
    | unturned placed | unscaled placed | whole placed => cases refused.symm.trans placed
  | unturned placed refused =>
    cases second with
    | unplaced again => cases placed.symm.trans again
    | unturned same again =>
      cases placed.symm.trans same
      cases refused.symm.trans again
      exact ⟨rfl, rfl⟩
    | unscaled _ turned | whole _ turned => cases refused.symm.trans turned
  | unscaled placed turned refused =>
    cases second with
    | unplaced again => cases placed.symm.trans again
    | unturned _ again => cases turned.symm.trans again
    | unscaled same alike again =>
      cases placed.symm.trans same
      cases turned.symm.trans alike
      cases refused.symm.trans again
      exact ⟨rfl, rfl⟩
    | whole _ _ scaled => cases refused.symm.trans scaled
  | whole placed turned scaled =>
    cases second with
    | unplaced again => cases placed.symm.trans again
    | unturned _ again => cases turned.symm.trans again
    | unscaled _ _ again => cases scaled.symm.trans again
    | whole same alike equal =>
      cases placed.symm.trans same
      cases turned.symm.trans alike
      cases scaled.symm.trans equal
      exact ⟨rfl, rfl⟩

theorem setTransform_of_live (sound : theatre.Sound number)
    (live : id ∈ (theatre.stage number).live) (position : Vec Float32) (turns : Turns Float32)
    (scale : Vec Float32) :
    (scene number).setTransform id position turns scale theatre =
      .ok () (theatre.updateItem id fun item =>
        { item with location := position, rotation := turns, scale := scale }) := by
  rcases transform_transformed (checkLive_of_live sound live) (.components position.toList)
      (.turns turns) (.components scale.toList) with ⟨_, _, run, transformed⟩
  cases transformed with
  | unplaced refused => cases refused
  | unturned _ refused => cases refused
  | unscaled _ _ refused => cases refused
  | whole placed turned scaled =>
    cases placed
    cases turned
    cases scaled
    exact run

theorem reparent_of_live (sound : theatre.Sound number)
    (live : id ∈ (theatre.stage number).live) (parent : Option Value) :
    (scene number).reparent id parent theatre =
      .ok () (theatre.updateItem id fun item => { item with parent := parent }) :=
  Act.bind_of_ok (checkLive_of_live sound live)

/-- A theatre in which an object has been marked as destroyed and taken from its stage. -/
def strike (number id : Nat) (theatre : Theatre) : Theatre :=
  (theatre.updateItem id fun item => { item with destroyed := true }).updateStage number
    fun stage => { stage with live := stage.live.erase id }

theorem destroy_of_live (sound : theatre.Sound number)
    (live : id ∈ (theatre.stage number).live) :
    (scene number).destroy id theatre = .ok () (theatre.strike number id) :=
  Act.bind_of_ok (checkLive_of_live sound live)

theorem Sound.updateItem (sound : theatre.Sound number) (id : Nat) {change : Item → Item}
    (kept : ∀ item, (change item).destroyed = item.destroyed) :
    (theatre.updateItem id change).Sound number :=
  sound.of_sameLives ((SameLives.refl theatre).updateItem id kept)

/-- Nothing changes on the other stages. -/
theorem stage_updateStage_of_ne {other : Nat} (different : other ≠ number) (theatre : Theatre)
    (change : Stage → Stage) :
    (theatre.updateStage number change).stage other = theatre.stage other := by
  simp only [stage, updateStage, List.getD_eq_getElem?_getD, List.getElem?_modify,
    if_neg different.symm, Option.map_eq_map, Option.map_id']

/-! ## Objects that enter -/

/-- Objects have been made on a stage: they come behind all objects there are, and behind the live
ones of their stage. -/
structure Entered (number : Nat) (items : List Item) (before after : Theatre) : Prop where
  made : after.items.toList = before.items.toList ++ items
  live : (after.stage number).live =
    (before.stage number).live ++ List.range' before.items.size items.length
  created : (after.stage number).created = (before.stage number).created + items.length
  elsewhere : ∀ other, other ≠ number → after.stage other = before.stage other

namespace Entered

variable {items others : List Item} {item : Item}

theorem size (entered : Entered number items before after) :
    after.items.size = before.items.size + items.length := by
  rw [← Array.length_toList, entered.made, List.length_append, Array.length_toList]

theorem nil (theatre : Theatre) : Entered number [] theatre theatre where
  made := (List.append_nil _).symm
  live := (List.append_nil _).symm
  created := rfl
  elsewhere _ _ := rfl

theorem append (first : Entered number items before between)
    (second : Entered number others between after) :
    Entered number (items ++ others) before after where
  made := by rw [second.made, first.made, List.append_assoc]
  live := by
    rw [second.live, first.live, first.size, List.append_assoc, List.length_append,
      List.range'_append_1]
  created := by rw [second.created, first.created, List.length_append, Nat.add_assoc]
  elsewhere other different :=
    (second.elsewhere other different).trans (first.elsewhere other different)

/-- The objects from before are still there as they were. -/
theorem kept (entered : Entered number items before after) (old : id < before.items.size) :
    after.items[id]? = before.items[id]? := by
  rw [← Array.length_toList] at old
  rw [← Array.getElem?_toList, entered.made, List.getElem?_append_left old, Array.getElem?_toList]

/-- The objects that have been made are there behind them. -/
theorem there (entered : Entered number items before after) (index : Nat) :
    after.items[before.items.size + index]? = items[index]? := by
  rw [← Array.getElem?_toList, entered.made, ← Array.length_toList,
    List.getElem?_append_right (Nat.le_add_right _ _), Nat.add_sub_cancel_left]

/-- The object that has been made last may be changed. -/
theorem updateItem (entered : Entered number [item] before after) (change : Item → Item) :
    Entered number [change item] before (after.updateItem before.items.size change) where
  made := by
    refine List.ext_getElem? fun other => ?_
    rw [Array.getElem?_toList]
    simp only [Theatre.updateItem, Array.getElem?_modify]
    rcases Nat.lt_or_ge other before.items.size with old | new
    · rw [if_neg (Nat.ne_of_gt old), entered.kept old, ← Array.getElem?_toList,
        List.getElem?_append_left (by rwa [Array.length_toList])]
    · rcases Nat.exists_eq_add_of_le new with ⟨index, rfl⟩
      have behind : (before.items.toList ++ [change item])[before.items.size + index]? =
          [change item][index]? := by
        rw [← Array.length_toList, List.getElem?_append_right (Nat.le_add_right _ _),
          Nat.add_sub_cancel_left]
      rw [entered.there, behind]
      cases index with
      | zero => rw [Nat.add_zero, if_pos rfl]; rfl
      | succ index => rw [if_neg (by omega)]; rfl
  live := entered.live
  created := entered.created
  elsewhere := entered.elsewhere

end Entered

/-- An object can always be made. -/
theorem instantiate_entered (sound : before.Sound number) (prefab parent : Option Value) :
    ∃ after, (scene number).instantiate prefab parent before = .ok before.items.size after ∧
      after.Sound number ∧ Entered number
        [{ index := (before.stage number).created, prefab := prefab, parent := parent }]
        before after := by
  have run : (scene number).instantiate prefab parent before = .ok before.items.size _ := rfl
  rcases instantiate_live sound run with ⟨stillSound, -, lives⟩
  refine ⟨_, run, stillSound, ⟨?_, lives, ?_, fun other different => ?_⟩⟩
  · exact Array.toList_push
  · exact congrArg Stage.created (stage_updateStage _ _ sound.inside)
  · exact stage_updateStage_of_ne different _ _

/-! ## Objects that are struck -/

/-- Objects have been destroyed: they are no longer live on the stage, and the others are there as
they were. -/
structure Struck (number : Nat) (ids : List Nat) (before after : Theatre) : Prop where
  size : after.items.size = before.items.size
  items : ∀ id : Nat, after.items[id]? = (before.items[id]?).map fun item =>
    if id ∈ ids then { item with destroyed := true } else item
  live : (after.stage number).live = (before.stage number).live.filter (· ∉ ids)
  created : (after.stage number).created = (before.stage number).created
  elsewhere : ∀ other, other ≠ number → after.stage other = before.stage other

namespace Struck

variable {ids others : List Nat}

theorem nil (theatre : Theatre) : Struck number [] theatre theatre where
  size := rfl
  items id := by simp
  live := (List.filter_eq_self.mpr fun id _ => by simp).symm
  created := rfl
  elsewhere _ _ := rfl

theorem append (first : Struck number ids before between)
    (second : Struck number others between after) : Struck number (ids ++ others) before after where
  size := second.size.trans first.size
  items id := by
    rw [second.items, first.items, Option.map_map]
    congr 1
    funext item
    by_cases early : id ∈ ids <;> by_cases late : id ∈ others <;> simp [early, late]
  live := by
    rw [second.live, first.live, List.filter_filter]
    congr 1
    funext id
    by_cases early : id ∈ ids <;> by_cases late : id ∈ others <;> simp [early, late]
  created := second.created.trans first.created
  elsewhere other different :=
    (second.elsewhere other different).trans (first.elsewhere other different)

end Struck

/-- A live object is listed once, so erasing it is leaving it out. -/
theorem Sound.erase_live (sound : theatre.Sound number) (id : Nat) :
    (theatre.stage number).live.erase id = (theatre.stage number).live.filter (· ∉ [id]) := by
  rw [sound.nodup.erase_eq_filter]
  refine List.filter_congr fun other _ => ?_
  by_cases same : other = id <;> simp [same]

/-- A live object can always be destroyed. -/
theorem destroy_struck (sound : before.Sound number) (live : id ∈ (before.stage number).live) :
    ∃ after, (scene number).destroy id before = .ok () after ∧ after.Sound number ∧
      Struck number [id] before after := by
  have run := destroy_of_live sound live
  rcases destroy_live sound run with ⟨stillSound, lives⟩
  have stage : (before.strike number id).stage number =
      ⟨(before.stage number).live.erase id, (before.stage number).created⟩ :=
    stage_updateStage _ _ sound.inside
  refine ⟨_, run, stillSound, ⟨?_, fun other => ?_, ?_, by rw [stage],
    fun other different => stage_updateStage_of_ne different _ _⟩⟩
  · simp only [strike, updateStage, updateItem, Array.size_modify]
  · simp only [strike, updateStage, updateItem, Array.getElem?_modify, List.mem_singleton]
    by_cases same : id = other
    · simp only [same, if_true]
    · simp only [if_neg same, if_neg (Ne.symm same), Option.map_id']
  · rw [lives, sound.erase_live]

end Theatre
end Recording
end Arbor
