import Arbor.Proofs.Scene.Ledger
import Arbor.Scene.Rehearsal

/-!
# The live objects of a recording scene

A stage of a theatre lists every live object once, and none of them has been destroyed.  Every call
on the stage keeps this so, and the list follows the calls as a ledger asks.  Placing and moving an
object changes neither which objects are live nor which have been destroyed, even if it fails half
way.
-/

namespace Arbor
namespace Recording
namespace Theatre

variable {number id : Nat} {theatre before after : Theatre}

/-- A stage is there, and its live objects are there, each listed once and none destroyed. -/
structure Sound (number : Nat) (theatre : Theatre) : Prop where
  inside : number < theatre.stages.length
  nodup : (theatre.stage number).live.Nodup
  stands : ∀ id ∈ (theatre.stage number).live,
    ∃ item, theatre.items[id]? = some item ∧ item.destroyed = false

theorem ofStages_sound {count : Nat} (inside : number < count) : (ofStages count).Sound number := by
  have empty : ((ofStages count).stage number).live = [] := by
    simp only [stage, ofStages, List.getD_eq_getElem?_getD, List.getElem?_replicate, if_pos inside,
      Option.getD_some]
  refine ⟨by rwa [ofStages, List.length_replicate], ?_, fun id live => ?_⟩
  · rw [empty]
    exact List.nodup_nil
  · rw [empty] at live
    cases live

theorem stage_updateStage (theatre : Theatre) (change : Stage → Stage)
    (inside : number < theatre.stages.length) :
    (theatre.updateStage number change).stage number = change (theatre.stage number) := by
  simp only [stage, updateStage, List.getD_eq_getElem?_getD, List.getElem?_modify,
    List.getElem?_eq_getElem inside, if_true, Option.map_eq_map, Option.map_some,
    Option.getD_some]

/-- Two theatres have the same stages, and the same objects have been destroyed in them. -/
structure SameLives (before after : Theatre) : Prop where
  stages : after.stages = before.stages
  destroyed : ∀ id : Nat,
    (after.items[id]?).map Item.destroyed = (before.items[id]?).map Item.destroyed

theorem SameLives.refl (theatre : Theatre) : SameLives theatre theatre := ⟨rfl, fun _ => rfl⟩

theorem SameLives.updateItem (same : SameLives before after) (id : Nat) {change : Item → Item}
    (kept : ∀ item, (change item).destroyed = item.destroyed) :
    SameLives before (after.updateItem id change) := by
  refine ⟨same.stages, fun other => ?_⟩
  rw [← same.destroyed other]
  simp only [Theatre.updateItem, Array.getElem?_modify]
  split
  · rw [Option.map_map]
    exact congrArg (Option.map · _) (funext kept)
  · rfl

theorem SameLives.stage (same : SameLives before after) :
    after.stage number = before.stage number := by
  simp only [Theatre.stage, same.stages]

theorem Sound.of_sameLives (sound : before.Sound number) (same : SameLives before after) :
    after.Sound number := by
  refine ⟨same.stages ▸ sound.inside, same.stage ▸ sound.nodup, fun id live => ?_⟩
  rw [same.stage] at live
  rcases sound.stands id live with ⟨item, there, stands⟩
  have flags := same.destroyed id
  rw [there, Option.map_some, stands] at flags
  rcases Option.map_eq_some_iff.mp flags with ⟨other, thereAfter, flag⟩
  exact ⟨other, thereAfter, flag⟩

/-- Whether an object is live is looked up without a change. -/
theorem checkLive_cases (number id : Nat) (theatre : Theatre) :
    (checkLive number (.item id) theatre = .ok id theatre ∧ id ∈ (theatre.stage number).live) ∨
      ∃ failure, checkLive number (.item id) theatre = .error failure theatre := by
  cases found : theatre.items[id]? with
  | none => exact Or.inr ⟨_, by simp only [checkLive, found]; rfl⟩
  | some item =>
    cases flag : item.destroyed with
    | true => exact Or.inr ⟨_, by simp only [checkLive, found, flag, if_true]; rfl⟩
    | false =>
      by_cases live : id ∈ (theatre.stage number).live
      · refine Or.inl ⟨?_, live⟩
        simp only [checkLive, found, flag, Bool.false_eq_true, if_false, if_pos live]
      · refine Or.inr ⟨⟨.unknownHandle item.written, [], []⟩, ?_⟩
        simp only [checkLive, found, flag, Bool.false_eq_true, if_false, if_neg live]

/-! ## Calls that leave the live objects alone -/

theorem checkLive_keeps (property : Theatre → Prop) (number id : Nat) :
    Act.Keeps property (checkLive number (.item id)) := by
  intro theatre holds
  unfold Act.reached
  rcases checkLive_cases number id theatre with ⟨run, -⟩ | ⟨failure, run⟩ <;> rwa [run]

/-- Placing, turning and scaling an object keeps what the check of its handle keeps and every change
of an object that does not destroy it. -/
theorem transform_keeps {property : Theatre → Prop} {handle : Handle}
    (checks : Act.Keeps property (checkLive number handle))
    (changes : ∀ (id : Nat) (change : Item → Item),
      (∀ item, (change item).destroyed = item.destroyed) →
        ∀ theatre, property theatre → property (theatre.updateItem id change))
    (location rotation scale : Given) :
    Act.Keeps property (transform number handle location rotation scale) := by
  refine Act.Keeps.bind checks fun id => ?_
  refine Act.Keeps.bind (Act.Keeps.lift _) fun location => ?_
  refine Act.Keeps.bind (Act.Keeps.modify (changes id _ fun _ => rfl)) fun _ => ?_
  refine Act.Keeps.bind (Act.Keeps.lift _) fun rotation => ?_
  refine Act.Keeps.bind (Act.Keeps.modify (changes id _ fun _ => rfl)) fun _ => ?_
  refine Act.Keeps.bind (Act.Keeps.lift _) fun scale => ?_
  exact Act.Keeps.modify (changes id _ fun _ => rfl)

theorem setTransform_keeps (number id : Nat) (location : List Float32)
    (rotation : Space.Turns Float32) (scale : List Float32) :
    Act.Keeps (SameLives before) (setTransform number (.item id) location rotation scale) :=
  transform_keeps (checkLive_keeps _ number id)
    (fun id _ kept _ same => same.updateItem id kept) _ _ _

theorem reparent_keeps (number id : Nat) (parent : Option Value) :
    Act.Keeps (SameLives before) (reparent number (.item id) parent) := by
  refine Act.Keeps.bind (checkLive_keeps _ number id) fun id => ?_
  exact Act.Keeps.modify fun _ same => same.updateItem id fun _ => rfl

/-! ## Calls that change the live objects -/

/-- What is made was not live, and is live afterwards besides all that was. -/
theorem instantiate_live {prefab parent : Option Value} {handle : Nat}
    (sound : before.Sound number)
    (run : instantiate number prefab parent before = .ok handle after) :
    after.Sound number ∧ handle ∉ (before.stage number).live ∧
      (after.stage number).live = (before.stage number).live ++ [handle] := by
  cases run
  have fresh : before.items.size ∉ (before.stage number).live := fun live => by
    rcases sound.stands _ live with ⟨item, there, -⟩
    rw [Array.getElem?_eq_none (Nat.le_refl _)] at there
    cases there
  have lives (items : Array Item) : ((updateStage number
      (fun stage => ⟨stage.live ++ [before.items.size], stage.created + 1⟩)
      ⟨items, before.stages⟩).stage number).live =
        (before.stage number).live ++ [before.items.size] :=
    congrArg Stage.live (stage_updateStage _ _ sound.inside)
  refine ⟨⟨?_, ?_, fun id live => ?_⟩, fresh, lives _⟩
  · rw [updateStage, List.length_modify]
    exact sound.inside
  · rw [lives]
    have single : [before.items.size].Nodup :=
      List.nodup_cons.mpr ⟨List.not_mem_nil, List.nodup_nil⟩
    refine List.nodup_append.mpr ⟨sound.nodup, single, ?_⟩
    intro id live other new same
    exact fresh (List.mem_singleton.mp new ▸ same ▸ live)
  · rw [lives] at live
    change ∃ item, (before.items.push _)[id]? = some item ∧ item.destroyed = false
    rw [Array.getElem?_push]
    by_cases new : id = before.items.size
    · exact ⟨_, if_pos new, rfl⟩
    · have old := (List.mem_append.mp live).resolve_right fun member =>
        new (List.mem_singleton.mp member)
      rw [if_neg new]
      exact sound.stands id old

theorem destroy_cases (number id : Nat) (before : Theatre) :
    (id ∈ (before.stage number).live ∧ destroy number (.item id) before =
      .ok () ((before.updateItem id fun item => { item with destroyed := true }).updateStage number
        fun stage => { stage with live := stage.live.erase id })) ∨
      ∃ failure, destroy number (.item id) before = .error failure before := by
  rcases checkLive_cases number id before with ⟨run, live⟩ | ⟨failure, run⟩
  · exact Or.inl ⟨live, Act.bind_of_ok run⟩
  · exact Or.inr ⟨failure, Act.bind_of_error run⟩

/-- What is destroyed is no longer live, and nothing else changes in this. -/
theorem destroy_live (sound : before.Sound number)
    (run : destroy number (.item id) before = .ok () after) :
    after.Sound number ∧ (after.stage number).live = (before.stage number).live.erase id := by
  rcases destroy_cases number id before with ⟨-, removed⟩ | ⟨failure, refused⟩
  · rw [removed] at run
    cases run
    have lives := congrArg Stage.live (stage_updateStage
      (before.updateItem id fun item => { item with destroyed := true })
      (fun stage => { stage with live := stage.live.erase id }) sound.inside)
    refine ⟨⟨?_, ?_, fun other live => ?_⟩, lives⟩
    · rw [updateStage, List.length_modify]
      exact sound.inside
    · exact lives ▸ sound.nodup.erase id
    · rw [lives] at live
      rcases sound.nodup.mem_erase_iff.mp live with ⟨different, live⟩
      rcases sound.stands other live with ⟨item, there, stands⟩
      refine ⟨item, ?_, stands⟩
      change (before.items.modify id _)[other]? = some item
      rw [Array.getElem?_modify, if_neg (Ne.symm different), there]
  · rw [refused] at run
    cases run

theorem destroy_of_error {failure : Failure}
    (run : destroy number (.item id) before = .error failure after) : after = before := by
  rcases destroy_cases number id before with ⟨-, removed⟩ | ⟨other, refused⟩
  · rw [removed] at run
    cases run
  · rw [refused] at run
    cases run
    rfl

/-- A stage keeps account of its live objects. -/
def ledger (number : Nat) : (scene number).Ledger where
  sound := Sound number
  live theatre := {id | id ∈ (theatre.stage number).live}
  fresh sound run := (instantiate_live sound run).2.1
  keeps {deed before after} sound happens := by
    cases deed with
    | instantiate prefab parent result =>
      cases result with
      | error failure => cases happens
      | ok handle =>
        rcases instantiate_live sound happens with ⟨stillSound, -, lives⟩
        refine ⟨stillSound, Set.ext fun id => ?_⟩
        rw [Deed.mem_liveAfter, Set.mem_ofPred_eq, lives, List.mem_append, List.mem_singleton]
        simp only [Deed.made?, Deed.destroyed?, Option.some_inj, eq_comm, Set.mem_ofPred_eq,
          reduceCtorEq, not_false_eq_true, and_true]
    | setTransform handle position rotation scale result =>
      have same := (setTransform_keeps number handle position.toList rotation scale.toList).settled
        (SameLives.refl before) happens
      refine ⟨sound.of_sameLives same, ?_⟩
      rw [Deed.liveAfter_of_idle rfl rfl, same.stage]
    | reparent handle parent result =>
      have same := (reparent_keeps number handle parent).settled (SameLives.refl before) happens
      refine ⟨sound.of_sameLives same, ?_⟩
      rw [Deed.liveAfter_of_idle rfl rfl, same.stage]
    | destroy removal handle result =>
      cases result with
      | error failure =>
        cases destroy_of_error happens
        exact ⟨sound, (Deed.liveAfter_of_idle rfl rfl _).symm⟩
      | ok value =>
        rcases destroy_live sound happens with ⟨stillSound, lives⟩
        refine ⟨stillSound, Set.ext fun id => ?_⟩
        rw [Deed.mem_liveAfter, Set.mem_ofPred_eq, lives, sound.nodup.mem_erase_iff, and_comm]
        simp only [Deed.made?, Deed.destroyed?, Option.some_inj, eq_comm, Set.mem_ofPred_eq,
          reduceCtorEq, or_false, ne_eq]

end Theatre
end Recording
end Arbor
