import Arbor.Proofs.Scene.Staging

/-!
# The lifetimes of recorded objects

Calls come to the stages of a theatre in any order and with any handles: of live objects and of
destroyed ones, of objects on other stages, and of values that are no handles at all.  What they
make of the stages can be read off two lists for each stage, of the objects that it has made and of
those that it has destroyed.  The live objects are the ones in the first list and not in the second,
the place of an object in the first list is its index, and the second list says which objects are
marked as destroyed.  Neither list ever loses an entry, so nothing is live twice.
-/

namespace Arbor
namespace Recording

open Space

/-- The object that a handle names. -/
def Handle.item? (theatre : Theatre) : Handle → Option Item
  | .item id => theatre.items[id]?
  | .other _ => none

/-- A handle is that of a live object of the stage. -/
def Handle.LiveOn (number : Nat) (theatre : Theatre) (handle : Handle) : Prop :=
  ∃ id ∈ (theatre.stage number).live, handle = .item id

/-- What a scene itself keeps of an object: its index, and whether it has been destroyed. -/
def Item.mark (item : Item) : Nat × Bool := (item.index, item.destroyed)

/-- What may be asked of a stage. -/
inductive Call where
  | instantiate (prefab parent : Option Value)
  | setTransform (handle : Handle) (location : List Float32) (rotation : Turns Float32)
      (scale : List Float32)
  | reparent (handle : Handle) (parent : Option Value)
  | destroy (handle : Handle)

namespace Call

/-- The handle with which a call comes, unless it is to make an object. -/
def handle? : Call → Option Handle
  | instantiate _ _ => none
  | setTransform handle _ _ _ => some handle
  | reparent handle _ => some handle
  | destroy handle => some handle

/-- Do on a stage what is asked of it. -/
def act (number : Nat) : Call → Act Theatre Unit
  | instantiate prefab parent => discard (Theatre.instantiate number prefab parent)
  | setTransform handle location rotation scale =>
    Theatre.setTransform number handle location rotation scale
  | reparent handle parent => Theatre.reparent number handle parent
  | destroy handle => Theatre.destroy number handle

/-- The object that a stage makes if it is asked so. -/
def made? (number : Nat) (theatre : Theatre) : Call → Option Nat
  | instantiate prefab parent =>
    ((Theatre.instantiate number prefab parent).outcome theatre).toOption
  | _ => none

/-- The object that a stage destroys if it is asked so. -/
def destroyed? (number : Nat) (theatre : Theatre) : Call → Option Nat
  | destroy (.item id) =>
    ((Theatre.destroy number (.item id)).outcome theatre).toOption.map fun _ => id
  | _ => none

end Call

namespace Theatre

variable {number id count : Nat} {theatre before after : Theatre} {handle : Handle} {call : Call}

/-- What has become of a theatre after calls one after the other, whether they fail or not. -/
def afterCalls : List (Fin count × Call) → Theatre → Theatre
  | [], theatre => theatre
  | (stage, call) :: calls, theatre => afterCalls calls ((call.act stage).reached theatre)

/-- What a call adds to a list of objects that is kept for one stage, if it comes to this or to
another stage. -/
def entry (number stage : Fin count) (object : Option Nat) : List Nat :=
  if stage = number then object.toList else []

theorem mem_entry {number stage : Fin count} {object : Option Nat} :
    id ∈ entry number stage object ↔ stage = number ∧ object = some id := by
  unfold entry
  split
  · simp only [Option.mem_toList, true_and, *]
  · simp only [List.not_mem_nil, false_and, *]

theorem entry_none (number stage : Fin count) : entry number stage none = [] := ite_self _

theorem entry_self (number : Fin count) (id : Nat) : entry number number (some id) = [id] :=
  if_pos rfl

theorem entry_of_ne {number stage : Fin count} (different : stage ≠ number)
    (object : Option Nat) : entry number stage object = [] :=
  if_neg different

/-- The objects that a stage makes in the course of some calls. -/
def madeOn (number : Fin count) : List (Fin count × Call) → Theatre → List Nat
  | [], _ => []
  | (stage, call) :: calls, theatre =>
    entry number stage (call.made? stage theatre) ++
      madeOn number calls ((call.act stage).reached theatre)

/-- The objects that a stage destroys in the course of some calls. -/
def destroyedOn (number : Fin count) : List (Fin count × Call) → Theatre → List Nat
  | [], _ => []
  | (stage, call) :: calls, theatre =>
    entry number stage (call.destroyed? stage theatre) ++
      destroyedOn number calls ((call.act stage).reached theatre)

/-! ## Handles that are refused -/

/-- A stage refuses every handle that is not that of one of its live objects, and says so. -/
theorem checkLive_refuses (number : Nat) (theatre : Theatre)
    (refused : ¬ handle.LiveOn number theatre) :
    ∃ reason, checkLive number handle theatre = .error ⟨reason, [], []⟩ theatre ∧
      ((∃ item, handle.item? theatre = some item ∧ item.destroyed = true ∧
          reason = .alreadyDestroyed item.index) ∨
        (∀ item, handle.item? theatre = some item → item.destroyed = false) ∧
          ∃ shown, reason = .unknownHandle shown) := by
  cases handle with
  | other value =>
    exact ⟨.unknownHandle value.written, rfl,
      Or.inr ⟨fun item found => (by cases found), _, rfl⟩⟩
  | item id =>
    cases found : theatre.items[id]? with
    | none =>
      refine ⟨.unknownHandle (toString id), by simp only [checkLive, found], Or.inr ⟨?_, _, rfl⟩⟩
      intro item there
      cases found.symm.trans there
    | some item =>
      cases flag : item.destroyed with
      | true =>
        exact ⟨.alreadyDestroyed item.index, by simp only [checkLive, found, flag, if_true],
          Or.inl ⟨item, found, flag, rfl⟩⟩
      | false =>
        have missing : id ∉ (theatre.stage number).live := fun live => refused ⟨id, live, rfl⟩
        refine ⟨.unknownHandle item.written, ?_, Or.inr ⟨fun other there => ?_, _, rfl⟩⟩
        · simp only [checkLive, found, flag, Bool.false_eq_true, if_false, if_neg missing]
        · cases found.symm.trans there
          exact flag

/-- A call with a handle fails as the check of the handle does. -/
theorem act_of_refused {failure : Failure} (carries : call.handle? = some handle)
    (refused : checkLive number handle theatre = .error failure theatre) :
    call.act number theatre = .error failure theatre := by
  cases call with
  | instantiate prefab parent => cases carries
  | setTransform other location rotation scale =>
    cases carries
    exact Act.bind_of_error refused
  | reparent other parent =>
    cases carries
    exact Act.bind_of_error refused
  | destroy other =>
    cases carries
    exact Act.bind_of_error refused

/-! ## What a call does -/

/-- At most one object has been changed, and that object keeps its index and has been destroyed if it
had been before. -/
structure Altered (id : Nat) (before after : Theatre) : Prop where
  stages : after.stages = before.stages
  size : after.items.size = before.items.size
  others : ∀ other, other ≠ id → after.items[other]? = before.items[other]?
  mark : (after.items[id]?).map Item.mark = (before.items[id]?).map Item.mark

theorem Altered.refl (id : Nat) (theatre : Theatre) : Altered id theatre theatre :=
  ⟨rfl, rfl, fun _ _ => rfl, rfl⟩

theorem Altered.updateItem (altered : Altered id before after) {change : Item → Item}
    (kept : ∀ item, (change item).mark = item.mark) :
    Altered id before (after.updateItem id change) where
  stages := altered.stages
  size := (Array.size_modify ..).trans altered.size
  others other different := by
    rw [← altered.others other different, Theatre.updateItem, Array.getElem?_modify,
      if_neg (Ne.symm different)]
  mark := by
    rw [← altered.mark, Theatre.updateItem, Array.getElem?_modify, if_pos rfl, Option.map_map]
    exact congrArg (Option.map · _) (funext kept)

theorem Transformed.altered {location rotation scale : Given} {result : Except Failure Unit}
    (transformed : Transformed id location rotation scale before result after) :
    Altered id before after := by
  cases transformed with
  | unplaced => exact Altered.refl id before
  | unturned | unscaled | whole => exact (Altered.refl id before).updateItem fun _ => rfl

/-- An object that is placed is the only one that changes, even if the placing fails half way; and it
fails only for a place or a scale that is no vector. -/
theorem setTransform_altered (sound : before.Sound number)
    (live : id ∈ (before.stage number).live) (location : List Float32) (rotation : Turns Float32)
    (scale : List Float32) :
    ∃ result after, setTransform number (.item id) location rotation scale before =
        Act.settled result after ∧
      Altered id before after ∧ ∀ failure, result = .error failure → failure.kind = .value := by
  have short {components : List Float32} {failure : Failure}
      (refused : Vec.ofList components = .error failure) : failure.kind = .value := by
    match components with
    | [] | [_] =>
      cases refused
      rfl
  rcases transform_transformed (checkLive_of_live sound live) (.components location)
      (.turns rotation) (.components scale) with ⟨result, after, run, transformed⟩
  refine ⟨result, after, run, transformed.altered, ?_⟩
  rintro failure rfl
  cases transformed with
  | unplaced refused => exact short refused
  | unturned _ refused => cases refused
  | unscaled _ _ refused => exact short refused

/-- A call with a live object of the stage destroys it or changes it otherwise, and is refused only
for a place or a scale that is no vector. -/
theorem act_of_live (sound : before.Sound number) (live : id ∈ (before.stage number).live)
    (carries : call.handle? = some (.item id)) :
    (call = .destroy (.item id) ∧
      ∃ after, call.act number before = .ok () after ∧ Struck number [id] before after) ∨
    (∀ other, call ≠ .destroy other) ∧
      ∃ result after, call.act number before = Act.settled result after ∧
        Altered id before after ∧ ∀ failure, result = .error failure → failure.kind = .value := by
  cases call with
  | instantiate prefab parent => cases carries
  | setTransform other location rotation scale =>
    cases carries
    exact Or.inr ⟨fun other same => (by cases same),
      setTransform_altered sound live location rotation scale⟩
  | reparent other parent =>
    cases carries
    exact Or.inr ⟨fun other same => (by cases same), .ok (), _,
      reparent_of_live sound live parent,
      (Altered.refl id before).updateItem fun _ => rfl, fun failure failed => by cases failed⟩
  | destroy other =>
    cases carries
    rcases destroy_struck sound live with ⟨after, run, -, struck⟩
    exact Or.inl ⟨rfl, after, run, struck⟩

/-- A handle passes the check of a stage exactly if it is that of one of its live objects. -/
theorem checkLive_ok_iff (sound : theatre.Sound number) :
    (∃ id, checkLive number handle theatre = .ok id theatre) ↔ handle.LiveOn number theatre := by
  constructor
  · rintro ⟨id, passed⟩
    by_contra live
    rcases checkLive_refuses number theatre live with ⟨reason, refused, -⟩
    cases passed.symm.trans refused
  · rintro ⟨id, live, rfl⟩
    exact ⟨id, checkLive_of_live sound live⟩

/-- A call with a live object of the stage changes nothing but that object, and if it destroys it, the
list of the stage. -/
theorem act_touches (sound : before.Sound number) (live : id ∈ (before.stage number).live)
    (carries : call.handle? = some (.item id)) :
    let after := (call.act number).reached before
    (∀ other : Nat, other ≠ id → after.items[other]? = before.items[other]?) ∧
      (∀ other : Nat, other ≠ number → after.stage other = before.stage other) ∧
      (call = .destroy (.item id) → call.act number before = .ok () after ∧
        (after.stage number).live = (before.stage number).live.erase id) ∧
      (call ≠ .destroy (.item id) → after.stages = before.stages ∧
        ∀ failure left, call.act number before = .error failure left → failure.kind ≠ .scene) := by
  intro after
  rcases act_of_live sound live carries with
      ⟨destroys, left, run, struck⟩ | ⟨otherwise, result, left, run, altered, fails⟩
  · have reached : after = left := Act.reached_of_ok run
    rw [reached]
    refine ⟨fun other different => ?_, struck.elsewhere, fun _ => ⟨run, ?_⟩,
      fun otherwise => absurd destroys otherwise⟩
    · rw [struck.items]
      simp only [List.mem_singleton, if_neg different, Option.map_id']
    · rw [struck.live, sound.erase_live]
  · have reached : after = left := Act.reached_of_settled run
    rw [reached]
    refine ⟨altered.others, fun other _ => ?_, fun destroys => absurd destroys (otherwise _),
      fun _ => ⟨altered.stages, fun failure other failed => ?_⟩⟩
    · simp only [stage, altered.stages]
    · rw [run] at failed
      cases result with
      | ok value => cases failed
      | error cause =>
        cases failed
        rw [fails failure rfl]
        intro same
        cases same

/-- A call with any other handle fails and changes nothing. -/
theorem act_refuses (carries : call.handle? = some handle)
    (refused : ¬ handle.LiveOn number theatre) :
    ∃ reason, checkLive number handle theatre = .error ⟨reason, [], []⟩ theatre ∧
      call.act number theatre = .error ⟨reason, [], []⟩ theatre ∧ reason.kind = .scene ∧
      ((∃ item, handle.item? theatre = some item ∧ item.destroyed = true ∧
          reason = .alreadyDestroyed item.index) ∨
        (∀ item, handle.item? theatre = some item → item.destroyed = false) ∧
          ∃ shown, reason = .unknownHandle shown) := by
  rcases checkLive_refuses number theatre refused with ⟨reason, checked, why⟩
  refine ⟨reason, checked, act_of_refused carries checked, ?_, why⟩
  rcases why with ⟨item, -, -, rfl⟩ | ⟨-, shown, rfl⟩ <;> rfl

theorem made?_of_handle (carries : call.handle? = some handle) :
    call.made? number theatre = none := by
  cases call with
  | instantiate prefab parent => cases carries
  | _ => rfl

theorem destroyed?_of_ne (otherwise : ∀ other, call ≠ .destroy other) :
    call.destroyed? number theatre = none := by
  cases call with
  | destroy other => exact absurd rfl (otherwise other)
  | _ => rfl

theorem destroyed?_of_error {failure : Failure}
    (run : call.act number before = .error failure after) :
    call.destroyed? number before = none := by
  cases call with
  | destroy handle =>
    cases handle with
    | other value => rfl
    | item id =>
      have refused : destroy number (.item id) before = .error failure after := run
      simp only [Call.destroyed?, Act.outcome, refused, Except.toOption, Option.map_none]
  | _ => rfl

/-- A call makes an object, destroys a live one, or leaves the indices and the marks of all objects
alone. -/
theorem act_cases (sound : before.Sound number) (call : Call) :
    (call.made? number before = some before.items.size ∧ call.destroyed? number before = none ∧
      ∃ item, item.mark = ((before.stage number).created, false) ∧
        Entered number [item] before ((call.act number).reached before)) ∨
    (∃ id ∈ (before.stage number).live, call.made? number before = none ∧
      call.destroyed? number before = some id ∧
      Struck number [id] before ((call.act number).reached before)) ∨
    ∃ id, call.made? number before = none ∧ call.destroyed? number before = none ∧
      Altered id before ((call.act number).reached before) := by
  cases carries : call.handle? with
  | none =>
    cases call with
    | instantiate prefab parent =>
      rcases instantiate_entered sound prefab parent with ⟨after, run, -, entered⟩
      refine Or.inl ⟨rfl, rfl, ⟨(before.stage number).created, prefab, parent, .spatial 0 0 0,
        ⟨0, 0, 0, .zxy⟩, .spatial 1 1 1, false⟩, rfl, ?_⟩
      have made : Theatre.instantiate number prefab parent before =
          .ok before.items.size after := run
      rwa [Call.act, Act.reached_discard, Act.reached_of_ok made]
    | _ => cases carries
  | some handle =>
    by_cases live : handle.LiveOn number before
    · rcases live with ⟨id, live, rfl⟩
      rcases act_of_live sound live carries with
          ⟨rfl, after, run, struck⟩ | ⟨otherwise, result, after, run, altered, -⟩
      · refine Or.inr (Or.inl ⟨id, live, rfl, ?_, by rwa [Act.reached_of_ok run]⟩)
        have removed : destroy number (.item id) before = .ok () after := run
        simp only [Call.destroyed?, Act.outcome, removed, Except.toOption, Option.map_some]
      · refine Or.inr (Or.inr ⟨id, made?_of_handle carries, destroyed?_of_ne otherwise, ?_⟩)
        rwa [Act.reached_of_settled run]
    · rcases checkLive_refuses number before live with ⟨reason, checked, -⟩
      have run := act_of_refused carries checked
      refine Or.inr (Or.inr ⟨0, made?_of_handle carries, destroyed?_of_error run, ?_⟩)
      rw [Act.reached_of_error run]
      exact Altered.refl 0 before

theorem checkLive_reached (number : Nat) (handle : Handle) (theatre : Theatre) :
    (checkLive number handle).reached theatre = theatre := by
  cases handle with
  | other value => rfl
  | item id =>
    rcases checkLive_cases number id theatre with ⟨run, -⟩ | ⟨failure, run⟩
    · exact Act.reached_of_ok run
    · exact Act.reached_of_error run

/-- No call adds a stage or takes one away. -/
theorem act_keeps_stages (number : Nat) (call : Call) (total : Nat) :
    Act.Keeps (fun theatre => theatre.stages.length = total) (call.act number) := by
  have checks (handle : Handle) : Act.Keeps (fun theatre : Theatre => theatre.stages.length = total)
      (checkLive number handle) := fun theatre same => by rwa [checkLive_reached]
  cases call with
  | instantiate prefab parent =>
    intro theatre same
    rw [Call.act, Act.reached_discard, ← same]
    exact List.length_modify ..
  | setTransform handle location rotation scale =>
    exact transform_keeps (checks handle) (fun _ _ _ _ same => same) _ _ _
  | reparent handle parent =>
    exact Act.Keeps.bind (checks handle) fun id => Act.Keeps.modify fun _ same => same
  | destroy handle =>
    refine Act.Keeps.bind (checks handle) fun id => ?_
    refine Act.Keeps.bind (Act.Keeps.modify ?_) fun _ => Act.Keeps.modify ?_
    · exact fun _ same => same
    · exact fun theatre same => (List.length_modify ..).trans same

end Theatre

/-! ## Registers -/

/-- What a stage has made and what it has destroyed, as the theatre has it.  The place of an object
among those made is its index. -/
structure Register (number : Nat) (made gone : List Nat) (theatre : Theatre) : Prop where
  inside : number < theatre.stages.length
  live : (theatre.stage number).live = made.filter (· ∉ gone)
  created : (theatre.stage number).created = made.length
  ascending : made.Pairwise (· < ·)
  known : gone ⊆ made
  marks : ∀ (place id : Nat), made[place]? = some id →
    (theatre.items[id]?).map Item.mark = some (place, decide (id ∈ gone))

namespace Register

variable {number id : Nat} {made gone : List Nat} {theatre before after : Theatre}

/-- An object that was made is there. -/
theorem there (register : Register number made gone theatre) (member : id ∈ made) :
    id < theatre.items.size := by
  rcases List.mem_iff_getElem?.mp member with ⟨place, at_⟩
  rcases Option.map_eq_some_iff.mp (register.marks place id at_) with ⟨item, found, -⟩
  exact (Array.getElem?_eq_some_iff.mp found).1

theorem mem_live (register : Register number made gone theatre) :
    id ∈ (theatre.stage number).live ↔ id ∈ made ∧ id ∉ gone := by
  rw [register.live, List.mem_filter, decide_eq_true_iff]

/-- An object that was made has its index and its mark. -/
theorem item (register : Register number made gone theatre) {place : Nat}
    (found : made[place]? = some id) :
    ∃ item, theatre.items[id]? = some item ∧ item.index = place ∧
      (item.destroyed = true ↔ id ∈ gone) := by
  rcases Option.map_eq_some_iff.mp (register.marks place id found) with ⟨item, there, mark⟩
  refine ⟨item, there, congrArg Prod.fst mark, ?_⟩
  rw [show item.destroyed = decide (id ∈ gone) from congrArg Prod.snd mark, decide_eq_true_iff]

theorem nodup_live (register : Register number made gone theatre) :
    (theatre.stage number).live.Nodup := by
  rw [register.live]
  exact (register.ascending.imp fun less => Nat.ne_of_lt less).filter _

theorem sound (register : Register number made gone theatre) : theatre.Sound number where
  inside := register.inside
  nodup := register.nodup_live
  stands id live := by
    rcases register.mem_live.mp live with ⟨member, kept⟩
    rcases List.mem_iff_getElem?.mp member with ⟨place, found⟩
    rcases register.item found with ⟨item, there, -, mark⟩
    exact ⟨item, there, Bool.eq_false_iff.mpr fun flag => kept (mark.mp flag)⟩

/-- The live objects come in the order of their indices. -/
theorem ordered (register : Register number made gone theatre) :
    ((theatre.liveItems number).map Item.index).Pairwise (· < ·) := by
  have places : made.Pairwise fun first second => ∀ left right,
      theatre.items[first]? = some left → theatre.items[second]? = some right →
      left.index < right.index := by
    refine List.pairwise_iff_getElem.mpr fun i j within inside less left right => ?_
    intro first second
    rcases register.item (List.getElem?_eq_getElem within) with ⟨item, found, index, -⟩
    rcases register.item (List.getElem?_eq_getElem inside) with ⟨other, there, place, -⟩
    cases found.symm.trans first
    cases there.symm.trans second
    rwa [index, place]
  rw [List.pairwise_map, Theatre.liveItems, List.pairwise_filterMap, register.live]
  exact (places.filter _).imp fun ordered left found right there =>
    ordered left right found there

/-- A change that touches neither the stage nor the marks of its objects keeps the register. -/
theorem of_agreeing (register : Register number made gone before)
    (stages : after.stages.length = before.stages.length)
    (stage : after.stage number = before.stage number)
    (marks : ∀ id ∈ made, (after.items[id]?).map Item.mark = (before.items[id]?).map Item.mark) :
    Register number made gone after where
  inside := stages ▸ register.inside
  live := stage ▸ register.live
  created := stage ▸ register.created
  ascending := register.ascending
  known := register.known
  marks place id found := by
    rw [marks id (List.mem_of_getElem? found)]
    exact register.marks place id found

/-- An object that is made is entered as the last one. -/
theorem entered (register : Register number made gone before)
    (stages : after.stages.length = before.stages.length) {item : Item}
    (mark : item.mark = ((before.stage number).created, false))
    (entered : Theatre.Entered number [item] before after) :
    Register number (made ++ [before.items.size]) gone after := by
  have fresh : before.items.size ∉ gone := fun member =>
    Nat.lt_irrefl _ (register.there (register.known member))
  refine ⟨stages ▸ register.inside, ?_, ?_, ?_, ?_, fun place id found => ?_⟩
  · rw [entered.live, register.live, List.filter_append]
    simp only [List.length_singleton, List.range'_one, List.filter_cons, fresh, not_false_eq_true,
      decide_true, if_true, List.filter_nil]
  · rw [entered.created, register.created, List.length_append]
    rfl
  · refine List.pairwise_append.mpr ⟨register.ascending, List.pairwise_singleton .., ?_⟩
    intro id member other last
    rw [List.mem_singleton.mp last]
    exact register.there member
  · exact fun id member => List.mem_append_left _ (register.known member)
  · rcases Nat.lt_or_ge place made.length with early | late
    · rw [List.getElem?_append_left early] at found
      rw [entered.kept (register.there (List.mem_of_getElem? found))]
      exact register.marks place id found
    · have within := (List.getElem?_eq_some_iff.mp found).1
      rw [List.length_append, List.length_singleton] at within
      have last : place = made.length := by omega
      rw [last, List.getElem?_concat_length] at found
      cases found
      have new := entered.there 0
      rw [Nat.add_zero] at new
      rw [new, last, ← register.created, decide_eq_false fresh]
      exact congrArg some mark

/-- An object that is destroyed is entered among those that are gone. -/
theorem struck (register : Register number made gone before)
    (stages : after.stages.length = before.stages.length)
    (live : id ∈ (before.stage number).live)
    (struck : Theatre.Struck number [id] before after) :
    Register number made (gone ++ [id]) after := by
  refine ⟨stages ▸ register.inside, ?_, ?_, register.ascending, ?_, fun place other found => ?_⟩
  · rw [struck.live, register.live, List.filter_filter]
    refine List.filter_congr fun other _ => ?_
    simp only [List.mem_append, not_or, Bool.decide_and, Bool.and_comm]
  · exact struck.created.trans register.created
  · intro other member
    rcases List.mem_append.mp member with old | new
    · exact register.known old
    · rw [List.mem_singleton.mp new]
      exact (register.mem_live.mp live).1
  · have mark := register.marks place other found
    rw [struck.items other, Option.map_map]
    by_cases same : other = id
    · rcases register.item found with ⟨item, there, index, -⟩
      rw [there, Option.map_some, Function.comp_apply, if_pos (List.mem_singleton.mpr same)]
      rw [decide_eq_true (List.mem_append_right _ (List.mem_singleton.mpr same)), ← index]
      rfl
    · have kept : (other ∈ gone ++ [id]) ↔ other ∈ gone := by
        rw [List.mem_append, List.mem_singleton, or_iff_left same]
      have untouched : ∀ item : Item,
          (if other ∈ [id] then { item with destroyed := true } else item) = item :=
        fun item => if_neg (same ∘ List.mem_singleton.mp)
      simp only [Function.comp_def, untouched, kept]
      exact mark

end Register

/-- All stages keep their registers, and every object is in exactly one of them. -/
structure Registered {count : Nat} (made gone : Fin count → List Nat) (theatre : Theatre) :
    Prop where
  registers : ∀ number : Fin count, Register number (made number) (gone number) theatre
  owned : ∀ id < theatre.items.size, ∃ number, id ∈ made number
  apart : ∀ first second id, id ∈ made first → id ∈ made second → first = second

namespace Registered

open Theatre

variable {count : Nat} {made gone : Fin count → List Nat} {theatre before : Theatre}

/-- Stages without any object have empty registers. -/
theorem ofStages (count : Nat) :
    Registered (fun _ : Fin count => []) (fun _ => []) (Theatre.ofStages count) where
  registers number := by
    have empty : (Theatre.ofStages count).stage number = {} := by
      simp only [stage, Theatre.ofStages, List.getD_eq_getElem?_getD, List.getElem?_replicate,
        if_pos number.isLt, Option.getD_some]
    refine ⟨?_, by rw [empty]; rfl, by rw [empty]; rfl, List.Pairwise.nil, List.nil_subset _,
      fun place id found => by cases found⟩
    rw [Theatre.ofStages, List.length_replicate]
    exact number.isLt
  owned id inside := absurd inside (Nat.not_lt_zero id)
  apart first second id member := absurd member List.not_mem_nil

/-- After a call the registers have what it has made and what it has destroyed. -/
theorem step (registered : Registered made gone before) (stage : Fin count) (call : Call) :
    Registered (fun number => made number ++ entry number stage (call.made? stage before))
      (fun number => gone number ++ entry number stage (call.destroyed? stage before))
      ((call.act stage).reached before) := by
  have own := registered.registers stage
  have stages := act_keeps_stages stage call _ before rfl
  rcases act_cases own.sound call with ⟨makes, removes, item, mark, entered⟩ |
      ⟨id, live, makes, removes, struck⟩ | ⟨id, makes, removes, altered⟩
  · simp only [makes, removes, entry_none, List.append_nil]
    refine ⟨fun number => ?_, fun id inside => ?_, fun first second id one two => ?_⟩
    · by_cases same : stage = number
      · cases same
        rw [entry_self]
        exact own.entered stages mark entered
      · have other := registered.registers number
        rw [entry_of_ne same, List.append_nil]
        refine other.of_agreeing stages (entered.elsewhere _ fun equal => same ?_)
          fun id member => ?_
        · exact (Fin.ext equal).symm
        · rw [entered.kept (other.there member)]
    · rw [entered.size, List.length_singleton] at inside
      rcases Nat.lt_succ_iff_lt_or_eq.mp inside with old | rfl
      · rcases registered.owned id old with ⟨number, member⟩
        exact ⟨number, List.mem_append_left _ member⟩
      · exact ⟨stage, List.mem_append_right _ (mem_entry.mpr ⟨rfl, rfl⟩)⟩
    · have old {number : Fin count} (member : id ∈ made number) (new : before.items.size = id) :
          False :=
        Nat.ne_of_gt ((registered.registers number).there member) new
      rcases List.mem_append.mp one with one | one <;> rcases List.mem_append.mp two with two | two
      · exact registered.apart first second id one two
      · exact (old one (Option.some.inj (mem_entry.mp two).2)).elim
      · exact (old two (Option.some.inj (mem_entry.mp one).2)).elim
      · exact (mem_entry.mp one).1.symm.trans (mem_entry.mp two).1
  · simp only [makes, removes, entry_none, List.append_nil]
    refine ⟨fun number => ?_, fun other inside => ?_, registered.apart⟩
    · by_cases same : stage = number
      · cases same
        rw [entry_self]
        exact own.struck stages live struck
      · rw [entry_of_ne same, List.append_nil]
        refine (registered.registers number).of_agreeing stages
          (struck.elsewhere _ fun equal => same (Fin.ext equal).symm) fun other member => ?_
        have spared : other ∉ [id] := fun hit => by
          cases List.mem_singleton.mp hit
          exact same (registered.apart stage number _ (own.mem_live.mp live).1 member)
        simp only [struck.items, if_neg spared, Option.map_id']
    · exact registered.owned other (struck.size ▸ inside)
  · simp only [makes, removes, entry_none, List.append_nil]
    refine ⟨fun number => ?_, fun other inside => ?_, registered.apart⟩
    · refine (registered.registers number).of_agreeing stages ?_ fun other _ => ?_
      · simp only [Theatre.stage, altered.stages]
      · by_cases same : other = id
        · rw [same, altered.mark]
        · rw [altered.others other same]
    · exact registered.owned other (altered.size ▸ inside)

/-- After any calls the registers have all that has been made and all that has been destroyed. -/
theorem run (registered : Registered made gone before) (calls : List (Fin count × Call)) :
    Registered (fun number => made number ++ madeOn number calls before)
      (fun number => gone number ++ destroyedOn number calls before)
      (afterCalls calls before) := by
  induction calls generalizing made gone before with
  | nil => simpa only [madeOn, destroyedOn, afterCalls, List.append_nil] using registered
  | cons call calls inductionHypothesis =>
    have after := inductionHypothesis (registered.step call.1 call.2)
    simpa only [madeOn, destroyedOn, afterCalls, List.append_assoc] using after

/-- Whatever is called afterwards, an object keeps its index, and if it has been destroyed, it stays
so and is live on no stage. -/
theorem later (registered : Registered made gone theatre) (calls : List (Fin count × Call))
    {id : Nat} {item : Item} (there : theatre.items[id]? = some item) :
    ∃ still, (afterCalls calls theatre).items[id]? = some still ∧ still.index = item.index ∧
      (item.destroyed = true → still.destroyed = true ∧
        ∀ number : Fin count, id ∉ ((afterCalls calls theatre).stage number).live) := by
  have after := registered.run calls
  rcases registered.owned id (Array.getElem?_eq_some_iff.mp there).1 with ⟨owner, member⟩
  rcases List.mem_iff_getElem?.mp member with ⟨place, found⟩
  rcases (registered.registers owner).item found with ⟨other, same, index, mark⟩
  cases there.symm.trans same
  have kept : (made owner ++ madeOn owner calls theatre)[place]? = some id := by
    rwa [List.getElem?_append_left (List.getElem?_eq_some_iff.mp found).1]
  rcases (after.registers owner).item kept with ⟨still, found, place, flag⟩
  refine ⟨still, found, place.trans index.symm, fun destroyed => ?_⟩
  have gone := List.mem_append_left (destroyedOn owner calls theatre) (mark.mp destroyed)
  refine ⟨flag.mpr gone, fun number live => ?_⟩
  rcases (after.registers number).mem_live.mp live with ⟨listed, spared⟩
  have own := after.apart number owner id listed (List.mem_append_left _ member)
  exact spared (own ▸ gone)

end Registered

/-- Whatever has been called on some stages, with whatever handles: a stage lists as live what it has
made and not destroyed, each object once and in the order of the indices; it has counted what it has
made; its objects have the indices from zero on, in the order in which they were made; an object is
marked as destroyed exactly if it is not live on its stage, and every object is of one stage alone.
Whatever is called afterwards, indices stay, and what has been destroyed stays so and is live
nowhere.  A handle passes the check of a stage exactly if it is that of a live object of that stage.
A call with such a handle changes that object alone, and if it destroys the object, the list of that
stage.  A call with any other handle changes nothing, and fails because the object has been
destroyed, if the handle is that of a destroyed object of any stage, and otherwise because the handle
is not known. -/
theorem live_until_destroyed {count : Nat} (calls : List (Fin count × Call)) :
    let start := Theatre.ofStages count
    let theatre := Theatre.afterCalls calls start
    (∀ number : Fin count,
      (theatre.stage number).live = (Theatre.madeOn number calls start).filter
        (· ∉ Theatre.destroyedOn number calls start) ∧
      (theatre.stage number).live.Nodup ∧
      ((theatre.liveItems number).map Item.index).Pairwise (· < ·) ∧
      (theatre.stage number).created = (Theatre.madeOn number calls start).length ∧
      ∀ place id : Nat, (Theatre.madeOn number calls start)[place]? = some id →
        ∃ item, theatre.items[id]? = some item ∧ item.index = place ∧
          (item.destroyed = true ↔ id ∉ (theatre.stage number).live)) ∧
    (∀ id < theatre.items.size, ∃! number, id ∈ Theatre.madeOn number calls start) ∧
    (∀ (later : List (Fin count × Call)) (id : Nat) (item : Item),
      theatre.items[id]? = some item →
      ∃ still, (Theatre.afterCalls later theatre).items[id]? = some still ∧
        still.index = item.index ∧
        (item.destroyed = true → still.destroyed = true ∧
          ∀ number : Fin count, id ∉ ((Theatre.afterCalls later theatre).stage number).live)) ∧
    ∀ (number : Fin count) (call : Call) (handle : Handle), call.handle? = some handle →
      let after := (call.act number).reached theatre
      ((∃ id, theatre.checkLive number handle = .ok id theatre) ↔ handle.LiveOn number theatre) ∧
      (∀ id ∈ (theatre.stage number).live, handle = .item id →
        (∀ other : Nat, other ≠ id → after.items[other]? = theatre.items[other]?) ∧
        (∀ other : Nat, other ≠ number → after.stage other = theatre.stage other) ∧
        (call = .destroy (.item id) → call.act number theatre = .ok () after ∧
          (after.stage number).live = (theatre.stage number).live.erase id) ∧
        (call ≠ .destroy (.item id) → after.stages = theatre.stages ∧
          ∀ failure left, call.act number theatre = .error failure left →
            failure.kind ≠ .scene)) ∧
      (¬ handle.LiveOn number theatre → ∃ reason,
        Theatre.checkLive number handle theatre = .error ⟨reason, [], []⟩ theatre ∧
        call.act number theatre = .error ⟨reason, [], []⟩ theatre ∧ reason.kind = .scene ∧
        ((∃ item, handle.item? theatre = some item ∧ item.destroyed = true ∧
            reason = .alreadyDestroyed item.index) ∨
          (∀ item, handle.item? theatre = some item → item.destroyed = false) ∧
            ∃ shown, reason = .unknownHandle shown)) := by
  intro start theatre
  have registered : Registered (fun number : Fin count => Theatre.madeOn number calls start)
      (fun number => Theatre.destroyedOn number calls start) theatre :=
    (Registered.ofStages count).run calls
  refine ⟨fun number => ?_, fun id inside => ?_, fun later id item => registered.later later,
    fun number call handle carries => ?_⟩
  · have register := registered.registers number
    refine ⟨register.live, register.nodup_live, register.ordered, register.created, ?_⟩
    intro place id found
    rcases register.item found with ⟨item, there, index, mark⟩
    refine ⟨item, there, index, mark.trans ?_⟩
    have member := List.mem_of_getElem? found
    rw [register.mem_live, not_and, not_not]
    exact ⟨fun gone _ => gone, fun gone => gone member⟩
  · rcases registered.owned id inside with ⟨number, member⟩
    exact ⟨number, member, fun other listed => registered.apart other number id listed member⟩
  · have sound := (registered.registers number).sound
    exact ⟨Theatre.checkLive_ok_iff sound,
      fun id live same => Theatre.act_touches sound live (same ▸ carries),
      Theatre.act_refuses carries⟩

end Recording
end Arbor
