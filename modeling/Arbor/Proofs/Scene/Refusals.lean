import Arbor.Proofs.Scene.Lifetimes

/-!
# What a refused call leaves

Nothing is undone when a call to a stage fails.  Mostly there is nothing to undo: the handle is
looked up before anything is changed, and an object that has been found is moved under another
parent or destroyed without fail.  Only placing, turning and scaling goes step by step, and each
step may refuse what it is given, when the steps before it are done.  What they have set on the
object stays, and nothing else is touched.

The interface of a scene asks for a vector, for turns and for another vector.  Whoever keeps to it
is refused for the handle alone, and then nothing has happened.
-/

namespace Arbor
namespace Recording
namespace Theatre

open Space

variable {number : Nat} {before after : Theatre} {handle : Handle} {failure : Failure}

/-! ## Calls that do all or nothing -/

theorem reparent_allOrNothing (number : Nat) (handle : Handle) (parent : Option Value) :
    (reparent number handle parent).AllOrNothing :=
  .bind (checkLive_reached number handle) fun _ _ _ _ run => by cases run

theorem destroy_allOrNothing (number : Nat) (handle : Handle) :
    (destroy number handle).AllOrNothing :=
  .bind (checkLive_reached number handle) fun _ _ _ _ run => by cases run

theorem transform_allOrNothing (number : Nat) (handle : Handle) (place : Vec Float32)
    (turns : Turns Float32) (size : Vec Float32) :
    (transform number handle (.vector place) (.turns turns) (.vector size)).AllOrNothing :=
  .bind (checkLive_reached number handle) fun _ _ _ _ run => by cases run

/-! ## Placing that is broken off -/

theorem checkLive_ok {id : Nat} (passed : checkLive number handle before = .ok id after) :
    after = before ∧ handle = .item id := by
  cases handle with
  | other value => cases passed
  | item other =>
    rcases checkLive_cases number other before with ⟨run, -⟩ | ⟨failure, run⟩
    · cases run.symm.trans passed
      exact ⟨rfl, rfl⟩
    · cases run.symm.trans passed

theorem transform_of_refused (location rotation scale : Given)
    (refused : checkLive number handle before = .error failure before) :
    transform number handle location rotation scale before = .error failure before :=
  Act.bind_of_error refused

/-- Placing, turning and scaling is refused for its handle, or is broken off. -/
theorem transform_error_iff (number : Nat) (handle : Handle) (location rotation scale : Given)
    (before : Theatre) (failure : Failure) (after : Theatre) :
    transform number handle location rotation scale before = .error failure after ↔
      (checkLive number handle before = .error failure before ∧ after = before) ∨
        ∃ id, handle = .item id ∧ checkLive number handle before = .ok id before ∧
          Transformed id location rotation scale before (.error failure) after := by
  constructor
  · intro failed
    cases checked : checkLive number handle before with
    | error other between =>
      have same : between = before :=
        (Act.reached_of_error checked).symm.trans (checkLive_reached number handle before)
      subst same
      cases (transform_of_refused location rotation scale checked).symm.trans failed
      exact Or.inl ⟨rfl, rfl⟩
    | ok id between =>
      rcases checkLive_ok checked with ⟨rfl, named⟩
      rcases transform_transformed checked location rotation scale with
          ⟨result, reached, run, transformed⟩
      rw [run] at failed
      cases result with
      | ok value => cases failed
      | error other =>
        cases failed
        exact Or.inr ⟨id, named, rfl, transformed⟩
  · rintro (⟨refused, rfl⟩ | ⟨id, -, checked, broken⟩)
    · exact transform_of_refused location rotation scale refused
    · rcases transform_transformed checked location rotation scale with
          ⟨result, reached, run, transformed⟩
      rcases transformed.unique broken with ⟨rfl, rfl⟩
      exact run

/-- What is broken off at the place, at the turns or at the scale. -/
theorem transformed_error_iff {id : Nat} {location rotation scale : Given} :
    Transformed id location rotation scale before (.error failure) after ↔
      (location.toVec = .error failure ∧ after = before) ∨
        ∃ place, location.toVec = .ok place ∧
          ((rotation.toTurns = .error failure ∧
              after = before.updateItem id fun item => { item with location := place }) ∨
            ∃ turns, rotation.toTurns = .ok turns ∧ scale.toVec = .error failure ∧
              after = before.updateItem id fun item =>
                { item with location := place, rotation := turns }) := by
  constructor
  · intro transformed
    cases transformed with
    | unplaced refused => exact Or.inl ⟨refused, rfl⟩
    | unturned placed refused => exact Or.inr ⟨_, placed, Or.inl ⟨refused, rfl⟩⟩
    | unscaled placed turned refused =>
      exact Or.inr ⟨_, placed, Or.inr ⟨_, turned, refused, rfl⟩⟩
  · rintro (⟨refused, rfl⟩ | ⟨place, placed, ⟨refused, rfl⟩ | ⟨turns, turned, refused, rfl⟩⟩)
    · exact .unplaced refused
    · exact .unturned placed refused
    · exact .unscaled placed turned refused

/-- An object is always made, and moving one under another parent or destroying it does all or
nothing.  So does placing, turning and scaling it by a vector, turns and a vector.

With anything else in their place, placing fails exactly if the handle is refused, or the first of
place, turns and scale that is refused.  It also leaves all as it was if the handle or the place is
refused.  But if the turns are refused, the object stays where it has been put, and if the scale is
refused, the object stays there and stays turned.  No other object is touched, nothing else of this
object, and no stage. -/
theorem refused_calls_leave (number : Nat) :
    (∀ prefab parent before, ∃ id after,
        instantiate number prefab parent before = .ok id after) ∧
      (∀ handle parent, (reparent number handle parent).AllOrNothing) ∧
      (∀ handle, (destroy number handle).AllOrNothing) ∧
      (∀ handle place turns size,
        (transform number handle (.vector place) (.turns turns) (.vector size)).AllOrNothing) ∧
      ∀ handle location rotation scale before failure after,
        (transform number handle location rotation scale before = .error failure after ↔
          (checkLive number handle before = .error failure before ∧ after = before) ∨
            ∃ id, handle = .item id ∧ checkLive number handle before = .ok id before ∧
              ((location.toVec = .error failure ∧ after = before) ∨
                ∃ place, location.toVec = .ok place ∧
                  ((rotation.toTurns = .error failure ∧
                      after = before.updateItem id fun item => { item with location := place }) ∨
                    ∃ turns, rotation.toTurns = .ok turns ∧ scale.toVec = .error failure ∧
                      after = before.updateItem id fun item =>
                        { item with location := place, rotation := turns }))) ∧
        (transform number handle location rotation scale before = .error failure after →
          after.stages = before.stages ∧
          ∀ other : Nat, handle ≠ .item other → after.items[other]? = before.items[other]?) := by
  refine ⟨fun prefab parent before => ⟨_, _, rfl⟩, reparent_allOrNothing number,
    destroy_allOrNothing number, transform_allOrNothing number, ?_⟩
  intro handle location rotation scale before failure after
  have fails := transform_error_iff number handle location rotation scale before failure after
  refine ⟨?_, fun failed => ?_⟩
  · simp only [fails, transformed_error_iff]
  · rcases fails.mp failed with ⟨-, rfl⟩ | ⟨id, named, -, transformed⟩
    · exact ⟨rfl, fun _ _ => rfl⟩
    · have altered := transformed.altered
      refine ⟨altered.stages, fun other different => altered.others other ?_⟩
      rintro rfl
      exact different named

/-- A vector has no order of turns.  Given as turns, it leaves a new object placed but not
turned. -/
theorem vector_for_turns_leaves_placed :
    let made := (instantiate 0 none none).reached (ofStages 1)
    ∃ after, transform 0 (.item 0) (.components [5, 6, 7]) (.vector (.spatial 1 2 3))
        (.components [1, 1, 1]) made = .error ⟨.lacks "Vector" "order", [], []⟩ after ∧
      after = (made.updateItem 0 fun item => { item with location := .spatial 5 6 7 }) ∧
      after.stages = made.stages := by
  intro made
  rcases refused_calls_leave 0 with ⟨-, -, -, -, broken⟩
  have known : checkLive 0 (.item 0) made = .ok 0 made := rfl
  have failed := (broken (.item 0) (.components [5, 6, 7]) (.vector (.spatial 1 2 3))
    (.components [1, 1, 1]) made ⟨.lacks "Vector" "order", [], []⟩ _).1.mpr
      (Or.inr ⟨0, rfl, known, Or.inr ⟨.spatial 5 6 7, rfl, Or.inl ⟨rfl, rfl⟩⟩⟩)
  exact ⟨_, failed, rfl, ((broken _ _ _ _ _ _ _).2 failed).1⟩

/-- A scale of one component is refused when place and turns are set: the object has moved. -/
theorem short_scale_leaves_moved :
    let made := (instantiate 0 none none).reached (ofStages 1)
    ∃ after, transform 0 (.item 0) (.components [5, 6, 7]) (.turns ⟨1, 2, 3, .xyz⟩)
        (.components [1]) made = .error ⟨.vectorTooShort 1, [], []⟩ after ∧
      (after.items[0]?).map Item.location ≠ (made.items[0]?).map Item.location := by
  intro made
  refine ⟨_, rfl, ?_⟩
  have moved : (.spatial 5 6 7 : Vec Float32) ≠ .spatial 0 0 0 := by decide +kernel
  exact fun same => moved (Option.some.inj same)

end Theatre
end Recording
end Arbor
