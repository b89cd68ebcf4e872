import Arbor.Proofs.Act
import Arbor.Scene

/-!
# Watching a scene

What a generator does to a scene is a sequence of calls, and many laws of trees are laws of that
sequence.  A `Deed` is one call together with what came of it.  A watched scene is the scene itself
with a list of the deeds beside its state: every call is passed on as it is and then noted.  A
removal carries the reason for which it was asked, because a tree removes objects for two reasons
and keeps different books about them; the scene does not see the reason.
-/

namespace Arbor

open Space

/-- Why an object is removed: it is cleared away with its tree, or taken back with a tree that
failed. -/
inductive Removal where
  | clearing
  | takingBack
  deriving DecidableEq, Repr

/-- One call on a scene and what came of it. -/
inductive Deed (H R : Type) where
  | instantiate (prefab parent : Option R) (result : Except Failure H)
  | setTransform (handle : H) (position : Vec Float32) (rotation : Turns Float32)
    (scale : Vec Float32) (result : Except Failure Unit)
  | reparent (handle : H) (parent : Option R) (result : Except Failure Unit)
  | destroy (removal : Removal) (handle : H) (result : Except Failure Unit)

variable {σ H R D α : Type}

namespace Deed

/-- The handle that a call has returned. -/
def made? : Deed H R → Option H
  | instantiate _ _ (.ok handle) => some handle
  | _ => none

/-- The handle that a call has been passed. -/
def passed? : Deed H R → Option H
  | instantiate _ _ _ => none
  | setTransform handle _ _ _ _ => some handle
  | reparent handle _ _ => some handle
  | destroy _ handle _ => some handle

/-- What was asked and why it failed, if it did. -/
def failure? : Deed H R → Option (SceneAction × Failure)
  | instantiate _ _ (.error failure) => some (.instantiate, failure)
  | setTransform _ _ _ _ (.error failure) => some (.transform, failure)
  | reparent _ _ (.error failure) => some (.reparent, failure)
  | destroy _ _ (.error failure) => some (.destroy, failure)
  | _ => none

/-- The object that was to be taken back, and what came of it. -/
def takenBack? : Deed H R → Option (H × Except Failure Unit)
  | destroy .takingBack handle result => some (handle, result)
  | _ => none

/-- The object that was removed. -/
def destroyed? : Deed H R → Option H
  | destroy _ handle (.ok ()) => some handle
  | _ => none

/-- The deed is what the scene does when it is called in the first state, and leads to the
second. -/
def Happens (scene : Scene σ H R) (before : σ) : Deed H R → σ → Prop
  | instantiate prefab parent result, after =>
    scene.instantiate prefab parent before = Act.settled result after
  | setTransform handle position rotation scale result, after =>
    scene.setTransform handle position rotation scale before = Act.settled result after
  | reparent handle parent result, after =>
    scene.reparent handle parent before = Act.settled result after
  | destroy _ handle result, after => scene.destroy handle before = Act.settled result after

/-- A deed leads to one state only. -/
theorem Happens.unique {scene : Scene σ H R} {deed : Deed H R} {before after other : σ}
    (happens : deed.Happens scene before after) (again : deed.Happens scene before other) :
    after = other := by
  cases deed <;> exact (Act.reached_of_settled happens).symm.trans (Act.reached_of_settled again)

end Deed

/-- The handles that deeds have returned, in order. -/
def made (deeds : List (Deed H R)) : List H := deeds.filterMap Deed.made?

/-- The attempts to take an object back, in order. -/
def takenBack (deeds : List (Deed H R)) : List (H × Except Failure Unit) :=
  deeds.filterMap Deed.takenBack?

/-- The first call that failed: what was asked, and why it failed. -/
def firstFailure? (deeds : List (Deed H R)) : Option (SceneAction × Failure) :=
  deeds.findSome? Deed.failure?

namespace Scene

/-- The scene does the deeds one after the other. -/
def Performs (scene : Scene σ H R) : σ → List (Deed H R) → σ → Prop
  | before, [], after => before = after
  | before, deed :: deeds, after =>
    ∃ between, deed.Happens scene before between ∧ scene.Performs between deeds after

variable {scene : Scene σ H R}

theorem Performs.append {first second : List (Deed H R)} {start middle stop : σ}
    (begun : scene.Performs start first middle) (done : scene.Performs middle second stop) :
    scene.Performs start (first ++ second) stop := by
  induction first generalizing start with
  | nil =>
    cases begun
    exact done
  | cons deed deeds inductionHypothesis =>
    rcases begun with ⟨between, happens, later⟩
    exact ⟨between, happens, inductionHypothesis later⟩

theorem Performs.split {first second : List (Deed H R)} {start stop : σ}
    (whole : scene.Performs start (first ++ second) stop) :
    ∃ middle, scene.Performs start first middle ∧ scene.Performs middle second stop := by
  induction first generalizing start with
  | nil => exact ⟨start, rfl, whole⟩
  | cons deed deeds inductionHypothesis =>
    rcases whole with ⟨between, happens, later⟩
    rcases inductionHypothesis later with ⟨middle, begun, done⟩
    exact ⟨middle, ⟨between, happens, begun⟩, done⟩

theorem Performs.single {deed : Deed H R} {before after : σ}
    (happens : deed.Happens scene before after) : scene.Performs before [deed] after :=
  ⟨after, happens, rfl⟩

/-- The deeds settle what becomes of the scene. -/
theorem Performs.unique {deeds : List (Deed H R)} {before after other : σ}
    (performs : scene.Performs before deeds after) (again : scene.Performs before deeds other) :
    after = other := by
  induction deeds generalizing before with
  | nil => exact performs.symm.trans again
  | cons deed deeds inductionHypothesis =>
    rcases performs with ⟨between, happens, later⟩
    rcases again with ⟨middle, happensAgain, laterAgain⟩
    cases happens.unique happensAgain
    exact inductionHypothesis later laterAgain

end Scene

/-- An action that is noted with its result, behind what was noted before. -/
def Act.noted (note : Except Failure α → D) (act : Act σ α) : Act (σ × List D) α :=
  fun (state, notes) =>
    match act state with
    | .ok value reached => .ok value (reached, notes ++ [note (.ok value)])
    | .error failure reached => .error failure (reached, notes ++ [note (.error failure)])

theorem Act.noted_settled {note : Except Failure α → D} {act : Act σ α} {state reached : σ}
    {result : Except Failure α} (run : act state = settled result reached) (notes : List D) :
    act.noted note (state, notes) = settled result (reached, notes ++ [note result]) := by
  cases result <;> simp only [noted, run, settled]

theorem Act.noted_mirrors (note : Except Failure α → D) (act : Act σ α) :
    Mirrors Prod.fst (act.noted note) act := by
  intro (state, notes)
  cases run : act state <;> simp only [noted, run, seen]

/-- The scene with every call noted.  Removals are noted with the given reason. -/
def Scene.watched (removal : Removal) (scene : Scene σ H R) :
    Scene (σ × List (Deed H R)) H R where
  instantiate prefab parent := (scene.instantiate prefab parent).noted (.instantiate prefab parent)
  setTransform handle position rotation scale :=
    (scene.setTransform handle position rotation scale).noted
      (.setTransform handle position rotation scale)
  reparent handle parent := (scene.reparent handle parent).noted (.reparent handle parent)
  destroy handle := (scene.destroy handle).noted (.destroy removal handle)

namespace Scene

variable {scene : Scene σ H R} (removal : Removal) {before after : σ}

theorem watched_instantiate {prefab parent : Option R} {result : Except Failure H}
    (happens : (Deed.instantiate prefab parent result).Happens scene before after)
    (noted : List (Deed H R)) :
    (scene.watched removal).instantiate prefab parent (before, noted) =
      Act.settled result (after, noted ++ [.instantiate prefab parent result]) :=
  Act.noted_settled happens noted

theorem watched_setTransform {handle : H} {position : Vec Float32} {rotation : Turns Float32}
    {scale : Vec Float32} {result : Except Failure Unit}
    (happens : (Deed.setTransform handle position rotation scale result).Happens scene before after)
    (noted : List (Deed H R)) :
    (scene.watched removal).setTransform handle position rotation scale (before, noted) =
      Act.settled result (after, noted ++ [.setTransform handle position rotation scale result]) :=
  Act.noted_settled happens noted

theorem watched_reparent {handle : H} {parent : Option R} {result : Except Failure Unit}
    (happens : (Deed.reparent handle parent result).Happens scene before after)
    (noted : List (Deed H R)) :
    (scene.watched removal).reparent handle parent (before, noted) =
      Act.settled result (after, noted ++ [.reparent handle parent result]) :=
  Act.noted_settled happens noted

theorem watched_destroy {removal : Removal} {handle : H} {result : Except Failure Unit}
    (happens : (Deed.destroy removal handle result).Happens scene before after)
    (noted : List (Deed H R)) :
    (scene.watched removal).destroy handle (before, noted) =
      Act.settled result (after, noted ++ [.destroy removal handle result]) :=
  Act.noted_settled happens noted

end Scene
end Arbor
