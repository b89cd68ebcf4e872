import Arbor.Proofs.Tree.Watching

/-!
# How the objects of a tree are made

The object of a branch is made, placed and moved, and each of the three calls can fail.  It is
registered as soon as it is there, so an object that could not be placed or moved is registered
like any other.  The objects of several branches are made one after the other up to the first
failure.

As for removals, `Placing`, `Making` and `MakingAll` describe the deeds, the handles that come to be
registered and the result, and the runs are shown to follow them.
-/

namespace Arbor

variable {σ H R J : Type}

/-- What is given for an object, by what came of moving it. -/
def movedHandle (handle : H) : Except Failure Unit → Except Failure H
  | .ok () => .ok handle
  | .error failure => .error (failure.ofSceneCall .reparent)

/-- An object that is there is placed and moved by the deeds. -/
inductive Placing (settings : Settings R) (branch : Branch Float32 Float) (handle : H) :
    List (Deed H R) → Except Failure H → Prop
  | unturned {failure : Failure} (heading : branch.turns = .error failure) :
    Placing settings branch handle [] (.error failure)
  | unplaced {turns : Space.Turns Float32} (heading : branch.turns = .ok turns)
    (failure : Failure) :
    Placing settings branch handle
      [.setTransform handle branch.position turns branch.scale (.error failure)]
      (.error (failure.ofSceneCall .transform))
  | moved {turns : Space.Turns Float32} (heading : branch.turns = .ok turns)
    (result : Except Failure Unit) :
    Placing settings branch handle
      [.setTransform handle branch.position turns branch.scale (.ok ()),
        .reparent handle settings.destination result]
      (movedHandle handle result)

/-- The object of a branch is made by the deeds.  The handles are those that come to be
registered. -/
inductive Making (settings : Settings R) (branch : Branch Float32 Float) :
    List (Deed H R) → List H → Except Failure H → Prop
  | refused (failure : Failure) :
    Making settings branch [.instantiate settings.prefab settings.parent (.error failure)] []
      (.error (failure.ofSceneCall .instantiate))
  | registered {handle : H} {deeds : List (Deed H R)} {result : Except Failure H}
    (placing : Placing settings branch handle deeds result) :
    Making settings branch (.instantiate settings.prefab settings.parent (.ok handle) :: deeds)
      [handle] result

/-- The objects of branches are made by the deeds, up to the first failure. -/
inductive MakingAll (settings : Settings R) :
    List (Branch Float32 Float) → List (Deed H R) → List H → Option Failure → Prop
  | done : MakingAll settings [] [] [] none
  | stopped {branch : Branch Float32 Float} (branches : List (Branch Float32 Float))
    {deeds : List (Deed H R)} {handles : List H} {failure : Failure}
    (first : Making settings branch deeds handles (.error failure)) :
    MakingAll settings (branch :: branches) deeds handles (some failure)
  | next {branch : Branch Float32 Float} {branches : List (Branch Float32 Float)}
    {deeds others : List (Deed H R)} {handles more : List H} {handle : H}
    {failure : Option Failure} (first : Making settings branch deeds handles (.ok handle))
    (later : MakingAll settings branches others more failure) :
    MakingAll settings (branch :: branches) (deeds ++ others) (handles ++ more) failure

namespace Plot

/-- Place an object, move it to where it belongs, and give its handle. -/
def placeObject (scene : Scene σ H R) (settings : Settings R) (branch : Branch Float32 Float)
    (handle : H) : Act (Plot σ H R J) H := do
  let turns ← Act.lift branch.turns
  sceneCall .transform (scene.setTransform handle branch.position turns branch.scale)
  sceneCall .reparent (scene.reparent handle settings.destination)
  return handle

/-- The object of a branch is made and registered, and then placed. -/
theorem createBranch_eq (scene : Scene σ H R) (branch : Branch Float32 Float)
    (plot : Plot σ H R J) :
    createBranch scene branch plot =
      (sceneCall .instantiate (scene.instantiate plot.tree.settings.prefab
          plot.tree.settings.parent) >>= fun handle =>
        change (Tree.register handle) >>= fun _ =>
        placeObject scene plot.tree.settings branch handle) plot := rfl

variable (scene : Scene σ H R) (removal : Removal)

/-- Once an object is placed it is moved, and its handle is given if that succeeds. -/
theorem moveObject_moved (settings : Settings R) (handle : H) (before : σ)
    (noted : List (Deed H R)) (log : Log) (tree : Tree H R J) :
    ∃ result after, (Deed.reparent handle settings.destination result).Happens scene before after ∧
      (sceneCall .reparent ((scene.watched removal).reparent handle settings.destination) >>=
          fun _ => pure handle) ⟨(before, noted), log, tree⟩ =
        Act.settled (movedHandle handle result)
          ⟨(after, noted ++ [.reparent handle settings.destination result]), log, tree⟩ := by
  cases run : scene.reparent handle settings.destination before with
  | ok value after =>
    have happens : (Deed.reparent handle settings.destination (.ok ())).Happens scene before
        after := run
    have moved := sceneCall_of_ok .reparent (Scene.watched_reparent removal happens noted) log tree
    exact ⟨.ok (), after, happens, Act.bind_of_ok moved⟩
  | error failure after =>
    have happens : (Deed.reparent handle settings.destination (.error failure)).Happens scene
        before after := run
    have refused := sceneCall_of_error .reparent (Scene.watched_reparent removal happens noted) log
      tree
    exact ⟨.error failure, after, happens, Act.bind_of_error refused⟩

theorem placeObject_placing (settings : Settings R) (branch : Branch Float32 Float) (handle : H)
    (before : σ) (noted : List (Deed H R)) (log : Log) (tree : Tree H R J) :
    ∃ deeds result after, Placing settings branch handle deeds result ∧
      scene.Performs before deeds after ∧
      placeObject (scene.watched removal) settings branch handle ⟨(before, noted), log, tree⟩ =
        Act.settled result ⟨(after, noted ++ deeds), log, tree⟩ := by
  unfold placeObject
  cases heading : branch.turns with
  | error failure =>
    refine ⟨[], .error failure, before, .unturned heading, rfl, ?_⟩
    rw [List.append_nil]
    rfl
  | ok turns =>
    cases run : scene.setTransform handle branch.position turns branch.scale before with
    | error failure after =>
      have happens : (Deed.setTransform handle branch.position turns branch.scale
        (.error failure)).Happens scene before after := run
      have unplaced := sceneCall_of_error .transform
        (Scene.watched_setTransform removal happens noted) log tree
      refine ⟨_, _, after, .unplaced heading failure, .single happens, ?_⟩
      exact (Act.bind_lift_ok turns _ _).trans (Act.bind_of_error unplaced)
    | ok value between =>
      have happens : (Deed.setTransform handle branch.position turns branch.scale
        (.ok ())).Happens scene before between := run
      have placed := sceneCall_of_ok .transform
        (Scene.watched_setTransform removal happens noted) log tree
      obtain ⟨result, after, moving, moved⟩ := moveObject_moved scene removal settings handle
        between (noted ++ [.setTransform handle branch.position turns branch.scale (.ok ())]) log
        tree
      refine ⟨_, _, after, .moved heading result, ⟨between, happens, .single moving⟩, ?_⟩
      refine (Act.bind_lift_ok turns _ _).trans ((Act.bind_of_ok placed).trans (moved.trans ?_))
      rw [List.append_assoc]
      rfl

/-- An object is registered once it is made, whether or not it is placed and moved then. -/
theorem createBranch_making (branch : Branch Float32 Float) (before : σ)
    (noted : List (Deed H R)) (log : Log) (tree : Tree H R J) :
    ∃ deeds handles result after, Making tree.settings branch deeds handles result ∧
      scene.Performs before deeds after ∧
      createBranch (scene.watched removal) branch ⟨(before, noted), log, tree⟩ =
        Act.settled result
          ⟨(after, noted ++ deeds), log, tree.keep (tree.branches ++ handles)⟩ := by
  rw [createBranch_eq]
  cases run : scene.instantiate tree.settings.prefab tree.settings.parent before with
  | error failure after =>
    have happens : (Deed.instantiate tree.settings.prefab tree.settings.parent
      (.error failure)).Happens scene before after := run
    have refused := sceneCall_of_error .instantiate
      (Scene.watched_instantiate removal happens noted) log tree
    refine ⟨_, [], _, after, .refused failure, .single happens, ?_⟩
    rw [List.append_nil]
    exact Act.bind_of_error refused
  | ok handle between =>
    have happens : (Deed.instantiate tree.settings.prefab tree.settings.parent
      (.ok handle)).Happens scene before between := run
    have instantiated := sceneCall_of_ok .instantiate
      (Scene.watched_instantiate removal happens noted) log tree
    rcases placeObject_placing scene removal
        tree.settings branch handle between
        (noted ++ [.instantiate tree.settings.prefab tree.settings.parent (.ok handle)]) log
        (tree.register handle) with ⟨deeds, result, after, placing, performs, placed⟩
    refine ⟨_, _, result, after, .registered placing, ⟨between, happens, performs⟩, ?_⟩
    refine (Act.bind_of_ok instantiated).trans (placed.trans ?_)
    rw [List.append_assoc]
    rfl

/-- Of several objects, those made up to the first failure are registered. -/
theorem createBranches_making (branches : List (Branch Float32 Float)) (before : σ)
    (noted : List (Deed H R)) (log : Log) (tree : Tree H R J) :
    ∃ deeds handles failure after, MakingAll tree.settings branches deeds handles failure ∧
      scene.Performs before deeds after ∧
      createBranches (scene.watched removal) branches ⟨(before, noted), log, tree⟩ =
        Act.ended failure
          ⟨(after, noted ++ deeds), log, tree.keep (tree.branches ++ handles)⟩ := by
  induction branches generalizing before noted tree with
  | nil =>
    refine ⟨[], [], none, before, .done, rfl, ?_⟩
    rw [List.append_nil, List.append_nil]
    rfl
  | cons branch branches inductionHypothesis =>
    rcases createBranch_making scene removal branch before noted log tree with
        ⟨deeds, handles, result, between, making, performs, run⟩
    cases result with
    | error failure =>
      exact ⟨deeds, handles, some failure, between, .stopped branches making, performs,
        Act.bind_of_error (Act.discard_of_error run)⟩
    | ok handle =>
      rcases inductionHypothesis between
          (noted ++ deeds) (tree.keep (tree.branches ++ handles)) with
          ⟨others, more, failure, after, later, followed, rest⟩
      refine ⟨_, _, failure, after, .next making later, performs.append followed, ?_⟩
      refine (Act.bind_of_ok (Act.discard_of_ok run)).trans (rest.trans ?_)
      simp only [Tree.keep, List.append_assoc]

end Plot
end Arbor
