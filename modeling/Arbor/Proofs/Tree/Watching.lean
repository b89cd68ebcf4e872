import Arbor.Proofs.Scene.Watching
import Arbor.Tree.Growing

/-!
# Watching a tree

What is done to a tree can be watched by giving it a watched scene.  The scene in which a tree is
cleared and grown and the scene from which it is taken back are watched apart, so that the deeds
tell one kind of removal from the other; over one scene this is `regenerate` itself.

Watching changes nothing: an action on a watched plot comes to what it comes to on the plot, with
the same log and the same tree.  `deedsOf` is what was noted on the way.
-/

namespace Arbor

variable {σ τ H R J α : Type}

/-- A scene does, on states that say more, what another does on what is seen of them. -/
structure Scene.Mirrors (view : τ → σ) (full : Scene τ H R) (plain : Scene σ H R) : Prop where
  instantiate : ∀ prefab parent,
    Act.Mirrors view (full.instantiate prefab parent) (plain.instantiate prefab parent)
  setTransform : ∀ handle position rotation scale,
    Act.Mirrors view (full.setTransform handle position rotation scale)
      (plain.setTransform handle position rotation scale)
  reparent : ∀ handle parent,
    Act.Mirrors view (full.reparent handle parent) (plain.reparent handle parent)
  destroy : ∀ handle, Act.Mirrors view (full.destroy handle) (plain.destroy handle)

theorem Scene.watched_mirrors (removal : Removal) (scene : Scene σ H R) :
    Scene.Mirrors Prod.fst (scene.watched removal) scene where
  instantiate _ _ := Act.noted_mirrors _ _
  setTransform _ _ _ _ := Act.noted_mirrors _ _
  reparent _ _ := Act.noted_mirrors _ _
  destroy _ := Act.noted_mirrors _ _

theorem Log.append_append (log : Log) (first second : List Event) :
    log ++ (first ++ second) = log ++ first ++ second :=
  Array.ext' (by simp only [Array.toList_appendList, List.append_assoc])

namespace Plot

/-- A plot with less of the state of its scene. -/
def seen (view : τ → σ) (plot : Plot τ H R J) : Plot σ H R J :=
  ⟨view plot.scene, plot.log, plot.tree⟩

/-- A plot with a scene in which nothing has been noted yet. -/
def watching (plot : Plot σ H R J) : Plot (σ × List (Deed H R)) H R J :=
  ⟨(plot.scene, []), plot.log, plot.tree⟩

/-- What an action on a watched plot notes. -/
def deedsOf (act : Act (Plot (σ × List (Deed H R)) H R J) α) (plot : Plot σ H R J) :
    List (Deed H R) :=
  (act.reached plot.watching).scene.2

/-! ## Running the steps of a tree -/

theorem sceneCall_of_ok (action : SceneAction) {act : Act σ α} {value : α} {before after : σ}
    (done : act before = .ok value after) (log : Log) (tree : Tree H R J) :
    sceneCall action act ⟨before, log, tree⟩ = .ok value ⟨after, log, tree⟩ := by
  simp only [sceneCall, done]

theorem sceneCall_of_error (action : SceneAction) {act : Act σ α} {failure : Failure}
    {before after : σ} (failed : act before = .error failure after) (log : Log)
    (tree : Tree H R J) :
    sceneCall action act ⟨before, log, tree⟩ =
      .error (failure.ofSceneCall action) ⟨after, log, tree⟩ := by
  simp only [sceneCall, failed]

theorem removeAll_of_ok {scene : Scene σ H R} {handle : H} {before after : σ}
    (done : scene.destroy handle before = .ok () after) (handles : List H) (log : Log)
    (tree : Tree H R J) :
    removeAll scene (handle :: handles) ⟨before, log, tree⟩ =
      removeAll scene handles ⟨after, log, tree.keep handles⟩ :=
  Act.bind_of_ok (sceneCall_of_ok .destroy done log tree)

theorem removeAll_of_error {scene : Scene σ H R} {handle : H} {before after : σ}
    {failure : Failure} (failed : scene.destroy handle before = .error failure after)
    (handles : List H) (log : Log) (tree : Tree H R J) :
    removeAll scene (handle :: handles) ⟨before, log, tree⟩ =
      .error (failure.ofSceneCall .destroy) ⟨after, log, tree⟩ :=
  Act.bind_of_error (sceneCall_of_error .destroy failed log tree)

theorem removeEach_of_ok {scene : Scene σ H R} {handle : H} {before after : σ}
    (done : scene.destroy handle before = .ok () after) (handles : List H) (losses : Losses)
    (log : Log) (tree : Tree H R J) :
    removeEach scene (handle :: handles) losses ⟨before, log, tree⟩ =
      removeEach scene handles losses ⟨after, log, tree⟩ := by
  simp only [removeEach, sceneCall_of_ok .destroy done log tree]

theorem removeEach_of_error {scene : Scene σ H R} {handle : H} {before after : σ}
    {failure : Failure} (failed : scene.destroy handle before = .error failure after)
    (handles : List H) (losses : Losses) (log : Log) (tree : Tree H R J) :
    removeEach scene (handle :: handles) losses ⟨before, log, tree⟩ =
      if (failure.ofSceneCall .destroy).kind = .scene then
        removeEach scene handles (losses.add (failure.ofSceneCall .destroy)) ⟨after, log, tree⟩
      else .error (failure.ofSceneCall .destroy) ⟨after, log, tree⟩ := by
  simp only [removeEach, sceneCall_of_error .destroy failed log tree]

theorem recover_eq (scene : Scene σ H R) (failure : Failure) (before : σ) (log : Log)
    (tree : Tree H R J) :
    recover scene failure ⟨before, log, tree⟩ =
      match takeBack scene ⟨before, log ++ [Event.abandoned tree.branches.length], tree⟩ with
      | .ok () plot => .ok failure plot
      | .error loss plot =>
        if loss.kind = .scene then
          (onLog (report [.leftInScene loss.reason]) *> pure (failure.during loss)) plot
        else .error (loss.during failure) plot := rfl

theorem recover_of_ok {scene : Scene σ H R} {before : σ} {log : Log} {tree : Tree H R J}
    {reached : Plot σ H R J}
    (done : takeBack scene ⟨before, log ++ [Event.abandoned tree.branches.length], tree⟩ =
      .ok () reached) (failure : Failure) :
    recover scene failure ⟨before, log, tree⟩ = .ok failure reached := by
  rw [recover_eq, done]

theorem recover_of_error {scene : Scene σ H R} {before : σ} {log : Log} {tree : Tree H R J}
    {reached : Plot σ H R J} {loss : Failure}
    (failed : takeBack scene ⟨before, log ++ [Event.abandoned tree.branches.length], tree⟩ =
      .error loss reached) (failure : Failure) :
    recover scene failure ⟨before, log, tree⟩ =
      if loss.kind = .scene then
        .ok (failure.during loss)
          ⟨reached.scene, reached.log ++ [Event.leftInScene loss.reason], reached.tree⟩
      else .error (loss.during failure) reached := by
  rw [recover_eq, failed]
  rfl

theorem orTakenBack_of_ok (scene : Scene σ H R) {act : Act (Plot σ H R J) Unit}
    {plot reached : Plot σ H R J} (done : act plot = .ok () reached) :
    orTakenBack scene act plot = .ok () reached := by
  simp only [orTakenBack, done]

/-- Nothing is taken back after an interruption. -/
theorem orTakenBack_of_interruption (scene : Scene σ H R) {act : Act (Plot σ H R J) Unit}
    {plot reached : Plot σ H R J} {failure : Failure}
    (failed : act plot = .error failure reached) (unrecoverable : failure.recoverable = false) :
    orTakenBack scene act plot = .error failure reached := by
  simp only [orTakenBack, failed, unrecoverable, Bool.false_eq_true, if_false]

theorem orTakenBack_of_error (scene : Scene σ H R) {act : Act (Plot σ H R J) Unit}
    {plot reached : Plot σ H R J} {failure : Failure}
    (failed : act plot = .error failure reached) (recoverable : failure.recoverable = true) :
    orTakenBack scene act plot = (recover scene failure >>= throw) reached := by
  simp only [orTakenBack, failed, if_pos recoverable]

/-! ## Watching changes nothing -/

section Mirrors

variable {view : τ → σ} {full taker : Scene τ H R} {plain plainTaker : Scene σ H R}

theorem change_mirrors (f : Tree H R J → Tree H R J) :
    Act.Mirrors (seen view) (change f) (change f) := fun _ => rfl

theorem onLog_mirrors (act : Act Log α) :
    Act.Mirrors (seen (H := H) (R := R) (J := J) view) (onLog act) (onLog act) := by
  intro plot
  cases run : act plot.log <;> simp only [onLog, Act.within, run, seen, Act.seen]

theorem onJitter_mirrors (act : Act J α) :
    Act.Mirrors (seen (H := H) (R := R) view) (onJitter act) (onJitter act) := by
  intro plot
  cases run : act plot.tree.jitter <;> simp only [onJitter, Act.within, run, seen, Act.seen]

theorem sceneCall_mirrors (action : SceneAction) {fullAct : Act τ α} {plainAct : Act σ α}
    (act : Act.Mirrors view fullAct plainAct) :
    Act.Mirrors (seen (H := H) (R := R) (J := J) view) (sceneCall action fullAct)
      (sceneCall action plainAct) := by
  intro plot
  have both := act plot.scene
  cases run : fullAct plot.scene with
  | ok value reached =>
    rw [run] at both
    rw [sceneCall_of_ok action run]
    exact (sceneCall_of_ok action both.symm plot.log plot.tree).symm
  | error failure reached =>
    rw [run] at both
    rw [sceneCall_of_error action run]
    exact (sceneCall_of_error action both.symm plot.log plot.tree).symm

theorem createBranch_mirrors (scene : Scene.Mirrors view full plain)
    (branch : Branch Float32 Float) :
    Act.Mirrors (seen (J := J) view) (createBranch full branch) (createBranch plain branch) := by
  refine Act.Mirrors.bind_get fun plot => ?_
  refine Act.Mirrors.bind (sceneCall_mirrors _ (scene.instantiate _ _)) (fun handle => ?_) plot
  refine Act.Mirrors.bind (change_mirrors _) fun _ => ?_
  refine Act.Mirrors.bind (Act.Mirrors.lift _) fun turns => ?_
  refine Act.Mirrors.bind (sceneCall_mirrors _ (scene.setTransform _ _ _ _)) fun _ => ?_
  exact Act.Mirrors.bind (sceneCall_mirrors _ (scene.reparent _ _)) fun _ => Act.Mirrors.pure _

theorem createBranches_mirrors (scene : Scene.Mirrors view full plain)
    (branches : List (Branch Float32 Float)) :
    Act.Mirrors (seen (J := J) view) (createBranches full branches)
      (createBranches plain branches) := by
  induction branches with
  | nil => exact Act.Mirrors.pure ()
  | cons branch branches inductionHypothesis =>
    exact Act.Mirrors.bind (Act.Mirrors.discard (createBranch_mirrors scene branch))
      fun _ => inductionHypothesis

theorem removeAll_mirrors (scene : Scene.Mirrors view full plain) (handles : List H) :
    Act.Mirrors (seen (J := J) view) (removeAll full handles) (removeAll plain handles) := by
  induction handles with
  | nil => exact Act.Mirrors.pure ()
  | cons handle handles inductionHypothesis =>
    refine Act.Mirrors.bind (sceneCall_mirrors _ (scene.destroy handle)) fun _ => ?_
    exact Act.Mirrors.bind (change_mirrors _) fun _ => inductionHypothesis

theorem clear_mirrors (scene : Scene.Mirrors view full plain) :
    Act.Mirrors (seen (J := J) view) (clear full) (clear plain) := by
  refine Act.Mirrors.bind (change_mirrors _) fun _ => ?_
  exact Act.Mirrors.bind_get fun plot => removeAll_mirrors scene _ plot

theorem removeEach_mirrors (scene : Scene.Mirrors view full plain) (handles : List H)
    (losses : Losses) :
    Act.Mirrors (seen (J := J) view) (removeEach full handles losses)
      (removeEach plain handles losses) := by
  induction handles generalizing losses with
  | nil => exact Act.Mirrors.pure losses
  | cons handle handles inductionHypothesis =>
    intro plot
    have both := sceneCall_mirrors (J := J) .destroy (scene.destroy handle) plot
    unfold removeEach
    rw [← both]
    cases sceneCall .destroy (full.destroy handle) plot with
    | ok value reached => exact inductionHypothesis losses reached
    | error failure reached =>
      by_cases inScene : failure.kind = .scene
      · simp only [Act.seen, if_pos inScene]
        exact inductionHypothesis _ reached
      · simp only [Act.seen, if_neg inScene]

theorem takeBack_mirrors (scene : Scene.Mirrors view full plain) :
    Act.Mirrors (seen (J := J) view) (takeBack full) (takeBack plain) := by
  refine Act.Mirrors.bind_get fun plot => ?_
  refine Act.Mirrors.bind (change_mirrors _) (fun _ => ?_) plot
  refine Act.Mirrors.bind (removeEach_mirrors scene _ _) fun losses => ?_
  cases losses.first with
  | none => exact Act.Mirrors.pure ()
  | some first => exact Act.Mirrors.throw _

theorem recover_mirrors (scene : Scene.Mirrors view full plain) (failure : Failure) :
    Act.Mirrors (seen (J := J) view) (recover full failure) (recover plain failure) := by
  refine Act.Mirrors.bind_get fun plot => ?_
  refine Act.Mirrors.bind (onLog_mirrors _) (fun _ => ?_) plot
  intro plot
  have both := takeBack_mirrors (J := J) scene plot
  dsimp only
  rw [← both]
  cases takeBack full plot with
  | ok value reached => rfl
  | error loss reached =>
    by_cases inScene : loss.kind = .scene
    · simp only [Act.seen, if_pos inScene]
      rfl
    · simp only [Act.seen, if_neg inScene]

theorem orTakenBack_mirrors (scene : Scene.Mirrors view taker plainTaker)
    {fullAct : Act (Plot τ H R J) Unit} {plainAct : Act (Plot σ H R J) Unit}
    (act : Act.Mirrors (seen view) fullAct plainAct) :
    Act.Mirrors (seen view) (orTakenBack taker fullAct) (orTakenBack plainTaker plainAct) := by
  intro plot
  have both := act plot
  unfold orTakenBack
  rw [← both]
  cases fullAct plot with
  | ok value reached => rfl
  | error failure reached =>
    by_cases recoverable : failure.recoverable = true
    · simp only [Act.seen, if_pos recoverable]
      exact Act.Mirrors.bind (recover_mirrors scene failure) (fun _ => Act.Mirrors.throw _) reached
    · simp only [Act.seen, if_neg recoverable]

variable [AngleSource J Float]

theorem grow_mirrors (scene : Scene.Mirrors view full plain) (growth : Growth) :
    Act.Mirrors (seen (J := J) view) (grow full growth) (grow plain growth) := by
  refine Act.Mirrors.bind ?_ fun _ => Act.Mirrors.bind ?_ fun _ => Act.Mirrors.bind ?_ fun _ =>
    Act.Mirrors.bind_get fun plot => createBranches_mirrors scene _ plot
  · refine Act.Mirrors.bind (change_mirrors _) fun _ => ?_
    exact Act.Mirrors.bind (onLog_mirrors _) fun _ => change_mirrors _
  · refine Act.Mirrors.bind_get fun plot => ?_
    refine Act.Mirrors.bind (onJitter_mirrors _) (fun _ => ?_) plot
    exact Act.Mirrors.bind (onLog_mirrors _) fun _ => change_mirrors _
  · refine Act.Mirrors.bind_get fun plot => ?_
    refine Act.Mirrors.bind (Act.Mirrors.lift _) (fun _ => ?_) plot
    exact Act.Mirrors.bind (onLog_mirrors _) fun _ => change_mirrors _

end Mirrors

variable [AngleSource J Float]

/-- Grow a tree anew in one scene; if that fails, take it back from another. -/
def regenerateBetween (scene taker : Scene σ H R) (start iterations : Option Value) :
    Act (Plot σ H R J) Unit := do
  let growth ← Act.lift ((← get).tree.request start iterations)
  clear scene
  orTakenBack taker (grow scene growth)
  onLog (report [grownEvent (← get).tree])

/-- Grow a tree anew and note what is done to the scene. -/
def regenerateWatched (scene : Scene σ H R) (start iterations : Option Value) :
    Act (Plot (σ × List (Deed H R)) H R J) Unit :=
  regenerateBetween (scene.watched .clearing) (scene.watched .takingBack) start iterations

theorem regenerateBetween_mirrors {view : τ → σ} {full taker : Scene τ H R}
    {plain plainTaker : Scene σ H R} (scene : Scene.Mirrors view full plain)
    (back : Scene.Mirrors view taker plainTaker) (start iterations : Option Value) :
    Act.Mirrors (seen (J := J) view) (regenerateBetween full taker start iterations)
      (regenerateBetween plain plainTaker start iterations) := by
  refine Act.Mirrors.bind_get fun plot => ?_
  refine Act.Mirrors.bind (Act.Mirrors.lift _) (fun growth => ?_) plot
  refine Act.Mirrors.bind (clear_mirrors scene) fun _ => ?_
  refine Act.Mirrors.bind (orTakenBack_mirrors back (grow_mirrors scene growth)) fun _ => ?_
  exact Act.Mirrors.bind_get fun plot => onLog_mirrors _ plot

/-- Growing a tree anew comes to the same whether or not it is watched. -/
theorem regenerateWatched_mirrors (scene : Scene σ H R) (start iterations : Option Value) :
    Act.Mirrors (seen (J := J) Prod.fst) (regenerateWatched scene start iterations)
      (regenerate scene start iterations) :=
  regenerateBetween_mirrors (scene.watched_mirrors .clearing) (scene.watched_mirrors .takingBack)
    start iterations

omit [AngleSource J Float]

/-- What a watched run shows of the run itself. -/
theorem run_of_watched {full : Act (Plot (σ × List (Deed H R)) H R J) α}
    {plain : Act (Plot σ H R J) α} (same : Act.Mirrors (seen Prod.fst) full plain)
    {before after : σ} {noted deeds : List (Deed H R)} {log reported : Log}
    {tree reached : Tree H R J} {result : Except Failure α}
    (run : full ⟨(before, noted), log, tree⟩ =
      Act.settled result ⟨(after, deeds), reported, reached⟩) :
    plain ⟨before, log, tree⟩ = Act.settled result ⟨after, reported, reached⟩ := by
  have both := same ⟨(before, noted), log, tree⟩
  rw [run] at both
  cases result <;> exact both.symm

/-- What has been noted at the end of a watched run. -/
theorem deedsOf_of_run {full : Act (Plot (σ × List (Deed H R)) H R J) α}
    {plot : Plot σ H R J} {after : σ} {deeds : List (Deed H R)} {reported : Log}
    {reached : Tree H R J} {result : Except Failure α}
    (run : full plot.watching = Act.settled result ⟨(after, deeds), reported, reached⟩) :
    deedsOf full plot = deeds := by
  rw [deedsOf, Act.reached_of_settled run]

/-- A watched run leaves the tree as the run itself does. -/
theorem tree_of_watched {full : Act (Plot (σ × List (Deed H R)) H R J) α}
    {plain : Act (Plot σ H R J) α} (same : Act.Mirrors (seen Prod.fst) full plain)
    (plot : Plot σ H R J) : (plain.reached plot).tree = (full.reached plot.watching).tree := by
  have both : Act.seen (seen Prod.fst) (full plot.watching) = plain plot := same plot.watching
  unfold Act.reached
  rw [← both]
  cases full plot.watching <;> rfl

theorem deedsOf_discard (act : Act (Plot (σ × List (Deed H R)) H R J) α) (plot : Plot σ H R J) :
    deedsOf (discard act) plot = deedsOf act plot := by
  rw [deedsOf, Act.reached_discard, deedsOf]

end Plot
end Arbor
