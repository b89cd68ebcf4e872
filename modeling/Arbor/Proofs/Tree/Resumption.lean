import Arbor.Proofs.Scene.Hindrance
import Arbor.Proofs.Tree.Surfacing

/-!
# Clearing in several attempts

Clearing takes the objects of a tree from the front of the register, and an object leaves the
register only when the scene has removed it.  So wherever the scene stops it, the next attempt goes
on with the very object that this one was stopped at, none is skipped, and none is removed twice.
After any number of stopped attempts and one that is not stopped the tree and the log are as they
would be after a single clearing, and so is a scene whose failures were mere hindrances.

A regeneration that is stopped while it clears away the old tree is nothing but a stopped clearing.
-/

namespace Arbor

variable {σ τ H R J : Type}

/-- The deeds of a clearing that removes all of some objects. -/
def removals (handles : List H) : List (Deed H R) :=
  handles.map fun handle => .destroy .clearing handle (.ok ())

/-- The deeds of a clearing that removes some objects and is stopped at the next one. -/
def stoppedRemovals (removed : List H) (stuck : H) (refusal : Failure) : List (Deed H R) :=
  removals removed ++ [.destroy .clearing stuck (.error refusal)]

theorem made_removals (handles : List H) : made (removals handles : List (Deed H R)) = [] := by
  induction handles with
  | nil => rfl
  | cons handle handles inductionHypothesis => exact inductionHypothesis

theorem destroyed_removals (handles : List H) :
    destroyed (removals handles : List (Deed H R)) = handles := by
  induction handles with
  | nil => rfl
  | cons handle handles inductionHypothesis => exact congrArg (handle :: ·) inductionHypothesis

theorem failure?_of_mem_removals {handles : List H} {deed : Deed H R}
    (member : deed ∈ removals handles) : deed.failure? = none := by
  rcases List.mem_map.mp member with ⟨handle, -, rfl⟩
  rfl

theorem made_stoppedRemovals (removed : List H) (stuck : H) (refusal : Failure) :
    made (stoppedRemovals removed stuck refusal : List (Deed H R)) = [] := by
  rw [stoppedRemovals, made_append, made_removals]
  rfl

theorem destroyed_stoppedRemovals (removed : List H) (stuck : H) (refusal : Failure) :
    destroyed (stoppedRemovals removed stuck refusal : List (Deed H R)) = removed := by
  rw [stoppedRemovals, destroyed_append, destroyed_removals]
  exact List.append_nil removed

/-- Clearing removes all objects, or those before one that the scene does not remove. -/
theorem Clearing.course {handles left : List H} {deeds : List (Deed H R)}
    {failure : Option Failure} (clearing : Clearing handles deeds left failure) :
    (deeds = removals handles ∧ left = [] ∧ failure = none) ∨
      ∃ removed stuck later refusal, handles = removed ++ stuck :: later ∧
        deeds = stoppedRemovals removed stuck refusal ∧
        left = stuck :: later ∧ failure = some (refusal.ofSceneCall .destroy) := by
  induction clearing with
  | done => exact Or.inl ⟨rfl, rfl, rfl⟩
  | stuck handle handles refusal =>
    exact Or.inr ⟨[], handle, handles, refusal, rfl, rfl, rfl, rfl⟩
  | next handle _ inductionHypothesis =>
    rcases inductionHypothesis with
        ⟨rfl, rfl, rfl⟩ | ⟨removed, stuck, later, refusal, rfl, rfl, rfl, rfl⟩
    · exact Or.inl ⟨rfl, rfl, rfl⟩
    · exact Or.inr ⟨handle :: removed, stuck, later, refusal, rfl, rfl, rfl, rfl⟩

namespace Plot

variable {scene : Scene σ H R} {plot final : Plot σ H R J}

/-! ## One attempt -/

/-- Objects that the scene removes leave the register, and the removal goes on behind them. -/
theorem removeAll_of_removals {removed later : List H} {before between : σ} {tree : Tree H R J}
    (registered : tree.branches = removed ++ later)
    (performs : scene.Performs before (removals removed) between) (noted : List (Deed H R))
    (log : Log) :
    removeAll (scene.watched .clearing) (removed ++ later) ⟨(before, noted), log, tree⟩ =
      removeAll (scene.watched .clearing) later
        ⟨(between, noted ++ removals removed), log, tree.keep later⟩ := by
  induction removed generalizing before noted tree with
  | nil =>
    cases performs
    have same : tree.keep later = tree := by
      rw [← List.nil_append later, ← registered]
      rfl
    rw [same, removals, List.map_nil, List.append_nil]
    rfl
  | cons handle removed inductionHypothesis =>
    rcases performs with ⟨middle, happens, performs⟩
    have first := removeAll_of_ok (Scene.watched_destroy happens noted) (removed ++ later) log tree
    have stillRegistered : (tree.keep (removed ++ later)).branches = removed ++ later := rfl
    have onward := inductionHypothesis stillRegistered performs
      (noted ++ [.destroy .clearing handle (.ok ())])
    rw [List.append_assoc] at onward
    exact first.trans onward

/-- A clearing that the scene stops has removed the objects before the one it stops at. -/
theorem clearWatched_of_stuck {removed later : List H} {stuck : H} {refusal : Failure}
    {before after : σ} {tree : Tree H R J} (registered : tree.branches = removed ++ stuck :: later)
    (performs : scene.Performs before (stoppedRemovals removed stuck refusal) after) (log : Log) :
    clear (scene.watched .clearing) ⟨(before, []), log, tree⟩ =
      Act.ended (some (refusal.ofSceneCall .destroy))
        ⟨(after, stoppedRemovals removed stuck refusal), log,
          tree.forget.keep (stuck :: later)⟩ := by
  rcases performs.split with ⟨between, begun, last, refused, ended⟩
  cases ended
  have known : tree.forget.branches = removed ++ stuck :: later := registered
  have onward := removeAll_of_removals known begun [] log
  have stopped := removeAll_of_error (Scene.watched_destroy refused (removals removed)) later log
    (tree.forget.keep (stuck :: later))
  rw [← registered] at onward
  exact onward.trans stopped

/-- A clearing that the scene does not stop has removed all objects. -/
theorem clearWatched_of_removals {before after : σ} {tree : Tree H R J}
    (performs : scene.Performs before (removals tree.branches) after) (log : Log) :
    clear (scene.watched .clearing) ⟨(before, []), log, tree⟩ =
      Act.ended none ⟨(after, removals tree.branches), log, tree.forget.keep []⟩ := by
  have known : tree.forget.branches = tree.branches ++ [] := (List.append_nil _).symm
  have whole := removeAll_of_removals known performs [] log
  rw [List.append_nil] at whole
  exact whole

/-- An attempt that is not stopped, with its deeds. -/
theorem clear_done (clears : clear scene plot = .ok () final) :
    deedsOf (clear (scene.watched .clearing)) plot = removals plot.tree.branches ∧
      scene.Performs plot.scene (removals plot.tree.branches) final.scene ∧
      final = ⟨final.scene, plot.log, plot.tree.forget.keep []⟩ := by
  rcases clear_course scene plot with ⟨left, failure, after, clearing, performs, run⟩
  rcases clearing.course with ⟨deeds, rfl, rfl⟩ | ⟨_, _, _, _, _, _, _, rfl⟩
  · cases clears.symm.trans run
    exact ⟨deeds, deeds ▸ performs, rfl⟩
  · cases clears.symm.trans run

/-- An attempt that is stopped, with its deeds. -/
theorem clear_stopped {failure : Failure} (stops : clear scene plot = .error failure final) :
    ∃ removed stuck later refusal, plot.tree.branches = removed ++ stuck :: later ∧
      deedsOf (clear (scene.watched .clearing)) plot = stoppedRemovals removed stuck refusal ∧
      scene.Performs plot.scene (stoppedRemovals removed stuck refusal) final.scene ∧
      final = ⟨final.scene, plot.log, plot.tree.forget.keep (stuck :: later)⟩ := by
  rcases clear_course scene plot with ⟨left, ended, after, clearing, performs, run⟩
  rcases clearing.course with
      ⟨_, _, rfl⟩ | ⟨removed, stuck, later, refusal, whole, deeds, rfl, rfl⟩
  · cases stops.symm.trans run
  · cases stops.symm.trans run
    exact ⟨removed, stuck, later, refusal, whole, deeds, deeds ▸ performs, rfl⟩

/-! ## Attempt after attempt -/

/-- A tree is cleared in several attempts, each stopped but the last one.  The deeds of the attempts
are kept apart.  Between two attempts something else may become of the scene. -/
inductive Retried (scene : Scene σ H R) (meanwhile : σ → σ → Prop) :
    Plot σ H R J → List (List (Deed H R)) → Plot σ H R J → Prop
  | done {plot final : Plot σ H R J} (clears : clear scene plot = .ok () final) :
    Retried scene meanwhile plot [deedsOf (clear (scene.watched .clearing)) plot] final
  | again {plot stuck final : Plot σ H R J} {failure : Failure} {changed : σ}
    {courses : List (List (Deed H R))} (stops : clear scene plot = .error failure stuck)
    (changes : meanwhile stuck.scene changed)
    (later : Retried scene meanwhile { stuck with scene := changed } courses final) :
    Retried scene meanwhile plot (deedsOf (clear (scene.watched .clearing)) plot :: courses) final

namespace Retried

variable {meanwhile : σ → σ → Prop} {courses : List (List (Deed H R))}

/-- All attempts together remove every object once, from first to last. -/
theorem destroyed_eq (retried : Retried scene meanwhile plot courses final) :
    destroyed courses.flatten = plot.tree.branches := by
  induction retried with
  | done clears =>
    rw [(clear_done clears).1, List.flatten_singleton, destroyed_removals]
  | @again plot stuck final failure changed courses stops changes later inductionHypothesis =>
    rcases clear_stopped stops with ⟨removed, first, others, refusal, whole, deeds, -, left⟩
    have rest : destroyed courses.flatten = first :: others := by
      rw [inductionHypothesis, left]
      rfl
    rw [List.flatten_cons, destroyed_append, deeds, destroyed_stoppedRemovals, rest, whole]

/-- What is left of the tree does not tell how often it was tried. -/
theorem log_and_tree (retried : Retried scene meanwhile plot courses final) :
    final.log = plot.log ∧ final.tree = plot.tree.forget.keep [] := by
  induction retried with
  | done clears =>
    rw [(clear_done clears).2.2]
    exact ⟨rfl, rfl⟩
  | again stops changes later inductionHypothesis =>
    rcases clear_stopped stops with ⟨removed, first, others, refusal, -, -, -, left⟩
    rw [left] at inductionHypothesis
    exact inductionHypothesis

/-- In a scene that keeps account of its objects, those of the tree are gone and no others. -/
theorem live_iff (retried : Retried scene meanwhile plot courses final) (ledger : scene.Ledger)
    (quiet : ∀ before after, meanwhile before after → ledger.sound before →
      ledger.sound after ∧ ledger.live after = ledger.live before)
    (sound : ledger.sound plot.scene) (handle : H) :
    handle ∈ ledger.live final.scene ↔
      handle ∈ ledger.live plot.scene ∧ handle ∉ plot.tree.branches := by
  induction retried with
  | @done plot final clears =>
    rcases ledger.accounts sound (clear_done clears).2.1 with ⟨-, accounts⟩
    rw [accounts.of_made_nil (made_removals _), destroyed_removals]
  | again stops changes later inductionHypothesis =>
    rcases clear_stopped stops with ⟨removed, first, others, refusal, whole, -, performs, left⟩
    rcases ledger.accounts sound performs with ⟨soundStuck, accounts⟩
    rcases quiet _ _ changes soundStuck with ⟨soundChanged, same⟩
    have onward := inductionHypothesis soundChanged
    rw [left] at onward
    rw [onward, same, accounts.of_made_nil (made_stoppedRemovals _ _ _),
      destroyed_stoppedRemovals, whole, List.mem_append, not_or, and_assoc]
    rfl

end Retried

/-- A stopped attempt in a hindered scene is the beginning of a clearing that the other scene does
not stop. -/
theorem performs_of_stopped {plain : Scene τ H R} (hindered : scene.Hindered plain)
    {removed later : List H} {stuck : H} {refusal : Failure} {before after : σ} {undisturbed : τ}
    (sound : hindered.sound before)
    (stops : scene.Performs before (stoppedRemovals removed stuck refusal) after)
    (whole : plain.Performs (hindered.view before) (removals (removed ++ stuck :: later))
      undisturbed) :
    plain.Performs (hindered.view after) (removals (stuck :: later)) undisturbed := by
  rcases stops.split with ⟨between, begun, last, refused, ended⟩
  cases ended
  rw [removals, List.map_append] at whole
  rcases whole.split with ⟨middle, same, onward⟩
  have alike := hindered.performs_of_unfailing begun sound fun deed => failure?_of_mem_removals
  cases alike.unique same
  rcases (hindered.happens refused (hindered.sound_of_performs begun sound)).2 with
      alsoRefused | ⟨-, untouched⟩
  · -- the other scene removes this object, so it cannot have refused to
    rcases onward with ⟨next, removes, -⟩
    have contradiction := alsoRefused.symm.trans removes
    cases contradiction
  · rw [untouched]
    exact onward

/-- If the failures were mere hindrances, the scene ends up as after a clearing without them. -/
theorem Retried.view_eq {plain : Scene τ H R} {meanwhile : σ → σ → Prop}
    {courses : List (List (Deed H R))} (retried : Retried scene meanwhile plot courses final)
    (hindered : scene.Hindered plain)
    (quiet : ∀ before after, meanwhile before after → hindered.sound before →
      hindered.sound after ∧ hindered.view after = hindered.view before)
    (sound : hindered.sound plot.scene) {undisturbed : τ}
    (whole : plain.Performs (hindered.view plot.scene) (removals plot.tree.branches) undisturbed) :
    hindered.view final.scene = undisturbed := by
  induction retried with
  | done clears =>
    have alike := hindered.performs_of_unfailing (clear_done clears).2.1 sound fun deed =>
      failure?_of_mem_removals
    exact alike.unique whole
  | again stops changes later inductionHypothesis =>
    rcases clear_stopped stops with ⟨removed, first, others, refusal, registered, -, performs, left⟩
    rcases quiet _ _ changes (hindered.sound_of_performs performs sound) with ⟨stillSound, same⟩
    rw [registered] at whole
    have onward := performs_of_stopped hindered sound performs whole
    rw [← same] at onward
    rw [left] at inductionHypothesis
    exact inductionHypothesis stillSound onward

/-- A stopped clearing, and all that a regeneration is that gets no further. -/
theorem regenerate_of_stopped [AngleSource J Float] {failure : Failure}
    (stops : clear scene plot = .error failure final) {start iterations : Option Value}
    {growth : Growth}
    (valid : (plot.tree.settings.overridden start iterations).validate = .ok growth) :
    regenerate scene start iterations plot = .error failure final ∧
      deedsOf (regenerateWatched scene start iterations) plot =
        deedsOf (clear (scene.watched .clearing)) plot := by
  constructor
  · exact regenerateBetween_of_stuck scene scene plot valid stops
  · rcases clear_clearing scene plot.scene [] plot.log plot.tree with
        ⟨deeds, left, ended, after, clearing, performs, watched⟩
    have run := run_of_watched (clear_mirrors (scene.watched_mirrors .clearing)) watched
    cases ended with
    | none => cases stops.symm.trans run
    | some other =>
      have same : regenerateWatched scene start iterations plot.watching =
          Act.ended (some other) ⟨(after, [] ++ deeds), plot.log, plot.tree.forget.keep left⟩ :=
        regenerateBetween_of_stuck (scene.watched .clearing) (scene.watched .takingBack)
          plot.watching valid watched
      rw [deedsOf_of_run watched, deedsOf_of_run same]

/-! ## What comes of it -/

/-- What comes of a clearing that the scene stops at an object. -/
structure Stopped (scene : Scene σ H R) (plot : Plot σ H R J) (removed : List H) (stuck : H)
    (later : List H) (refusal : Failure) (after : σ) : Prop where
  /-- The tree has been forgotten, and this object and those behind it stay registered. -/
  run : clear scene plot = .error (refusal.ofSceneCall .destroy)
    ⟨after, plot.log, plot.tree.forget.keep (stuck :: later)⟩
  /-- The failure is one of the scene. -/
  surfaces : refusal.recoverable = true → refusal.Surfaces .destroy (refusal.ofSceneCall .destroy)
  /-- An interruption is passed on as it is. -/
  interruption : refusal.recoverable = false → refusal.ofSceneCall .destroy = refusal
  /-- Nothing is asked of the scene after that. -/
  deeds : deedsOf (clear (scene.watched .clearing)) plot = stoppedRemovals removed stuck refusal
  /-- Exactly the objects before it are gone. -/
  live : ∀ ledger : scene.Ledger, ledger.sound plot.scene → ∀ handle,
    handle ∈ ledger.live after ↔ handle ∈ ledger.live plot.scene ∧ handle ∉ removed

/-- What comes of a clearing that the scene does not stop. -/
structure Completed (scene : Scene σ H R) (plot : Plot σ H R J) (after : σ) : Prop where
  /-- The tree has been forgotten, and nothing is registered any longer. -/
  run : clear scene plot = .ok () ⟨after, plot.log, plot.tree.forget.keep []⟩
  deeds : deedsOf (clear (scene.watched .clearing)) plot = removals plot.tree.branches
  /-- Exactly the objects of the tree are gone. -/
  live : ∀ ledger : scene.Ledger, ledger.sound plot.scene → ∀ handle,
    handle ∈ ledger.live after ↔ handle ∈ ledger.live plot.scene ∧ handle ∉ plot.tree.branches

/-- What has come of all attempts together once one has not been stopped. -/
structure Resumed (scene : Scene σ H R) (meanwhile : σ → σ → Prop) (plot : Plot σ H R J)
    (courses : List (List (Deed H R))) (final : Plot σ H R J) : Prop where
  /-- Every object has been removed once, in the order of the register. -/
  destroyed : destroyed courses.flatten = plot.tree.branches
  log : final.log = plot.log
  tree : final.tree = plot.tree.forget.keep []
  /-- Exactly the objects of the tree are gone, if nothing else happens to them meanwhile. -/
  live : ∀ ledger : scene.Ledger,
    (∀ before after, meanwhile before after → ledger.sound before →
      ledger.sound after ∧ ledger.live after = ledger.live before) →
    ledger.sound plot.scene → ∀ handle,
      handle ∈ ledger.live final.scene ↔
        handle ∈ ledger.live plot.scene ∧ handle ∉ plot.tree.branches
  /-- All is as after a single clearing that nothing has hindered. -/
  undisturbed : ∀ (τ : Type) (plain : Scene τ H R) (hindered : scene.Hindered plain),
    (∀ before after, meanwhile before after → hindered.sound before →
      hindered.sound after ∧ hindered.view after = hindered.view before) →
    hindered.sound plot.scene → ∀ undisturbed,
      clear plain (plot.seen hindered.view) = .ok () undisturbed →
        final.seen hindered.view = undisturbed

theorem stopped_of_performs {removed later : List H} {stuck : H} {refusal : Failure} {after : σ}
    (registered : plot.tree.branches = removed ++ stuck :: later)
    (performs : scene.Performs plot.scene (stoppedRemovals removed stuck refusal) after) :
    Stopped scene plot removed stuck later refusal after := by
  have watched := clearWatched_of_stuck registered performs plot.log
  constructor
  · exact run_of_watched (clear_mirrors (scene.watched_mirrors .clearing)) watched
  · exact Failure.surfaces_ofSceneCall .destroy
  · exact Failure.ofSceneCall_of_interruption
  · exact deedsOf_of_run watched
  · intro ledger sound handle
    rw [(ledger.accounts sound performs).2.of_made_nil (made_stoppedRemovals _ _ _),
      destroyed_stoppedRemovals]

theorem completed_of_performs {after : σ}
    (performs : scene.Performs plot.scene (removals plot.tree.branches) after) :
    Completed scene plot after := by
  have watched := clearWatched_of_removals performs plot.log
  constructor
  · exact run_of_watched (clear_mirrors (scene.watched_mirrors .clearing)) watched
  · exact deedsOf_of_run watched
  · intro ledger sound handle
    rw [(ledger.accounts sound performs).2.of_made_nil (made_removals _), destroyed_removals]

theorem Retried.resumed {meanwhile : σ → σ → Prop} {courses : List (List (Deed H R))}
    (retried : Retried scene meanwhile plot courses final) :
    Resumed scene meanwhile plot courses final := by
  refine ⟨retried.destroyed_eq, retried.log_and_tree.1, retried.log_and_tree.2,
    fun ledger quiet sound => retried.live_iff ledger quiet sound, ?_⟩
  intro τ plain hindered quiet sound undisturbed clears
  rcases clear_done clears with ⟨-, whole, same⟩
  have view := retried.view_eq hindered quiet sound whole
  rcases retried.log_and_tree with ⟨log, tree⟩
  rw [same, ← view, seen, log, tree]
  rfl

/-- A clearing is stopped at the first object that the scene does not remove, or it is not stopped,
and can be resumed where it was stopped.  A regeneration that is stopped before it has cleared the
old tree away does and leaves what that clearing does and leaves. -/
theorem clearing_resumes [AngleSource J Float] (scene : Scene σ H R) (plot : Plot σ H R J) :
    (∀ removed stuck later refusal after, plot.tree.branches = removed ++ stuck :: later →
      scene.Performs plot.scene (stoppedRemovals removed stuck refusal) after →
        Stopped scene plot removed stuck later refusal after ∧
        ∀ start iterations growth,
          (plot.tree.settings.overridden start iterations).validate = .ok growth →
            regenerate scene start iterations plot = clear scene plot ∧
            deedsOf (regenerateWatched scene start iterations) plot =
              deedsOf (clear (scene.watched .clearing)) plot) ∧
    (∀ after, scene.Performs plot.scene (removals plot.tree.branches) after →
      Completed scene plot after) ∧
    ((∃ after, scene.Performs plot.scene (removals plot.tree.branches) after) ∨
      ∃ removed stuck later refusal after, plot.tree.branches = removed ++ stuck :: later ∧
        scene.Performs plot.scene (stoppedRemovals removed stuck refusal) after) ∧
    ∀ meanwhile courses final, Retried scene meanwhile plot courses final →
      Resumed scene meanwhile plot courses final := by
  refine ⟨?_, fun after performs => completed_of_performs performs, ?_,
    fun meanwhile courses final retried => retried.resumed⟩
  · intro removed stuck later refusal after registered performs
    have stopped := stopped_of_performs registered performs
    refine ⟨stopped, fun start iterations growth valid => ?_⟩
    rw [stopped.run]
    exact regenerate_of_stopped stopped.run valid
  · cases clears : clear scene plot with
    | ok value final => exact Or.inl ⟨final.scene, (clear_done clears).2.1⟩
    | error failure final =>
      rcases clear_stopped clears with ⟨removed, stuck, later, refusal, whole, -, performs, -⟩
      exact Or.inr ⟨removed, stuck, later, refusal, final.scene, whole, performs⟩

/-- A scene that makes and places objects, but is interrupted when it is to remove one. -/
def unyielding : Scene Nat Nat Value where
  instantiate _ _ := fun made => .ok made (made + 1)
  setTransform _ _ _ _ := pure ()
  reparent _ _ := pure ()
  destroy _ := throw ⟨.foreign .interruption "stop", [], []⟩

/-- A scene whose state lists its objects.  It fails when it is to remove one, but only after the
object is gone. -/
def slippery : Scene (List Nat) Nat Value where
  instantiate _ _ := fun live => .ok live.length (live ++ [live.length])
  setTransform _ _ _ _ := pure ()
  reparent _ _ := pure ()
  destroy handle := fun live =>
    .error ⟨.foreign .runtime "too late", [], []⟩ (live.erase handle)

/-- A clearing that is stopped by an interruption does not fail with a failure of the scene, and
where the scene fails too late, an object is gone that no removal has succeeded on. -/
theorem stopped_clearing_may_differ :
    (∃ stood failure stuck,
      regenerate unyielding none none ⟨0, #[], seedling⟩ = .ok () stood ∧
      clear unyielding stood = .error failure stuck ∧ failure.kind ≠ .scene) ∧
    ∃ stood failure stuck,
      regenerate slippery none none ⟨[], #[], seedling⟩ = .ok () stood ∧
      stood.scene = [0] ∧ stood.tree.branches = [0] ∧
      clear slippery stood = .error failure stuck ∧
      stuck.scene = [] ∧ stuck.tree.branches = [0] := by
  constructor
  · rcases grow_seedling unyielding with ⟨branch, points, events, turns, heading, grows⟩
    have run := grows 0 #[]
    unfold createBranches createBranch at run
    rw [heading] at run
    have cleared := regenerateBetween_of_cleared unyielding unyielding ⟨0, #[], seedling⟩
      seedling_valid (seedling_clears _ _ _)
    have grown := cleared.trans (Act.bind_of_ok (orTakenBack_of_ok unyielding run))
    exact ⟨_, _, _, grown, rfl, by decide⟩
  · rcases grow_seedling slippery with ⟨branch, points, events, turns, heading, grows⟩
    have run := grows [] #[]
    unfold createBranches createBranch at run
    rw [heading] at run
    have cleared := regenerateBetween_of_cleared slippery slippery ⟨[], #[], seedling⟩
      seedling_valid (seedling_clears _ _ _)
    have grown := cleared.trans (Act.bind_of_ok (orTakenBack_of_ok slippery run))
    exact ⟨_, _, _, grown, rfl, rfl, rfl, rfl, rfl⟩

end Plot

namespace Recording

open Plot

/-- Three objects stand on the only stage. -/
def threeObjects : Theatre where
  items := #[{ index := 0, prefab := none, parent := none },
    { index := 1, prefab := none, parent := none }, { index := 2, prefab := none, parent := none }]
  stages := [{ live := [0, 1, 2], created := 3 }]

/-- A tree registers three objects, on a stage that fails when it is to remove one for the second
time. -/
def bedded : Plot Rehearsal Nat Value Jitter where
  scene := Rehearsal.setFaults 0
    ((PerAction.fill none).set
      (some { strikes := .calls [1], kind := .runtime, text := "stuck" }) .destroy)
    ⟨threeObjects, [{}]⟩
  tree := { jitter := .constant (.real 0), branches := [0, 1, 2] }

theorem bedded_prompt : bedded.scene.Prompt := by
  intro number action fault given
  match number with
  | 0 =>
    cases action with
    | destroy =>
      cases given
      rfl
    | _ => cases given
  | number + 1 => cases action <;> cases given

theorem bedded_sound : bedded.scene.theatre.Sound 0 := by
  constructor
  · exact Nat.one_pos
  · have nodup : [0, 1, 2].Nodup := by decide
    exact nodup
  · intro id live
    have member : id ∈ [0, 1, 2] := live
    simp only [List.mem_cons, List.not_mem_nil, or_false] at member
    rcases member with rfl | rfl | rfl <;> exact ⟨_, rfl, rfl⟩

/-- The second object is refused once, and the next clearing is not stopped. -/
theorem bedded_runs :
    ∃ after final, (Rehearsal.scene 0).Performs bedded.scene
        (stoppedRemovals [0] 1 ⟨.foreign .runtime "stuck", [], []⟩) after ∧
      clear (Rehearsal.scene 0) ⟨after, #[], bedded.tree.forget.keep [1, 2]⟩ = .ok () final :=
  ⟨_, _, ⟨_, rfl, _, rfl, rfl⟩, rfl⟩

/-- The next clearing begins with the object that was refused, and then all three are gone, as after
a single clearing on a stage without faults. -/
theorem bedded_resumes :
    ∃ failure stuck final, ∃ courses : List (List (Deed Nat Value)),
      clear (Rehearsal.scene 0) bedded = .error failure stuck ∧
      failure.message = "failed to destroy branch: stuck" ∧ stuck.tree.branches = [1, 2] ∧
      clear (Rehearsal.scene 0) stuck = .ok () final ∧ final.tree.branches = [] ∧
      destroyed courses.flatten = [0, 1, 2] ∧
      (∀ handle, handle ∉ (final.scene.theatre.stage 0).live) ∧
      clear (Theatre.scene 0) (bedded.seen Rehearsal.theatre) =
        .ok () (final.seen Rehearsal.theatre) := by
  rcases bedded_runs with ⟨after, final, performs, clears⟩
  rcases clearing_resumes (Rehearsal.scene 0) bedded with ⟨stops, -, -, resumes⟩
  have stopped := (stops [0] 1 [2] _ _ rfl performs).1
  have retried : Retried (Rehearsal.scene 0) Eq bedded _ final :=
    .again stopped.run rfl (.done clears)
  have resumed := resumes _ _ _ retried
  have branches : final.tree.branches = [] := by rw [resumed.tree]; rfl
  refine ⟨_, _, final, _, stopped.run, by decide, rfl, clears, branches, resumed.destroyed, ?_, ?_⟩
  · intro handle member
    have live := resumed.live ((Rehearsal.hindered 0).ledger (Theatre.ledger 0))
      (fun before after same sound => same ▸ ⟨sound, rfl⟩) ⟨bedded_prompt, bedded_sound⟩ handle
    rcases live.mp member with ⟨stood, other⟩
    exact other stood
  · obtain ⟨undisturbed, whole⟩ : ∃ undisturbed,
      clear (Theatre.scene 0) (bedded.seen Rehearsal.theatre) = .ok () undisturbed := ⟨_, rfl⟩
    have same := resumed.undisturbed Theatre (Theatre.scene 0) (Rehearsal.hindered 0)
      (fun before after same sound => same ▸ ⟨sound, rfl⟩) bedded_prompt undisturbed whole
    exact same ▸ whole

end Recording
end Arbor
