import Arbor.Proofs.Settings.Checking
import Arbor.Proofs.Tree.Making
import Arbor.Proofs.Tree.Removing
import Arbor.Proofs.Walk.Spatial

/-!
# How a tree is grown anew

`Growing` describes the growth of a tree from nothing, and `Regeneration` that of a tree that stands
already: what is asked for may be refused, the old objects may not all be cleared away, and the new
tree may be complete, be left as it is by an interruption, or be taken back.  These are all the ways
in which `regenerate` can end, so a law of regenerations has one case for each.
-/

namespace Arbor

variable {σ H R J : Type}

/-- The word that a tree is grown from. -/
def Growth.word (growth : Growth) : List Char :=
  Rules.Table.branching.expand growth.passes growth.start

/-- What is reported about the passes over the start word. -/
def Growth.passEvents (growth : Growth) : List Event :=
  Rules.Table.passEvents (Rules.Table.branching.passes growth.passes growth.start)

/-- A tree with an expanded word. -/
def Tree.sow (growth : Growth) (tree : Tree H R J) : Tree H R J :=
  { tree with rules := some Rules.Table.branching, expanded := growth.word }

/-- A tree with points, the branches among them, and the sways that are left. -/
def Tree.shape (points : Array (Pose Float32 Float)) (branches : List (Branch Float32 Float))
    (jitter : J) (tree : Tree H R J) : Tree H R J :=
  { tree with points := points, descriptors := branches, jitter := jitter }

/-- What is asked of a tree is checked as its settings would be with the start word and the number of
passes that are given. -/
theorem Tree.request_eq (tree : Tree H R J) (start iterations : Option Value) :
    tree.request start iterations = (tree.settings.overridden start iterations).validate := rfl

/-- Whether an event is a warning. -/
def Event.warns (event : Event) : Bool := decide (event.level = .warning)

section

variable [AngleSource J Float]

/-- A tree is grown by the deeds.  It is lost if the walk fails, for what the walk failed for;
otherwise the objects of its branches are made, up to the first failure. -/
inductive Growing (tree : Tree H R J) (growth : Growth) :
    List (Deed H R) → Tree H R J → Option Failure → Prop
  | lost {failure : Failure} {jitter : J}
    (walk : (interpret growth.word : Act J (Turtle Float32 Float J)) tree.jitter =
      .error failure jitter) :
    Growing tree growth [] { tree.sow growth with jitter := jitter } (some failure)
  | built {turtle : Turtle Float32 Float J} {jitter : J} {branches : List (Branch Float32 Float)}
    (walk : interpret growth.word tree.jitter = .ok turtle jitter)
    (among : Branch.ofPoints turtle.points Branch.standardRadius = .ok branches)
    (spatial : ∀ branch ∈ branches, branch.Spatial)
    {deeds : List (Deed H R)} {handles : List H} {failure : Option Failure}
    (making : MakingAll tree.settings branches deeds handles failure) :
    Growing tree growth deeds
      (((tree.sow growth).shape turtle.points branches jitter).keep (tree.branches ++ handles))
      failure

/-- A tree is grown anew by the deeds, with the warnings and the failure, if any. -/
inductive Regeneration (tree : Tree H R J) (start iterations : Option Value) :
    List (Deed H R) → Tree H R J → List Event → Option Failure → Prop
  | refused {failure : Failure}
    (invalid : (tree.settings.overridden start iterations).validate = .error failure) :
    Regeneration tree start iterations [] tree [] (some failure)
  | stuck {growth : Growth}
    (valid : (tree.settings.overridden start iterations).validate = .ok growth)
    {deeds : List (Deed H R)} {left : List H} {failure : Failure}
    (clearing : Clearing tree.branches deeds left (some failure)) :
    Regeneration tree start iterations deeds (tree.forget.keep left) [] (some failure)
  | complete {growth : Growth}
    (valid : (tree.settings.overridden start iterations).validate = .ok growth)
    {cleared grown : List (Deed H R)} {regrown : Tree H R J}
    (clearing : Clearing tree.branches cleared [] none)
    (growing : Growing (tree.forget.keep []) growth grown regrown none) :
    Regeneration tree start iterations (cleared ++ grown) regrown [] none
  | interrupted {growth : Growth}
    (valid : (tree.settings.overridden start iterations).validate = .ok growth)
    {cleared grown : List (Deed H R)} {regrown : Tree H R J} {failure : Failure}
    (clearing : Clearing tree.branches cleared [] none)
    (growing : Growing (tree.forget.keep []) growth grown regrown (some failure))
    (unrecoverable : failure.recoverable = false) :
    Regeneration tree start iterations (cleared ++ grown) regrown [] (some failure)
  | abandoned {growth : Growth}
    (valid : (tree.settings.overridden start iterations).validate = .ok growth)
    {cleared grown back : List (Deed H R)} {regrown : Tree H R J} {failure : Failure}
    {losses : List Failure} {interruption : Option Failure}
    (clearing : Clearing tree.branches cleared [] none)
    (growing : Growing (tree.forget.keep []) growth grown regrown (some failure))
    (recoverable : failure.recoverable = true)
    (taking : TakingBack regrown.branches back losses interruption) :
    Regeneration tree start iterations (cleared ++ grown ++ back) (regrown.keep []).forget
      (takingBackWarnings regrown.branches.length losses interruption)
      (some (passedOn failure regrown.branches.length losses interruption))

end

/-- What has been cleared away without a failure is gone. -/
theorem Clearing.left_of_none {handles left : List H} {deeds : List (Deed H R)}
    (clearing : Clearing handles deeds left none) : left = [] := by
  generalize succeeded : none = failure at clearing
  induction clearing with
  | done => rfl
  | stuck => cases succeeded
  | next _ _ inductionHypothesis => exact inductionHypothesis succeeded

/-! ## What is reported -/

theorem passEvents_warn_not (growth : Growth) : growth.passEvents.filter Event.warns = [] := by
  refine List.filter_eq_nil_iff.mpr fun event member => ?_
  rcases List.mem_mapIdx.mp member with ⟨place, inside, same⟩
  subst same
  exact Bool.false_ne_true

theorem walkEvents_warn_not (turtle : Turtle Float32 Float J) (symbols : Nat) :
    (turtle.walkEvents symbols).filter Event.warns = [] := by
  unfold Turtle.walkEvents Turtle.endEvents
  split <;> rfl

theorem takingBackEvents_warnings (total : Nat) (losses : List Failure)
    (interruption : Option Failure) :
    (takingBackEvents total losses interruption).filter Event.warns =
      takingBackWarnings total losses interruption := by
  cases interruption with
  | some _ => rfl
  | none => cases losses <;> rfl

namespace Plot

variable [AngleSource J Float]

/-! ## Growing -/

theorem grow_eq (scene : Scene σ H R) (growth : Growth) (before : σ) (log : Log)
    (tree : Tree H R J) :
    grow scene growth ⟨before, log, tree⟩ =
      (growPoints >>= fun _ => growBranches >>= fun _ => get >>= fun plot =>
        createBranches scene plot.tree.descriptors)
        ⟨before, log ++ growth.passEvents, tree.sow growth⟩ := rfl

theorem growPoints_of_error (tree : Tree H R J) {failure : Failure} {jitter : J}
    (walk : (interpret tree.expanded : Act J (Turtle Float32 Float J)) tree.jitter =
      .error failure jitter) (before : σ) (log : Log) :
    growPoints ⟨before, log, tree⟩ =
      .error failure ⟨before, log, { tree with jitter := jitter }⟩ := by
  have drawn : onJitter (interpret (C := Float32) (W := Float) tree.expanded)
      (⟨before, log, tree⟩ : Plot σ H R J) =
      .error failure ⟨before, log, { tree with jitter := jitter }⟩ := by
    simp only [onJitter, Act.within, walk]
  exact (Act.bind_get _ _).trans (Act.bind_of_error drawn)

theorem growPoints_of_ok (tree : Tree H R J) {turtle : Turtle Float32 Float J} {jitter : J}
    (walk : interpret tree.expanded tree.jitter = .ok turtle jitter) (before : σ) (log : Log) :
    growPoints ⟨before, log, tree⟩ =
      .ok () ⟨before, log ++ turtle.walkEvents tree.expanded.length,
        { tree with points := turtle.points, jitter := jitter }⟩ := by
  have drawn : onJitter (interpret (C := Float32) (W := Float) tree.expanded)
      (⟨before, log, tree⟩ : Plot σ H R J) =
      .ok turtle ⟨before, log, { tree with jitter := jitter }⟩ := by
    simp only [onJitter, Act.within, walk]
  exact (Act.bind_get _ _).trans (Act.bind_of_ok drawn)

omit [AngleSource J Float] in
theorem growBranches_of_ok (tree : Tree H R J) {branches : List (Branch Float32 Float)}
    (built : Branch.ofPoints tree.points Branch.standardRadius = .ok branches) (before : σ)
    (log : Log) :
    growBranches ⟨before, log, tree⟩ =
      .ok () ⟨before, log ++ Branch.builtEvents branches.length tree.points.size,
        { tree with descriptors := branches }⟩ := by
  have lifted : (Act.lift (Branch.ofPoints tree.points Branch.standardRadius) :
      Act (Plot σ H R J) _) ⟨before, log, tree⟩ = .ok branches ⟨before, log, tree⟩ := by
    rw [built]
    rfl
  exact (Act.bind_get _ _).trans (Act.bind_of_ok lifted)

/-- When the word can be walked, there are branches for its points, and what is left is to make
their objects.  Nothing is warned of until then. -/
theorem grow_of_walk (scene : Scene σ H R) {growth : Growth} {tree : Tree H R J}
    {turtle : Turtle Float32 Float J} {jitter : J}
    (walk : interpret growth.word tree.jitter = .ok turtle jitter) :
    ∃ (branches : List (Branch Float32 Float)) (events : List Event),
      Branch.ofPoints turtle.points Branch.standardRadius = .ok branches ∧
      branches.length = (Branch.pairs turtle.points.size).length ∧
      (∀ branch ∈ branches, branch.Spatial) ∧ events.filter Event.warns = [] ∧
      ∀ before log, grow scene growth ⟨before, log, tree⟩ =
        createBranches scene branches
          ⟨before, log ++ events, (tree.sow growth).shape turtle.points branches jitter⟩ := by
  rcases Branch.ofPoints_spatial (interpret_spatial walk).points Branch.standardRadius with
      ⟨branches, among, size, spatial⟩
  refine ⟨branches, growth.passEvents ++ turtle.walkEvents growth.word.length ++
    Branch.builtEvents branches.length turtle.points.size, among, size, spatial, ?_,
    fun before log => ?_⟩
  · rw [List.filter_append, List.filter_append, passEvents_warn_not, walkEvents_warn_not]
    rfl
  · have walked := growPoints_of_ok (tree.sow growth) walk before
      (log ++ growth.passEvents)
    have built := growBranches_of_ok { tree.sow growth with
      points := turtle.points, jitter := jitter } among before
      (log ++ growth.passEvents ++ turtle.walkEvents growth.word.length)
    rw [Log.append_append, Log.append_append]
    exact (Act.bind_of_ok walked).trans (Act.bind_of_ok built)

/-- A tree is grown as `Growing` describes it, and nothing is warned of on the way. -/
theorem grow_growing (scene : Scene σ H R) (growth : Growth) (before : σ)
    (noted : List (Deed H R)) (log : Log) (tree : Tree H R J) :
    ∃ (deeds : List (Deed H R)) (regrown : Tree H R J) (failure : Option Failure)
      (events : List Event) (after : σ), Growing tree growth deeds regrown failure ∧
      scene.Performs before deeds after ∧ events.filter Event.warns = [] ∧
      grow (scene.watched .clearing) growth ⟨(before, noted), log, tree⟩ =
        Act.ended failure ⟨(after, noted ++ deeds), log ++ events, regrown⟩ := by
  cases walk : (interpret growth.word : Act J (Turtle Float32 Float J)) tree.jitter with
  | error failure jitter =>
    refine ⟨[], _, some failure, growth.passEvents, before, .lost walk, rfl,
      passEvents_warn_not growth, ?_⟩
    rw [List.append_nil]
    exact (grow_eq ..).trans
      (Act.bind_of_error (growPoints_of_error (tree.sow growth) walk _ _))
  | ok turtle jitter =>
    rcases grow_of_walk (scene.watched .clearing) walk with
        ⟨branches, events, among, -, spatial, quiet, grows⟩
    rcases createBranches_making scene
        .clearing branches before noted (log ++ events)
        ((tree.sow growth).shape turtle.points branches jitter) with
        ⟨deeds, handles, failure, after, making, performs, run⟩
    exact ⟨deeds, _, failure, events, after, .built walk among spatial making, performs, quiet,
      (grows _ log).trans run⟩

/-- What growing comes to when nobody notes the deeds. -/
theorem grow_ended (scene : Scene σ H R) (growth : Growth) (plot : Plot σ H R J) :
    ∃ (deeds : List (Deed H R)) (regrown : Tree H R J) (failure : Option Failure)
      (events : List Event) (after : σ), Growing plot.tree growth deeds regrown failure ∧
      scene.Performs plot.scene deeds after ∧
      grow scene growth plot = Act.ended failure ⟨after, plot.log ++ events, regrown⟩ := by
  rcases grow_growing scene growth plot.scene [] plot.log plot.tree with
      ⟨deeds, regrown, failure, events, after, growing, performs, -, run⟩
  exact ⟨deeds, regrown, failure, events, after, growing, performs,
    run_of_watched (grow_mirrors (scene.watched_mirrors .clearing) growth) run⟩

/-! ## Growing anew -/

/-- What is asked for is checked before anything is touched. -/
theorem regenerateBetween_of_invalid (scene taker : Scene σ H R) {start iterations : Option Value}
    (plot : Plot σ H R J) {failure : Failure}
    (invalid : (plot.tree.settings.overridden start iterations).validate = .error failure) :
    regenerateBetween scene taker start iterations plot = .error failure plot := by
  have checked : (Act.lift (plot.tree.request start iterations) :
      Act (Plot σ H R J) Growth) plot = .error failure plot := by
    rw [Tree.request_eq, invalid]
    rfl
  exact (Act.bind_get _ _).trans (Act.bind_of_error checked)

/-- What is asked for being valid, the old objects are cleared away, and the new tree is grown or
taken back. -/
theorem regenerateBetween_of_cleared (scene taker : Scene σ H R) {start iterations : Option Value}
    (plot : Plot σ H R J) {cleared : Plot σ H R J} {growth : Growth}
    (valid : (plot.tree.settings.overridden start iterations).validate = .ok growth)
    (clears : clear scene plot = .ok () cleared) :
    regenerateBetween scene taker start iterations plot =
      (orTakenBack taker (grow scene growth) >>= fun _ => get >>= fun plot =>
        onLog (report [grownEvent plot.tree])) cleared := by
  have checked : (Act.lift (plot.tree.request start iterations) :
      Act (Plot σ H R J) Growth) plot = .ok growth plot := by
    rw [Tree.request_eq, valid]
    rfl
  exact (Act.bind_get _ _).trans ((Act.bind_of_ok checked).trans (Act.bind_of_ok clears))

/-- When the old objects cannot be cleared away, the new tree is not begun. -/
theorem regenerateBetween_of_stuck (scene taker : Scene σ H R) {start iterations : Option Value}
    (plot : Plot σ H R J) {stuck : Plot σ H R J} {growth : Growth} {failure : Failure}
    (valid : (plot.tree.settings.overridden start iterations).validate = .ok growth)
    (sticks : clear scene plot = .error failure stuck) :
    regenerateBetween scene taker start iterations plot = .error failure stuck := by
  have checked : (Act.lift (plot.tree.request start iterations) :
      Act (Plot σ H R J) Growth) plot = .ok growth plot := by
    rw [Tree.request_eq, valid]
    rfl
  exact (Act.bind_get _ _).trans ((Act.bind_of_ok checked).trans (Act.bind_of_error sticks))

/-- A tree is grown anew as `Regeneration` describes it.  What is reported beyond the warnings is
left open. -/
theorem regenerateWatched_regeneration (scene : Scene σ H R) (start iterations : Option Value)
    (before : σ) (noted : List (Deed H R)) (log : Log) (tree : Tree H R J) :
    ∃ (deeds : List (Deed H R)) (regrown : Tree H R J) (failure : Option Failure)
      (events : List Event) (after : σ),
      Regeneration tree start iterations deeds regrown (events.filter Event.warns) failure ∧
      scene.Performs before deeds after ∧
      regenerateWatched scene start iterations ⟨(before, noted), log, tree⟩ =
        Act.ended failure ⟨(after, noted ++ deeds), log ++ events, regrown⟩ := by
  cases checked : (tree.settings.overridden start iterations).validate with
  | error failure =>
    refine ⟨[], tree, some failure, [], before, .refused checked, rfl, ?_⟩
    rw [List.append_nil]
    exact regenerateBetween_of_invalid _ _ ⟨_, _, tree⟩ checked
  | ok growth =>
    rcases clear_clearing scene before noted log tree with
        ⟨cleared, left, stuck, between, clearing, performs, clearRun⟩
    cases stuck with
    | some failure =>
      exact ⟨cleared, _, some failure, [], between, .stuck checked clearing, performs,
        regenerateBetween_of_stuck _ _ ⟨_, _, tree⟩ checked clearRun⟩
    | none =>
      cases clearing.left_of_none
      have onward := regenerateBetween_of_cleared _ (scene.watched .takingBack) ⟨_, _, tree⟩
        checked clearRun
      rcases grow_growing scene growth between (noted ++ cleared) log (tree.forget.keep []) with
          ⟨grown, regrown, failed, events, middle, growing, grew, quiet, growRun⟩
      have performed := performs.append grew
      rw [List.append_assoc] at growRun
      cases failed with
      | none =>
        refine ⟨cleared ++ grown, regrown, none, events ++ [grownEvent regrown], middle, ?_,
          performed, ?_⟩
        · have still : (events ++ [grownEvent regrown]).filter Event.warns = [] := by
            rw [List.filter_append, quiet]
            rfl
          rw [still]
          exact .complete checked clearing growing
        · rw [Log.append_append]
          exact onward.trans (Act.bind_of_ok (orTakenBack_of_ok _ growRun))
      | some failure =>
        cases recoverable : failure.recoverable with
        | false =>
          refine ⟨cleared ++ grown, regrown, some failure, events, middle, ?_, performed,
            onward.trans (Act.bind_of_error (orTakenBack_of_interruption _ growRun recoverable))⟩
          rw [quiet]
          exact .interrupted checked clearing growing recoverable
        | true =>
          rcases orTakenBack_takingBack scene growRun recoverable with
              ⟨back, losses, interruption, after, taking, took, backRun⟩
          refine ⟨cleared ++ grown ++ back, (regrown.keep []).forget,
            some (passedOn failure regrown.branches.length losses interruption),
            events ++ takingBackEvents regrown.branches.length losses interruption, after, ?_,
            performed.append took, ?_⟩
          · rw [List.filter_append, quiet, takingBackEvents_warnings]
            exact .abandoned checked clearing growing recoverable taking
          · rw [Log.append_append, ← List.append_assoc]
            exact onward.trans (Act.bind_of_error backRun)

/-- What growing a tree anew comes to, with the deeds that are noted of it. -/
theorem regenerate_course (scene : Scene σ H R) (start iterations : Option Value)
    (plot : Plot σ H R J) :
    ∃ (events : List Event) (failure : Option Failure) (final : Plot σ H R J),
      Regeneration plot.tree start iterations
        (deedsOf (regenerateWatched scene start iterations) plot) final.tree
        (events.filter Event.warns) failure ∧
      scene.Performs plot.scene (deedsOf (regenerateWatched scene start iterations) plot)
        final.scene ∧
      final.log = plot.log ++ events ∧
      regenerate scene start iterations plot = Act.ended failure final := by
  rcases regenerateWatched_regeneration scene start iterations plot.scene [] plot.log plot.tree with
      ⟨deeds, regrown, failure, events, after, regeneration, performs, run⟩
  rw [deedsOf_of_run run]
  exact ⟨events, failure, ⟨after, plot.log ++ events, regrown⟩, regeneration, performs, rfl,
    run_of_watched (regenerateWatched_mirrors scene start iterations) run⟩

omit [AngleSource J Float]

/-! ## A single segment -/

/-- The growth of a single segment. -/
def segment : Growth := ⟨['F'], 0, Nat.zero_le _⟩

/-- A new tree with the usual settings, which does not sway. -/
def seedling : Tree H R Jitter where
  jitter := .constant (.real 0)

theorem seedling_valid :
    ((seedling : Tree H R Jitter).settings.overridden none none).validate = .ok segment := rfl

theorem seedling_clears (scene : Scene σ H R) (before : σ) (log : Log) :
    clear scene ⟨before, log, (seedling : Tree H R Jitter)⟩ = .ok () ⟨before, log, seedling⟩ := rfl

/-- Growing a seedling comes down to making the object of one branch. -/
theorem grow_seedling (scene : Scene σ H R) :
    ∃ (branch : Branch Float32 Float) (points : Array (Pose Float32 Float)) (events : List Event)
      (turns : Space.Turns Float32), branch.turns = .ok turns ∧
      ∀ before log, grow scene segment ⟨before, log, (seedling : Tree H R Jitter)⟩ =
        createBranches scene [branch] ⟨before, log ++ events,
          (seedling.sow segment).shape points [branch] (.constant (.real 0))⟩ := by
  obtain ⟨turtle, walk, size⟩ : ∃ turtle : Turtle Float32 Float Jitter,
      interpret segment.word (seedling : Tree H R Jitter).jitter =
        .ok turtle (.constant (.real 0)) ∧ turtle.points.size = 2 := ⟨_, rfl, rfl⟩
  rcases grow_of_walk scene walk with ⟨branches, events, -, one, spatial, -, grows⟩
  rw [size] at one
  rcases List.length_eq_one_iff.mp one with ⟨branch, same⟩
  subst same
  rcases Branch.turns_spatial (spatial branch (List.mem_singleton_self _)) with ⟨turns, heading⟩
  exact ⟨branch, _, events, turns, heading, grows⟩

/-- A scene that makes objects, but refuses to place them and to remove them. -/
def stubborn : Scene Nat Nat Value where
  instantiate _ _ := fun made => .ok made (made + 1)
  setTransform _ _ _ _ := throw ⟨.foreign .runtime "too tall", [], []⟩
  reparent _ _ := pure ()
  destroy _ := throw ⟨.foreign .runtime "stuck", [], []⟩

/-- A seedling in a scene that will not have it. -/
def unwanted : Plot Nat Nat Value Jitter where
  scene := 0
  tree := seedling

/-- The only object is made and neither placed nor removed. -/
theorem unwanted_deeds :
    ∃ position turns scale,
      deedsOf (regenerateWatched stubborn none none) unwanted =
        [.instantiate none none (.ok 0),
          .setTransform 0 position turns scale (.error ⟨.foreign .runtime "too tall", [], []⟩),
          .destroy .takingBack 0 (.error ⟨.foreign .runtime "stuck", [], []⟩)] := by
  rcases grow_seedling (stubborn.watched .clearing) with
      ⟨branch, points, events, turns, heading, grows⟩
  have run := grows (0, []) #[]
  unfold createBranches createBranch at run
  rw [heading] at run
  have cleared := regenerateBetween_of_cleared (stubborn.watched .clearing)
    (stubborn.watched .takingBack) unwanted.watching seedling_valid (seedling_clears _ _ _)
  have back := orTakenBack_of_error (stubborn.watched .takingBack) run rfl
  have whole := cleared.trans (Act.bind_of_error (back.trans rfl))
  refine ⟨branch.position, turns, branch.scale, ?_⟩
  unfold deedsOf regenerateWatched Act.reached
  rw [whole]
  rfl

end Plot
end Arbor
