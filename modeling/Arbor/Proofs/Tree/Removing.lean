import Arbor.Proofs.Tree.Watching

/-!
# How the objects of a tree are removed

A tree removes its objects in two ways.  Clearing stops at the first object that the scene does not
remove, and that object and all after it stay registered.  Taking back tries every object and
registers none of them any longer, whatever the scene answers; only an interruption stops it.

Each way is described once, as a relation between the objects to be removed, the deeds, and what is
left to say afterwards.  The runs are shown to follow these descriptions, and everything else about
removals is proved of the descriptions.
-/

namespace Arbor

variable {σ H R J : Type}

/-! ## Failures of a scene as they reach the caller -/

namespace Failure

variable {failure : Failure} {action : SceneAction}

theorem kind_ofSceneCall (recoverable : failure.recoverable = true) :
    (failure.ofSceneCall action).kind = .scene := by
  unfold ofSceneCall
  split
  · rename_i passed
    exact passed.resolve_right (by rw [recoverable]; decide)
  · rfl

/-- A call on a scene passes an interruption on as it is. -/
theorem ofSceneCall_of_interruption (interrupted : failure.recoverable = false) :
    failure.ofSceneCall action = failure :=
  if_pos (Or.inr interrupted)

theorem kind_of_interruption (interrupted : failure.recoverable = false) :
    failure.kind = .interruption := by
  have unrecoverable : (failure.kind != .interruption) = false := interrupted
  simpa using unrecoverable

end Failure

/-! ## Clearing -/

/-- The registered objects are cleared away by the deeds.  What stays registered is left, and the
failure is that of the first object that could not be removed. -/
inductive Clearing : List H → List (Deed H R) → List H → Option Failure → Prop
  | done : Clearing [] [] [] none
  | stuck (handle : H) (handles : List H) (failure : Failure) :
    Clearing (handle :: handles) [.destroy .clearing handle (.error failure)] (handle :: handles)
      (some (failure.ofSceneCall .destroy))
  | next (handle : H) {handles left : List H} {deeds : List (Deed H R)} {failure : Option Failure}
    (later : Clearing handles deeds left failure) :
    Clearing (handle :: handles) (.destroy .clearing handle (.ok ()) :: deeds) left failure

/-- What is cleared away, and where it ends, is settled by the scene. -/
theorem Clearing.settled {scene : Scene σ H R} {handles left rest : List H}
    {first second : List (Deed H R)} {start stop last : σ} {failure loss : Option Failure}
    (one : Clearing handles first left failure) (performs : scene.Performs start first stop)
    (two : Clearing handles second rest loss) (again : scene.Performs start second last) :
    first = second ∧ failure = loss := by
  induction one generalizing start second with
  | done =>
    cases two
    exact ⟨rfl, rfl⟩
  | stuck handle handles failure =>
    rcases performs with ⟨between, happens, -⟩
    cases two with
    | stuck _ _ other =>
      rcases again with ⟨middle, happensAgain, -⟩
      cases (Act.outcome_of_settled happens).symm.trans (Act.outcome_of_settled happensAgain)
      exact ⟨rfl, rfl⟩
    | next =>
      rcases again with ⟨middle, happensAgain, -⟩
      cases (Act.outcome_of_settled happens).symm.trans (Act.outcome_of_settled happensAgain)
  | next handle later inductionHypothesis =>
    rcases performs with ⟨between, happens, followed⟩
    cases two with
    | stuck _ _ other =>
      rcases again with ⟨middle, happensAgain, -⟩
      cases (Act.outcome_of_settled happens).symm.trans (Act.outcome_of_settled happensAgain)
    | next _ others =>
      rcases again with ⟨middle, happensAgain, followedAgain⟩
      cases (Act.reached_of_settled happens).symm.trans (Act.reached_of_settled happensAgain)
      rcases inductionHypothesis followed others followedAgain with ⟨same, ending⟩
      exact ⟨congrArg _ same, ending⟩

namespace Plot

theorem removeAll_clearing (scene : Scene σ H R) (handles : List H) (before : σ)
    (noted : List (Deed H R)) (log : Log) (tree : Tree H R J)
    (registered : tree.branches = handles) :
    ∃ deeds left failure after, Clearing handles deeds left failure ∧
      scene.Performs before deeds after ∧
      removeAll (scene.watched .clearing) handles ⟨(before, noted), log, tree⟩ =
        Act.ended failure ⟨(after, noted ++ deeds), log, tree.keep left⟩ := by
  induction handles generalizing before noted tree with
  | nil =>
    have same : tree.keep [] = tree := registered ▸ rfl
    refine ⟨[], [], none, before, .done, rfl, ?_⟩
    rw [List.append_nil, same]
    rfl
  | cons handle handles inductionHypothesis =>
    cases run : scene.destroy handle before with
    | ok value between =>
      have happens : (Deed.destroy .clearing handle (.ok ()) : Deed H R).Happens scene before
          between := run
      have first := removeAll_of_ok (Scene.watched_destroy happens noted) handles log tree
      rcases inductionHypothesis between (noted ++ [.destroy .clearing handle (.ok ())])
          (tree.keep handles) rfl with ⟨deeds, left, failure, after, clearing, performs, later⟩
      refine ⟨_, left, failure, after, .next handle clearing, ⟨between, happens, performs⟩, ?_⟩
      rw [first, later, List.append_assoc]
      rfl
    | error failure between =>
      have happens : (Deed.destroy .clearing handle (.error failure) : Deed H R).Happens scene
          before between := run
      have first := removeAll_of_error (Scene.watched_destroy happens noted) handles log tree
      have same : tree.keep (handle :: handles) = tree := registered ▸ rfl
      refine ⟨_, _, _, between, .stuck handle handles failure, .single happens, ?_⟩
      rw [first, same]
      rfl

/-- Clearing a tree forgets what it was grown from and clears its objects away. -/
theorem clear_clearing (scene : Scene σ H R) (before : σ) (noted : List (Deed H R)) (log : Log)
    (tree : Tree H R J) :
    ∃ deeds left failure after, Clearing tree.branches deeds left failure ∧
      scene.Performs before deeds after ∧
      clear (scene.watched .clearing) ⟨(before, noted), log, tree⟩ =
        Act.ended failure ⟨(after, noted ++ deeds), log, tree.forget.keep left⟩ :=
  removeAll_clearing scene tree.branches before noted log tree.forget rfl

/-- What clearing comes to, with the deeds that are noted of it. -/
theorem clear_course (scene : Scene σ H R) (plot : Plot σ H R J) :
    ∃ left failure after,
      Clearing plot.tree.branches (deedsOf (clear (scene.watched .clearing)) plot) left failure ∧
      scene.Performs plot.scene (deedsOf (clear (scene.watched .clearing)) plot) after ∧
      clear scene plot = Act.ended failure ⟨after, plot.log, plot.tree.forget.keep left⟩ := by
  rcases clear_clearing scene plot.scene [] plot.log plot.tree with
      ⟨deeds, left, failure, after, clearing, performs, run⟩
  rw [deedsOf_of_run run]
  exact ⟨left, failure, after, clearing, performs,
    run_of_watched (clear_mirrors (scene.watched_mirrors .clearing)) run⟩

/-- What clearing comes to when nobody notes the deeds. -/
theorem clear_ended (scene : Scene σ H R) (plot : Plot σ H R J) :
    ∃ deeds left failure after, Clearing plot.tree.branches deeds left failure ∧
      scene.Performs plot.scene deeds after ∧
      clear scene plot = Act.ended failure ⟨after, plot.log, plot.tree.forget.keep left⟩ :=
  ⟨_, clear_course scene plot⟩

end Plot

/-! ## Taking back -/

/-- The objects are taken back by the deeds.  The losses are why single objects could not be
removed; an interruption ends the deeds. -/
inductive TakingBack :
    List H → List (Deed H R) → List Failure → Option Failure → Prop
  | done : TakingBack [] [] [] none
  | interrupted (handle : H) (handles : List H) {failure : Failure}
    (unrecoverable : failure.recoverable = false) :
    TakingBack (handle :: handles) [.destroy .takingBack handle (.error failure)] []
      (some failure)
  | removed (handle : H) {handles : List H} {deeds : List (Deed H R)} {losses : List Failure}
    {interruption : Option Failure} (later : TakingBack handles deeds losses interruption) :
    TakingBack (handle :: handles) (.destroy .takingBack handle (.ok ()) :: deeds) losses
      interruption
  | lost (handle : H) {handles : List H} {deeds : List (Deed H R)} {losses : List Failure}
    {failure : Failure} {interruption : Option Failure}
    (recoverable : failure.recoverable = true)
    (later : TakingBack handles deeds losses interruption) :
    TakingBack (handle :: handles) (.destroy .takingBack handle (.error failure) :: deeds)
      (failure :: losses) interruption

/-- Only an interruption ends the taking back before its time. -/
theorem TakingBack.unrecoverable {handles : List H} {deeds : List (Deed H R)}
    {losses : List Failure} {interruption : Failure}
    (back : TakingBack handles deeds losses (some interruption)) :
    interruption.recoverable = false := by
  generalize ended : some interruption = failure at back
  induction back with
  | done => cases ended
  | interrupted _ _ unrecoverable =>
    cases ended
    exact unrecoverable
  | removed _ _ inductionHypothesis => exact inductionHypothesis ended
  | lost _ _ _ inductionHypothesis => exact inductionHypothesis ended

/-- Count the objects that were lost for the given failures of the scene. -/
def Losses.addAll (losses : Losses) (failures : List Failure) : Losses :=
  failures.foldl (fun losses failure => losses.add (failure.ofSceneCall .destroy)) losses

theorem Losses.addAll_eq (losses : Losses) (failures : List Failure) :
    losses.addAll failures =
      ⟨losses.failed + failures.length,
        losses.first.or (failures.head?.map fun failure => failure.ofSceneCall .destroy)⟩ := by
  induction failures generalizing losses with
  | nil => simp only [addAll, List.foldl_nil, List.length_nil, List.head?_nil, Option.map_none,
      Option.or_none, Nat.add_zero]
  | cons failure failures inductionHypothesis =>
    have later := inductionHypothesis (losses.add (failure.ofSceneCall .destroy))
    change (losses.add (failure.ofSceneCall .destroy)).addAll failures = _
    rw [later]
    cases known : losses.first <;>
      simp only [add, known, Option.getD_none, Option.getD_some, Option.some_or, Option.none_or,
        List.head?_cons, Option.map_some, List.length_cons, Nat.add_assoc, Nat.add_comm 1]

/-- Why so many objects could not all be taken back, if they could not. -/
def shortfall (total : Nat) (losses : List Failure) : Option Failure :=
  losses.head?.map fun first =>
    (first.ofSceneCall .destroy).raisedFrom (.leftBehind losses.length total)

/-- The failure to pass on after so many objects have been taken back for the given one. -/
def passedOn (failure : Failure) (total : Nat) (losses : List Failure) :
    Option Failure → Failure
  | some interruption => interruption.during failure
  | none => (shortfall total losses).elim failure failure.during

/-- What is warned of when so many objects are taken back. -/
def takingBackWarnings (total : Nat) (losses : List Failure) : Option Failure → List Event
  | some _ => []
  | none => ((shortfall total losses).map fun loss => Event.leftInScene loss.reason).toList

/-- What is reported when so many objects are taken back. -/
def takingBackEvents (total : Nat) (losses : List Failure) (interruption : Option Failure) :
    List Event :=
  .abandoned total :: takingBackWarnings total losses interruption

namespace Plot

theorem removeEach_takingBack (scene : Scene σ H R) (handles : List H) (before : σ)
    (noted : List (Deed H R)) (log : Log) (tree : Tree H R J) (known : Losses) :
    ∃ deeds losses interruption after, TakingBack handles deeds losses interruption ∧
      scene.Performs before deeds after ∧
      removeEach (scene.watched .takingBack) handles known ⟨(before, noted), log, tree⟩ =
        Act.settled (interruption.elim (.ok (known.addAll losses)) .error)
          ⟨(after, noted ++ deeds), log, tree⟩ := by
  induction handles generalizing before noted known with
  | nil =>
    refine ⟨[], [], none, before, .done, rfl, ?_⟩
    rw [List.append_nil]
    rfl
  | cons handle handles inductionHypothesis =>
    cases run : scene.destroy handle before with
    | ok value between =>
      have happens : (Deed.destroy .takingBack handle (.ok ()) : Deed H R).Happens scene before
          between := run
      have first := removeEach_of_ok (Scene.watched_destroy happens noted) handles known log tree
      obtain ⟨deeds, losses, interruption, after, back, performs, later⟩ :=
        inductionHypothesis between (noted ++ [.destroy .takingBack handle (.ok ())]) known
      refine ⟨_, losses, interruption, after, .removed handle back, ⟨between, happens, performs⟩,
        ?_⟩
      rw [first, later, List.append_assoc]
      rfl
    | error failure between =>
      have happens : (Deed.destroy .takingBack handle (.error failure) : Deed H R).Happens scene
          before between := run
      have first := removeEach_of_error (Scene.watched_destroy happens noted) handles known log tree
      cases recoverable : failure.recoverable with
      | true =>
        rcases inductionHypothesis between (noted ++ [.destroy .takingBack handle (.error failure)])
            (known.add (failure.ofSceneCall .destroy)) with
            ⟨deeds, losses, interruption, after, back, performs, later⟩
        refine ⟨_, _, interruption, after, .lost handle recoverable back,
          ⟨between, happens, performs⟩, ?_⟩
        rw [first, if_pos (Failure.kind_ofSceneCall recoverable), later, List.append_assoc]
        rfl
      | false =>
        refine ⟨_, [], some failure, between, .interrupted handle handles recoverable,
          .single happens, ?_⟩
        rw [first, Failure.ofSceneCall_of_interruption recoverable,
          Failure.kind_of_interruption recoverable, if_neg (by decide)]
        rfl

/-- Taking a tree back forgets what it was grown from, registers nothing, and takes its objects
back. -/
theorem takeBack_takingBack (scene : Scene σ H R) (before : σ) (noted : List (Deed H R))
    (log : Log) (tree : Tree H R J) :
    ∃ deeds losses interruption after, TakingBack tree.branches deeds losses interruption ∧
      scene.Performs before deeds after ∧
      takeBack (scene.watched .takingBack) ⟨(before, noted), log, tree⟩ =
        Act.ended (interruption.or (shortfall tree.branches.length losses))
          ⟨(after, noted ++ deeds), log, (tree.keep []).forget⟩ := by
  rcases removeEach_takingBack scene tree.branches before noted log (tree.keep []).forget {} with
      ⟨deeds, losses, interruption, after, back, performs, run⟩
  refine ⟨deeds, losses, interruption, after, back, performs, ?_⟩
  change (removeEach (scene.watched .takingBack) tree.branches {} >>= _)
    ⟨(before, noted), log, (tree.keep []).forget⟩ = _
  cases interruption with
  | some failure => exact Act.bind_of_error run
  | none =>
    refine (Act.bind_of_ok run).trans ?_
    rw [Losses.addAll_eq]
    cases losses with
    | nil => rfl
    | cons first losses =>
      simp only [shortfall, List.head?_cons, Option.map_some, Option.none_or, Nat.zero_add]
      rfl

/-- An action that fails and may be dealt with is taken back, and the failure is passed on. -/
theorem orTakenBack_takingBack (scene : Scene σ H R)
    {act : Act (Plot (σ × List (Deed H R)) H R J) Unit}
    {plot : Plot (σ × List (Deed H R)) H R J} {failure : Failure} {before : σ}
    {noted : List (Deed H R)} {log : Log} {tree : Tree H R J}
    (failed : act plot = .error failure ⟨(before, noted), log, tree⟩)
    (recoverable : failure.recoverable = true) :
    ∃ deeds losses interruption after, TakingBack tree.branches deeds losses interruption ∧
      scene.Performs before deeds after ∧
      orTakenBack (scene.watched .takingBack) act plot =
        .error (passedOn failure tree.branches.length losses interruption)
          ⟨(after, noted ++ deeds),
            log ++ takingBackEvents tree.branches.length losses interruption,
            (tree.keep []).forget⟩ := by
  obtain ⟨deeds, losses, interruption, after, back, performs, run⟩ :=
    takeBack_takingBack scene before noted (log ++ [Event.abandoned tree.branches.length]) tree
  refine ⟨deeds, losses, interruption, after, back, performs, ?_⟩
  refine (orTakenBack_of_error _ failed recoverable).trans ?_
  cases interruption with
  | some interruption =>
    have interrupted := back.unrecoverable
    have notScene : interruption.kind ≠ .scene := by
      rw [Failure.kind_of_interruption interrupted]
      decide
    exact Act.bind_of_error ((recover_of_error run failure).trans (if_neg notScene))
  | none =>
    cases losses with
    | nil =>
      exact Act.bind_of_ok (recover_of_ok run failure)
    | cons first losses =>
      have recovered := (recover_of_error run failure).trans (if_pos rfl)
      refine (Act.bind_of_ok recovered).trans ?_
      rw [← Log.append_append]
      rfl

end Plot
end Arbor
