import Arbor.Proofs.Scene.Hindrance
import Arbor.Proofs.Tree.Accounting

/-!
# Abandoned trees

A tree that fails while it grows is abandoned: it remembers nothing of what it was grown from,
registers nothing, and every object that it had made is attempted to be removed, once and in the
order in which the objects were made, whether or not the earlier ones could be removed.  What is
left in the scene is then what was there before, without the old objects of the tree, and with the
objects that the scene refused to remove.

None of this holds of an interruption.  A tree that is interrupted while it grows is left as it is.
-/

namespace Arbor

variable {σ H R J : Type}

/-- A tree that remembers nothing of what it was grown from and registers nothing. -/
structure Tree.Bare (tree : Tree H R J) : Prop where
  rules : tree.rules = none
  expanded : tree.expanded = []
  points : tree.points = #[]
  descriptors : tree.descriptors = []
  branches : tree.branches = []

/-! ## Live objects -/

section

variable [AngleSource J Float] {handles : List H} {tree regrown : Tree H R J} {growth : Growth}
  {first grown back : List (Deed H R)} {failure : Option Failure} {live after : Set H}

/-- When the old objects have been cleared away and a tree has grown, the live objects are the
others from before and those that were made, and these are apart. -/
theorem live_after_growth (clearing : Clearing handles first [] none)
    (growing : Growing tree growth grown regrown failure)
    (accounts : Accounts live (first ++ grown) after) :
    (made grown).Nodup ∧
      (∀ handle, handle ∈ after ↔ (handle ∈ live ∧ handle ∉ handles) ∨ handle ∈ made grown) ∧
      ∀ handle ∈ made grown, ¬ (handle ∈ live ∧ handle ∉ handles) := by
  have gone : destroyed first = handles := by
    rw [← clearing.destroyed_append_left, List.append_nil]
  rcases accounts.split with ⟨emptied, cleared, grew⟩
  have emptiedIff := cleared.of_made_nil clearing.made_nil
  rw [gone] at emptiedIff
  rcases grew.of_destroyed_nil (destroyed_of_attempted_nil growing.attempted_nil) with
      ⟨grownIff, nodup, fresh⟩
  refine ⟨nodup, fun handle => ?_, fun handle member => ?_⟩
  · rw [grownIff, emptiedIff]
  · rw [← emptiedIff]
    exact fresh handle member

/-- When all objects of a grown tree have been attempted to be taken back, the live objects are the
others from before and those that could not be removed. -/
theorem live_after_takingBack {losses : List Failure} (clearing : Clearing handles first [] none)
    (growing : Growing tree growth grown regrown failure)
    (taking : TakingBack (made grown) back losses none)
    (accounts : Accounts live (first ++ grown ++ back) after) (handle : H) :
    handle ∈ after ↔ (handle ∈ live ∧ handle ∉ handles) ∨
      ∃ refusal, (handle, .error refusal) ∈ takenBack back := by
  rcases accounts.split with ⟨middle, accounts, last⟩
  rcases live_after_growth clearing growing accounts with ⟨nodup, grownIff, apart⟩
  rw [last.of_made_nil taking.made_nil, grownIff, ← taking.lost_iff nodup handle]
  constructor
  · rintro ⟨old | new, stays⟩
    · exact Or.inl old
    · exact Or.inr ⟨new, stays⟩
  · rintro (old | ⟨new, stays⟩)
    · refine ⟨Or.inl old, fun removed => apart handle ?_ old⟩
      rw [← taking.takenBack_of_none]
      exact List.mem_map.mpr ⟨_, (taking.mem_destroyed handle).mp removed, rfl⟩
    · exact ⟨Or.inr new, stays⟩

end

namespace Plot

variable [AngleSource J Float]

/-! ## Failed growths -/

/-- A growth that fails is taken back after the old objects have been cleared away. -/
theorem regenerate_of_failed_growth (scene : Scene σ H R) {start iterations : Option Value}
    {plot cleared failed : Plot σ H R J} {growth : Growth} {failure : Failure}
    (valid : (plot.tree.settings.overridden start iterations).validate = .ok growth)
    (clears : clear scene plot = .ok () cleared)
    (fails : grow scene growth cleared = .error failure failed)
    (recoverable : failure.recoverable = true) :
    ∃ first grown back losses interruption after reported,
      Clearing plot.tree.branches first [] none ∧
      Growing (plot.tree.forget.keep []) growth grown failed.tree (some failure) ∧
      TakingBack failed.tree.branches back losses interruption ∧
      scene.Performs plot.scene (first ++ grown ++ back) after ∧
      deedsOf (regenerateWatched scene start iterations) plot = first ++ grown ++ back ∧
      regenerate scene start iterations plot =
        .error (passedOn failure failed.tree.branches.length losses interruption)
          ⟨after, reported, (failed.tree.keep []).forget⟩ := by
  rcases clear_clearing scene plot.scene [] plot.log plot.tree with
      ⟨first, left, stuck, between, clearing, performs, clearRun⟩
  have plainClear := run_of_watched (clear_mirrors (scene.watched_mirrors .clearing)) clearRun
  rw [clears] at plainClear
  cases stuck with
  | some _ => cases plainClear
  | none =>
    cases plainClear
    cases clearing.left_of_none
    rcases grow_growing scene growth between ([] ++ first) plot.log (plot.tree.forget.keep []) with
        ⟨grown, regrown, ended, events, middle, growing, grew, -, growRun⟩
    have plainGrow := run_of_watched
      (grow_mirrors (scene.watched_mirrors .clearing) growth) growRun
    rw [fails] at plainGrow
    cases ended with
    | none => cases plainGrow
    | some failure =>
      cases plainGrow
      rcases orTakenBack_takingBack scene growRun recoverable with
          ⟨back, losses, interruption, after, taking, took, backRun⟩
      rw [List.nil_append] at backRun
      have whole : regenerateWatched scene start iterations plot.watching =
          Act.ended (some _) ⟨(after, first ++ grown ++ back), _, _⟩ :=
        (regenerateBetween_of_cleared _ _ plot.watching valid clearRun).trans
          (Act.bind_of_error backRun)
      exact ⟨first, grown, back, losses, interruption, after, _, clearing, growing, taking,
        (performs.append grew).append took, deedsOf_of_run whole,
        run_of_watched (regenerateWatched_mirrors scene start iterations) whole⟩

/-- What is asked for being valid, a regeneration cannot clear the old tree away, or it grows the new
one, is interrupted meanwhile, or abandons it. -/
theorem regenerate_ways (scene : Scene σ H R) {start iterations : Option Value}
    {plot : Plot σ H R J} {growth : Growth}
    (valid : (plot.tree.settings.overridden start iterations).validate = .ok growth) :
    (∃ failure stuck, clear scene plot = .error failure stuck ∧
      regenerate scene start iterations plot = .error failure stuck) ∨
    ∃ cleared, clear scene plot = .ok () cleared ∧
      ((∃ grown final, grow scene growth cleared = .ok () grown ∧
          regenerate scene start iterations plot = .ok () final ∧
          final.scene = grown.scene ∧ final.tree = grown.tree) ∨
        (∃ failure failed, grow scene growth cleared = .error failure failed ∧
          failure.recoverable = false ∧
          regenerate scene start iterations plot = .error failure failed) ∨
        ∃ failure failed surfaced final, grow scene growth cleared = .error failure failed ∧
          failure.recoverable = true ∧
          regenerate scene start iterations plot = .error surfaced final ∧
          final.tree = (failed.tree.keep []).forget) := by
  cases clears : clear scene plot with
  | error failure stuck =>
    exact Or.inl ⟨failure, stuck, rfl, regenerateBetween_of_stuck scene scene plot valid clears⟩
  | ok value cleared =>
    have onward := regenerateBetween_of_cleared scene scene plot valid clears
    refine Or.inr ⟨cleared, rfl, ?_⟩
    cases grows : grow scene growth cleared with
    | ok value grown =>
      have whole := onward.trans (Act.bind_of_ok (orTakenBack_of_ok scene grows))
      exact Or.inl ⟨grown, _, rfl, whole, rfl, rfl⟩
    | error failure failed =>
      cases recoverable : failure.recoverable with
      | false =>
        have left := orTakenBack_of_interruption scene grows recoverable
        exact Or.inr (Or.inl
          ⟨failure, failed, rfl, recoverable, onward.trans (Act.bind_of_error left)⟩)
      | true =>
        rcases regenerate_of_failed_growth scene valid clears grows recoverable with
            ⟨_, _, _, _, _, _, _, -, -, -, -, -, run⟩
        exact Or.inr (Or.inr ⟨failure, failed, _, _, rfl, recoverable, run, rfl⟩)

/-- However a growth fails, unless it is interrupted, the tree ends up bare, and the removal of
every object that it had made is attempted once, in the order in which they were made.  If no
interruption cuts this short, the live objects of the scene are those from before, without the old
objects of the tree, and with those that could not be removed.

The deeds are what the scene did in the whole course. -/
theorem failed_growth_leaves_nothing (scene : Scene σ H R) (ledger : scene.Ledger)
    (start iterations : Option Value) {plot cleared failed : Plot σ H R J} {growth : Growth}
    {failure : Failure} (sound : ledger.sound plot.scene)
    (valid : (plot.tree.settings.overridden start iterations).validate = .ok growth)
    (clears : clear scene plot = .ok () cleared)
    (fails : grow scene growth cleared = .error failure failed)
    (recoverable : failure.recoverable = true) :
    ∃ deeds surfaced final, deedsOf (regenerateWatched scene start iterations) plot = deeds ∧
      regenerate scene start iterations plot = .error surfaced final ∧
      scene.Performs plot.scene deeds final.scene ∧ final.tree.Bare ∧ (made deeds).Nodup ∧
      ((∀ handle interruption, (handle, .error interruption) ∈ takenBack deeds →
          interruption.recoverable = true) →
        attempted deeds = plot.tree.branches ++ made deeds ∧
        (takenBack deeds).map Prod.fst = made deeds ∧
        ∀ handle, handle ∈ ledger.live final.scene ↔
          (handle ∈ ledger.live plot.scene ∧ handle ∉ plot.tree.branches) ∨
            ∃ refusal, (handle, .error refusal) ∈ takenBack deeds) := by
  rcases regenerate_of_failed_growth scene valid clears fails recoverable with
      ⟨first, grown, back, losses, interruption, after, reported, clearing, growing, taking,
        performs, watched, run⟩
  have branches : failed.tree.branches = made grown := growing.branches_eq
  have makes : made (first ++ grown ++ back) = made grown := by
    rw [made_append, made_append, clearing.made_nil, taking.made_nil, List.nil_append,
      List.append_nil]
  have attempts : attempted (first ++ grown ++ back) =
      plot.tree.branches ++ (takenBack back).map Prod.fst := by
    rw [attempted_append, attempted_append, clearing.attempted_of_none, growing.attempted_nil,
      taking.attempted_eq, List.append_nil]
  have takes : takenBack (first ++ grown ++ back) = takenBack back := by
    rw [takenBack_append, takenBack_append, clearing.takenBack_nil,
      takenBack_of_attempted_nil growing.attempted_nil, List.nil_append, List.nil_append]
  rcases ledger.accounts sound performs with ⟨-, accounts⟩
  rcases accounts.split with ⟨middle, grew, -⟩
  rcases live_after_growth clearing growing grew with ⟨nodup, -, -⟩
  refine ⟨_, _, _, watched, run, performs, ⟨rfl, rfl, rfl, rfl, rfl⟩, makes ▸ nodup, ?_⟩
  intro uninterrupted
  rw [takes] at uninterrupted ⊢
  rw [makes, attempts]
  cases interruption with
  | some interruption =>
    rcases taking.interruption_mem with ⟨handle, attempt⟩
    have contradiction :=
      (uninterrupted handle interruption attempt).symm.trans taking.unrecoverable
    cases contradiction
  | none =>
    rw [branches] at taking
    have all := taking.takenBack_of_none
    exact ⟨by rw [all], all, live_after_takingBack clearing growing taking accounts⟩

end Plot

namespace Recording

open Plot

/-- A seedling in a rehearsal, in which the first call of one kind fails. -/
def rehearsed (action : SceneAction) (kind : Kind) : Plot Rehearsal Nat Value Jitter where
  scene := (Rehearsal.ofStages 1).setFaults 0
    ((PerAction.fill none).set
      (some { strikes := .calls [0], kind := kind, text := "stop" }) action)
  tree := seedling

theorem rehearsed_prompt (action : SceneAction) (kind : Kind) :
    (rehearsed action kind).scene.Prompt := by
  intro number other fault given
  match number with
  | 0 => cases action <;> cases other <;> cases given <;> rfl
  | number + 1 => cases other <;> cases given

/-- The object of the only branch is made, but the scene refuses to place it. -/
theorem refused_growth :
    ∃ failure failed, grow (Rehearsal.scene 0) segment (rehearsed .transform .runtime) =
      .error failure failed ∧ failure.recoverable = true := by
  rcases grow_seedling (Rehearsal.scene 0) with ⟨branch, points, events, turns, heading, grows⟩
  have run := grows (rehearsed .transform .runtime).scene #[]
  unfold createBranches createBranch at run
  rw [heading] at run
  exact ⟨_, _, run, rfl⟩

/-- The object that could not be placed is taken back. -/
theorem refused_takenBack :
    takenBack (deedsOf (regenerateWatched (Rehearsal.scene 0) none none)
      (rehearsed .transform .runtime)) = [(0, .ok ())] := by
  rcases grow_seedling ((Rehearsal.scene 0).watched .clearing) with
      ⟨branch, points, events, turns, heading, grows⟩
  have run := grows ((rehearsed .transform .runtime).scene, []) #[]
  unfold createBranches createBranch at run
  rw [heading] at run
  have cleared := regenerateBetween_of_cleared _ ((Rehearsal.scene 0).watched .takingBack)
    (rehearsed .transform .runtime).watching seedling_valid
    (seedling_clears ((Rehearsal.scene 0).watched .clearing) _ _)
  have back := orTakenBack_of_error ((Rehearsal.scene 0).watched .takingBack) run rfl
  have whole := cleared.trans (Act.bind_of_error (back.trans rfl))
  unfold deedsOf regenerateWatched Act.reached
  rw [whole]
  rfl

/-- A tree whose only object the scene refuses to place is abandoned, and the object is gone. -/
theorem refused_growth_leaves_nothing :
    ∃ surfaced final,
      regenerate (Rehearsal.scene 0) none none (rehearsed .transform .runtime) =
        .error surfaced final ∧
      final.tree.Bare ∧ ∀ handle, handle ∉ (final.scene.theatre.stage 0).live := by
  rcases refused_growth with ⟨failure, failed, fails, recoverable⟩
  rcases failed_growth_leaves_nothing (Rehearsal.scene 0)
      ((Rehearsal.hindered 0).ledger (Theatre.ledger 0)) none none
      ⟨rehearsed_prompt .transform .runtime, Theatre.ofStages_sound Nat.one_pos⟩
      seedling_valid (seedling_clears _ _ _) fails recoverable with
      ⟨deeds, surfaced, final, watched, run, -, bare, -, back⟩
  have takes : takenBack deeds = [(0, .ok ())] := watched ▸ refused_takenBack
  rw [takes] at back
  obtain ⟨-, -, live⟩ := back fun handle interruption attempt => by
    rw [List.mem_singleton] at attempt
    cases attempt
  refine ⟨surfaced, final, run, bare, fun handle member => ?_⟩
  rcases (live handle).mp member with ⟨old, -⟩ | ⟨refusal, attempt⟩
  · exact List.not_mem_nil old
  · rw [List.mem_singleton] at attempt
    cases attempt

/-- Nothing is taken back when the making of the only object is interrupted: the tree still
remembers the word that it was grown from. -/
theorem interrupted_growth_is_left :
    ∃ growth cleared failure failed surfaced final,
      ((rehearsed .instantiate .interruption).tree.settings.overridden none none).validate =
        .ok growth ∧
      clear (Rehearsal.scene 0) (rehearsed .instantiate .interruption) = .ok () cleared ∧
      grow (Rehearsal.scene 0) growth cleared = .error failure failed ∧
      regenerate (Rehearsal.scene 0) none none (rehearsed .instantiate .interruption) =
        .error surfaced final ∧
      final.tree.rules ≠ none ∧ final.tree.expanded = ['F'] := by
  rcases grow_seedling (Rehearsal.scene 0) with ⟨branch, points, events, turns, -, grows⟩
  have run := grows (rehearsed .instantiate .interruption).scene #[]
  unfold createBranches createBranch at run
  have cleared := regenerateBetween_of_cleared _ (Rehearsal.scene 0)
    (rehearsed .instantiate .interruption) seedling_valid
    (seedling_clears (Rehearsal.scene 0) _ _)
  have left := orTakenBack_of_interruption (Rehearsal.scene 0) run rfl
  exact ⟨segment, _, _, _, _, _, seedling_valid, seedling_clears _ _ _, run,
    cleared.trans (Act.bind_of_error left), Option.some_ne_none _, rfl⟩

end Recording
end Arbor
