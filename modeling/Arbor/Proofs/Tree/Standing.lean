import Arbor.Proofs.Tree.Abandonment

/-!
# What a failed regeneration leaves

A regeneration that is refused leaves everything as it was, and one whose growth fails leaves a bare
tree.  There are two failures that leave something in between, and both do so on purpose.  When the
scene does not remove one of the old objects, the tree has been forgotten, but this object and those
after it stay registered, so that they can be removed later.  When the growth is interrupted, the
tree is left as far as it has grown.  In either case the tree registers exactly what it still has in
the scene.
-/

namespace Arbor

variable {σ H R J : Type}

/-- Clearing fails for the first of the objects that are left. -/
theorem Clearing.left_of_some {handles left : List H} {deeds : List (Deed H R)} {failure : Failure}
    (clearing : Clearing handles deeds left (some failure)) :
    ∃ stuck later, left = stuck :: later := by
  generalize failed : some failure = ending at clearing
  induction clearing with
  | done => cases failed
  | stuck handle handles => exact ⟨handle, handles, rfl⟩
  | next _ _ inductionHypothesis => exact inductionHypothesis failed

namespace Plot

/-- The tree has been forgotten, and its objects have been removed up to one that the scene did not
remove.  This one and those after it stay registered. -/
def PartlyCleared (scene : Scene σ H R) (plot final : Plot σ H R J) : Prop :=
  ∃ removed stuck later, plot.tree.branches = removed ++ stuck :: later ∧
    final.tree = plot.tree.forget.keep (stuck :: later) ∧
    ∀ ledger : scene.Ledger, ledger.sound plot.scene → ∀ handle,
      handle ∈ ledger.live final.scene ↔ handle ∈ ledger.live plot.scene ∧ handle ∉ removed

/-- The old objects of the tree have been removed, and it registers the new ones that it has made so
far. -/
def LeftGrowing (scene : Scene σ H R) (plot final : Plot σ H R J) : Prop :=
  ∀ ledger : scene.Ledger, ledger.sound plot.scene → final.tree.branches.Nodup ∧
    ∀ handle, handle ∈ ledger.live final.scene ↔
      (handle ∈ ledger.live plot.scene ∧ handle ∉ plot.tree.branches) ∨
        handle ∈ final.tree.branches

variable {plot cleared final : Plot σ H R J} {failure : Failure}

theorem partlyCleared_of_clear (scene : Scene σ H R)
    (sticks : clear scene plot = .error failure final) : PartlyCleared scene plot final := by
  rcases clear_ended scene plot with ⟨deeds, left, stuck, after, clearing, performs, run⟩
  rw [sticks] at run
  cases stuck with
  | none => cases run
  | some failure =>
    cases run
    rcases clearing.left_of_some with ⟨stuck, later, rfl⟩
    refine ⟨destroyed deeds, stuck, later, clearing.destroyed_append_left.symm, rfl, ?_⟩
    intro ledger sound handle
    exact (ledger.accounts sound performs).2.of_made_nil clearing.made_nil handle

variable [AngleSource J Float] {growth : Growth}

theorem leftGrowing_of_grow (scene : Scene σ H R) (clears : clear scene plot = .ok () cleared)
    (fails : grow scene growth cleared = .error failure final) : LeftGrowing scene plot final := by
  rcases clear_ended scene plot with ⟨first, left, stuck, between, clearing, performs, clearRun⟩
  rw [clears] at clearRun
  cases stuck with
  | some _ => cases clearRun
  | none =>
    cases clearRun
    cases clearing.left_of_none
    rcases grow_ended scene growth ⟨between, plot.log, plot.tree.forget.keep []⟩ with
        ⟨grown, regrown, ended, events, after, growing, grew, growRun⟩
    rw [fails] at growRun
    cases ended with
    | none => cases growRun
    | some failure =>
      cases growRun
      intro ledger sound
      have accounts := (ledger.accounts sound (performs.append grew)).2
      rcases live_after_growth clearing growing accounts with ⟨nodup, live, -⟩
      rw [growing.branches_eq]
      exact ⟨nodup, live⟩

/-- A failed regeneration leaves everything as it was, or a bare tree, unless the clearing of the
old tree is what fails, or the growth of the new one is interrupted. -/
theorem failed_regeneration_leaves (scene : Scene σ H R) (start iterations : Option Value)
    (fails : regenerate scene start iterations plot = .error failure final) :
    final = plot ∨ final.tree.Bare ∨
      (clear scene plot = .error failure final ∧ PartlyCleared scene plot final) ∨
      ∃ cleared growth, clear scene plot = .ok () cleared ∧
        grow scene growth cleared = .error failure final ∧ failure.recoverable = false ∧
        LeftGrowing scene plot final := by
  cases checked : (plot.tree.settings.overridden start iterations).validate with
  | error refusal =>
    have refused := regenerateBetween_of_invalid scene scene plot checked
    have same := fails.symm.trans refused
    cases same
    exact Or.inl rfl
  | ok growth =>
    cases clears : clear scene plot with
    | error loss stuck =>
      have sticks := regenerateBetween_of_stuck scene scene plot checked clears
      have same := fails.symm.trans sticks
      cases same
      exact Or.inr (Or.inr (Or.inl ⟨rfl, partlyCleared_of_clear scene clears⟩))
    | ok value cleared =>
      have onward := regenerateBetween_of_cleared scene scene plot checked clears
      cases grows : grow scene growth cleared with
      | ok value grown =>
        have whole := onward.trans (Act.bind_of_ok (orTakenBack_of_ok scene grows))
        have same := fails.symm.trans whole
        cases same
      | error loss failed =>
        cases recoverable : loss.recoverable with
        | true =>
          rcases regenerate_of_failed_growth scene checked clears grows recoverable with
              ⟨_, _, _, _, _, _, _, -, -, -, -, -, run⟩
          have same := fails.symm.trans run
          cases same
          exact Or.inr (Or.inl ⟨rfl, rfl, rfl, rfl, rfl⟩)
        | false =>
          have left := orTakenBack_of_interruption scene grows recoverable
          have same := fails.symm.trans (onward.trans (Act.bind_of_error left))
          cases same
          exact Or.inr (Or.inr (Or.inr
            ⟨cleared, growth, rfl, grows, recoverable, leftGrowing_of_grow scene clears grows⟩))

omit [AngleSource J Float]

/-- A scene that makes objects and places them, but does not remove them. -/
def clinging : Scene Nat Nat Value where
  instantiate _ _ := fun made => .ok made (made + 1)
  setTransform _ _ _ _ := pure ()
  reparent _ _ := pure ()
  destroy _ := throw ⟨.foreign .runtime "stuck", [], []⟩

/-- A seedling in a scene that will keep it. -/
def planted : Plot Nat Nat Value Jitter where
  scene := 0
  tree := seedling

/-- The seedling grows, and then cannot be cleared away. -/
theorem planted_stands :
    ∃ stood failure final, regenerate clinging none none planted = .ok () stood ∧
      regenerate clinging none none stood = .error failure final ∧ failure.recoverable = true ∧
      stood.tree.rules = some Rules.Table.branching ∧ final.tree.rules = none ∧
      final.tree.branches = [0] := by
  rcases grow_seedling clinging with ⟨branch, points, events, turns, heading, grows⟩
  have run := grows 0 #[]
  unfold createBranches createBranch at run
  rw [heading] at run
  have cleared := regenerateBetween_of_cleared clinging clinging planted seedling_valid
    (seedling_clears _ _ _)
  have grown := cleared.trans (Act.bind_of_ok (orTakenBack_of_ok clinging run))
  exact ⟨_, _, _, grown, regenerateBetween_of_stuck clinging clinging _
    (seedling_valid (H := Nat)) rfl, rfl, rfl, rfl, rfl⟩

/-- A scene in which the making of objects is interrupted. -/
def halting : Scene Nat Nat Value where
  instantiate _ _ := throw ⟨.foreign .interruption "stop", [], []⟩
  setTransform _ _ _ _ := pure ()
  reparent _ _ := pure ()
  destroy _ := pure ()

/-- The seedling is left in the middle of its growth. -/
theorem planted_halts :
    ∃ failure final, regenerate halting none none planted = .error failure final ∧
      final.tree.rules = some Rules.Table.branching := by
  rcases grow_seedling halting with ⟨branch, points, events, turns, heading, grows⟩
  have run := grows 0 #[]
  unfold createBranches createBranch at run
  have cleared := regenerateBetween_of_cleared halting halting planted seedling_valid
    (seedling_clears _ _ _)
  have left := orTakenBack_of_interruption halting run rfl
  exact ⟨_, _, cleared.trans (Act.bind_of_error left), rfl⟩

/-- A tree that the scene will not let go is neither left as it was nor bare: it is forgotten, but
its object is still registered.  Neither is a tree that is interrupted while it grows. -/
theorem regeneration_may_stop_half_way :
    (∃ stood failure final, regenerate clinging none none planted = .ok () stood ∧
      regenerate clinging none none stood = .error failure final ∧
      final.tree.rules ≠ stood.tree.rules ∧ ¬ final.tree.Bare) ∧
    ∃ failure final, regenerate halting none none planted = .error failure final ∧
      final.tree.rules ≠ planted.tree.rules ∧ ¬ final.tree.Bare := by
  rcases planted_stands with ⟨stood, failure, final, grown, fails, -, known, forgotten, branches⟩
  rcases planted_halts with ⟨interruption, left, halts, rules⟩
  constructor
  · refine ⟨stood, failure, final, grown, fails, ?_, fun bare => ?_⟩
    · rw [known, forgotten]
      exact (Option.some_ne_none _).symm
    · rw [bare.branches] at branches
      cases branches
  · refine ⟨interruption, left, halts, ?_, fun bare => ?_⟩
    · rw [rules]
      exact Option.some_ne_none _
    · rw [bare.rules] at rules
      cases rules

theorem stuck_regeneration_leaves :
    ∃ (stood final : Plot Nat Nat Value Jitter) (failure : Failure),
      regenerate clinging none none stood = .error failure final ∧
      stood.tree.rules = some Rules.Table.branching ∧ PartlyCleared clinging stood final := by
  rcases planted_stands with
      ⟨stood, failure, final, -, fails, recoverable, known, forgotten, branches⟩
  refine ⟨stood, final, failure, fails, known, ?_⟩
  rcases failed_regeneration_leaves clinging none none fails with
      same | bare | ⟨-, partly⟩ | ⟨_, _, -, -, interrupted, -⟩
  · rw [← same, forgotten] at known
    cases known
  · rw [bare.branches] at branches
    cases branches
  · exact partly
  · rw [recoverable] at interrupted
    cases interrupted

end Plot
end Arbor
