import Arbor.Proofs.Tree.Abandonment
import Arbor.Proofs.Tree.Outgrowth
import Arbor.Proofs.Tree.Requests
import Arbor.Proofs.Walk.Drawing

/-!
# The same tree again

What a tree has gone through leaves no trace but in the source of its sways.  Growing anew draws
nothing until the walk begins, and then as many sways as the walk comes to segments, whatever happens
afterwards.  Two trees that are grown from the same settings and the same sways are alike, whatever
became of either of them before, and so are two growths of one tree whose source does not change.
-/

namespace Arbor

open Brackets

variable {σ τ H K R J : Type}

/-- Two trees came to the same, and the same was asked of their scenes for their branches. -/
structure Alike (deeds : List (Deed H R)) (tree : Tree H R J) (others : List (Deed K R))
    (other : Tree K R J) : Prop where
  expanded : tree.expanded = other.expanded
  points : tree.points = other.points
  descriptors : tree.descriptors = other.descriptors
  branches : tree.branches.length = other.branches.length
  stances : stances deeds = stances others
  destinations : destinations deeds = destinations others

section

variable [AngleSource J Float] {tree regrown : Tree H R J} {growth : Growth}
  {deeds : List (Deed H R)}

/-- The settings, the growth and the sways settle what a complete growth comes to. -/
theorem Outgrowth.alike {settings others : Settings R} {jitter : J} {beside : Tree K R J}
    {more : List (Deed K R)} (outgrowth : Outgrowth settings growth jitter deeds regrown)
    (other : Outgrowth others growth jitter more beside)
    (same : settings.destination = others.destination) : Alike deeds regrown more beside := by
  have points : regrown.points = beside.points := by
    rcases outgrowth.walk with ⟨turtle, walked, recorded⟩
    rcases other.walk with ⟨again, walkedAgain, recordedAgain⟩
    have same := (EStateM.Result.ok.inj (walked.symm.trans walkedAgain)).1
    rw [recorded, recordedAgain, same]
  have descriptors : regrown.descriptors = beside.descriptors := by
    have among := outgrowth.descriptors
    rw [points, other.descriptors] at among
    exact (Except.ok.inj among).symm
  refine ⟨outgrowth.expanded.trans other.expanded.symm, points, descriptors, ?_, ?_, ?_⟩
  · rw [outgrowth.branches, descriptors, other.branches]
  · have stands := outgrowth.stances
    rw [descriptors, other.stances] at stands
    exact (Except.ok.inj stands).symm
  · rw [outgrowth.destinations, descriptors, same, other.destinations]

/-! ## The sways that are left -/

/-- The sways that are left to a growing tree are those that its walk has left. -/
theorem Growing.jitter_eq {failure : Option Failure}
    (growing : Growing tree growth deeds regrown failure) :
    regrown.jitter =
      (interpret growth.word : Act J (Turtle Float32 Float J)).reached tree.jitter := by
  unfold Act.reached
  cases growing with
  | lost walk => rw [walk]
  | built walk => rw [walk]; rfl

/-- Growing leaves the settings as they are, and so it does a source that is steady. -/
theorem Growing.kept {failure : Option Failure}
    (growing : Growing tree growth deeds regrown failure) :
    regrown.settings = tree.settings ∧
      (AngleSource.Steady tree.jitter → regrown.jitter = tree.jitter) := by
  refine ⟨?_, fun steady => growing.jitter_eq.trans (interpret_steady steady growth.word)⟩
  cases growing <;> rfl

theorem Regeneration.kept {start iterations : Option Value} {warnings : List Event}
    {failure : Option Failure}
    (regeneration : Regeneration tree start iterations deeds regrown warnings failure) :
    regrown.settings = tree.settings ∧
      (AngleSource.Steady tree.jitter → regrown.jitter = tree.jitter) := by
  cases regeneration with
  | refused invalid => exact ⟨rfl, fun _ => rfl⟩
  | stuck valid clearing => exact ⟨rfl, fun _ => rfl⟩
  | complete valid clearing growing => exact growing.kept
  | interrupted valid clearing growing => exact growing.kept
  | abandoned valid clearing growing => exact growing.kept

theorem Served.kept {request : Request} (served : Served tree request deeds regrown) :
    regrown.settings = tree.settings ∧
      (AngleSource.Steady tree.jitter → regrown.jitter = tree.jitter) := by
  cases served with
  | regenerated regeneration => exact regeneration.kept
  | cleared clearing => exact ⟨rfl, fun _ => rfl⟩

end

namespace Plot

variable [AngleSource J Float] {scene : Scene σ H R} {start iterations : Option Value}
  {plot final : Plot σ H R J} {growth : Growth}

theorem afterAll_kept (scene : Scene σ H R) (requests : List Request) (plot : Plot σ H R J) :
    (afterAll scene requests plot).tree.settings = plot.tree.settings ∧
      (AngleSource.Steady plot.tree.jitter →
        (afterAll scene requests plot).tree.jitter = plot.tree.jitter) := by
  induction requests generalizing plot with
  | nil => exact ⟨rfl, fun _ => rfl⟩
  | cons request requests inductionHypothesis =>
    rcases serve_served scene request plot with ⟨deeds, failure, next, run, -, -, served⟩
    rcases served.kept with ⟨settings, jitter⟩
    rcases inductionHypothesis next with ⟨laterSettings, laterJitter⟩
    rw [afterAll, Act.reached_of_settled run]
    refine ⟨laterSettings.trans settings, fun steady => ?_⟩
    have same := jitter steady
    exact (laterJitter (same ▸ steady)).trans same

omit [AngleSource J Float] in
theorem jitter_of_clear (scene : Scene σ H R) (plot : Plot σ H R J) :
    ((clear scene).reached plot).tree.jitter = plot.tree.jitter := by
  rcases clear_ended scene plot with ⟨deeds, left, failure, after, -, -, run⟩
  rw [Act.reached_of_settled run]
  rfl

/-- Nothing is drawn as long as there is nothing to be walked. -/
theorem jitter_of_unbegun (scene : Scene σ H R) (start iterations : Option Value)
    (plot : Plot σ H R J)
    (unbegun : (∃ failure,
        (plot.tree.settings.overridden start iterations).validate = .error failure) ∨
      ∃ failure stuck, clear scene plot = .error failure stuck) :
    ((regenerate scene start iterations).reached plot).tree.jitter = plot.tree.jitter := by
  cases checked : (plot.tree.settings.overridden start iterations).validate with
  | error failure =>
    have refused : regenerate scene start iterations plot = .error failure plot :=
      regenerateBetween_of_invalid scene scene plot checked
    rw [Act.reached_of_error refused]
  | ok growth =>
    rcases unbegun with ⟨failure, invalid⟩ | ⟨failure, stuck, sticks⟩
    · cases checked.symm.trans invalid
    · have run : regenerate scene start iterations plot = .error failure stuck :=
        regenerateBetween_of_stuck scene scene plot checked sticks
      rw [Act.reached_of_error run, ← Act.reached_of_error sticks]
      exact jitter_of_clear scene plot

theorem jitter_of_grow (scene : Scene σ H R) (growth : Growth) (plot : Plot σ H R J) :
    ((grow scene growth).reached plot).tree.jitter =
      (interpret growth.word : Act J (Turtle Float32 Float J)).reached plot.tree.jitter := by
  rcases grow_ended scene growth plot with
      ⟨deeds, regrown, failure, events, after, growing, -, run⟩
  rw [Act.reached_of_settled run]
  exact growing.jitter_eq

/-- Once the old objects have been cleared away, what is drawn is what the walk draws, whatever comes
of it. -/
theorem jitter_of_begun {cleared : Plot σ H R J}
    (valid : (plot.tree.settings.overridden start iterations).validate = .ok growth)
    (clears : clear scene plot = .ok () cleared) :
    ((regenerate scene start iterations).reached plot).tree.jitter =
      (interpret growth.word : Act J (Turtle Float32 Float J)).reached plot.tree.jitter := by
  have kept := jitter_of_clear scene plot
  have grown := jitter_of_grow scene growth cleared
  rw [Act.reached_of_ok clears] at kept
  rw [← kept, ← grown]
  rcases regenerate_ways scene valid with ⟨failure, stuck, sticks, -⟩ |
      ⟨again, same, ⟨grown, final, run, whole, -, tree⟩ | ⟨failure, failed, run, -, whole⟩ |
        ⟨failure, failed, surfaced, final, run, -, whole, tree⟩⟩
  · cases clears.symm.trans sticks
  · cases clears.symm.trans same
    rw [Act.reached_of_ok whole, Act.reached_of_ok run, tree]
  · cases clears.symm.trans same
    rw [Act.reached_of_error whole, Act.reached_of_error run]
  · cases clears.symm.trans same
    rw [Act.reached_of_error whole, Act.reached_of_error run, tree]
    rfl

/-! ## The same tree -/

/-- A tree that has been grown is grown alike wherever the settings and the sways are the same and no
call on the scene fails. -/
theorem regenerate_alike (done : regenerate scene start iterations plot = .ok () final)
    {other : Scene τ K R} {begin passes : Option Value} {beside : Plot τ K R J}
    (settings : beside.tree.settings.overridden begin passes =
      plot.tree.settings.overridden start iterations)
    (sways : beside.tree.jitter = plot.tree.jitter)
    (calls : firstFailure? (deedsOf (regenerateWatched other begin passes) beside) = none) :
    ∃ grown, regenerate other begin passes beside = .ok () grown ∧
      Alike (deedsOf (regenerateWatched scene start iterations) plot) final.tree
        (deedsOf (regenerateWatched other begin passes) beside) grown.tree := by
  rcases regeneration_of_ok done with ⟨warnings, regeneration, -⟩
  rcases regeneration.outgrowth with ⟨growth, valid, outgrowth⟩
  rcases outgrowth.walk with ⟨turtle, walked, -⟩
  rw [← settings] at valid
  rw [← sways] at walked outgrowth
  rcases regenerate_of_unfailing valid walked calls with ⟨grown, run, outgrown⟩
  have destination : plot.tree.settings.destination = beside.tree.settings.destination :=
    (congrArg Settings.destination settings).symm
  exact ⟨grown, run, outgrowth.alike outgrown destination⟩

/-- However a tree is grown anew, it draws nothing if what it is asked for is not valid or its old
objects cannot be cleared away, as many sways as there are segments before the first stray bracket if
there is one, and as many as there are segments if the walk is completed, whatever comes of the
building then.  When it has been grown, a tree that has never been grown before is grown alike by
the same settings and the sways that were left, and so is any other one; and if drawing leaves the
source as it is, the tree itself is, whatever is asked of it in between. -/
theorem growth_repeats (scene : Scene σ H R) (start iterations : Option Value)
    (plot : Plot σ H R J) :
    (((∃ failure, (plot.tree.settings.overridden start iterations).validate = .error failure) ∨
        ∃ failure stuck, clear scene plot = .error failure stuck) →
      ((regenerate scene start iterations).reached plot).tree.jitter = plot.tree.jitter) ∧
    (∀ growth cleared,
      (plot.tree.settings.overridden start iterations).validate = .ok growth →
      clear scene plot = .ok () cleared →
      (∀ closed rest, growth.word = closed ++ ']' :: rest → Balanced closed →
        AngleSource.Supplies (closed.count 'F') plot.tree.jitter →
        AngleSource.Drawn (closed.count 'F') plot.tree.jitter
          ((regenerate scene start iterations).reached plot).tree.jitter) ∧
      ∀ (turtle : Turtle Float32 Float J) left,
        interpret growth.word plot.tree.jitter = .ok turtle left →
        AngleSource.Drawn (growth.word.count 'F') plot.tree.jitter
          ((regenerate scene start iterations).reached plot).tree.jitter) ∧
    ∀ final, regenerate scene start iterations plot = .ok () final →
      (∀ (τ K : Type) (other : Scene τ K R) (begin passes : Option Value) (beside : Plot τ K R J),
        beside.tree.settings.overridden begin passes =
          plot.tree.settings.overridden start iterations →
        beside.tree.jitter = plot.tree.jitter →
        firstFailure? (deedsOf (regenerateWatched other begin passes) beside) = none →
        ∃ grown, regenerate other begin passes beside = .ok () grown ∧
          Alike (deedsOf (regenerateWatched scene start iterations) plot) final.tree
            (deedsOf (regenerateWatched other begin passes) beside) grown.tree) ∧
      ∀ between again, AngleSource.Steady plot.tree.jitter →
        regenerate scene start iterations (afterAll scene between final) = .ok () again →
        Alike (deedsOf (regenerateWatched scene start iterations) plot) final.tree
          (deedsOf (regenerateWatched scene start iterations) (afterAll scene between final))
          again.tree := by
  refine ⟨jitter_of_unbegun scene start iterations plot, fun growth cleared valid clears => ?_,
    fun final done => ⟨fun τ K other begin passes beside => regenerate_alike done,
      fun between again steady doneAgain => ?_⟩⟩
  · rw [jitter_of_begun valid clears]
    refine ⟨fun closed rest same balanced enough => ?_, fun turtle left walked => ?_⟩
    · rcases interpret_drawn_of_stray (C := Float32) balanced rest enough with ⟨left, run, drawn⟩
      rw [same]
      simpa only [Act.reached, run] using drawn
    · rw [Act.reached_of_ok walked]
      exact interpret_drawn walked
  · rcases regeneration_of_ok done with ⟨warnings, regeneration, -⟩
    rcases regeneration_of_ok doneAgain with ⟨more, repeated, -⟩
    rcases regeneration.kept with ⟨settings, jitter⟩
    rcases afterAll_kept scene between final with ⟨laterSettings, laterJitter⟩
    rcases regeneration.outgrowth with ⟨growth, valid, outgrowth⟩
    rcases repeated.outgrowth with ⟨growthAgain, validAgain, outgrown⟩
    have same := jitter steady
    have still := (laterJitter (same ▸ steady)).trans same
    rw [laterSettings, settings] at validAgain outgrown
    rw [still] at outgrown
    cases valid.symm.trans validAgain
    exact outgrowth.alike outgrown rfl

omit [AngleSource J Float]

/-- A tree with two sways left. -/
def scarce : Plot Nat Nat Value Jitter where
  scene := 0
  tree := { jitter := .listed [.int 5, .int 7] }

/-- A tree whose source is constant and that has been cleared can be grown again. -/
theorem swaying_regrows {final : Plot Nat Nat Value Jitter}
    (done : regenerate welcoming none none swaying = .ok () final) :
    ∃ again, regenerate welcoming none none (afterAll welcoming [.clear] final) = .ok () again := by
  have steady : AngleSource.Steady swaying.tree.jitter := Jitter.constant_steady (.int 5)
  rcases regeneration_of_ok done with ⟨warnings, regeneration, -⟩
  rcases regeneration.kept with ⟨settings, jitter⟩
  rcases afterAll_kept welcoming [.clear] final with ⟨laterSettings, laterJitter⟩
  have same := jitter steady
  have still := (laterJitter (same ▸ steady)).trans same
  have five := Jitter.constant_supplies (rfl : Jitter.summand (.int 5) = _) 1
  have enough : AngleSource.Supplies 1 (afterAll welcoming [.clear] final).tree.jitter :=
    still ▸ five
  rcases interpret_of_matched (C := Float32) (by decide : Matched segment.word) enough with
      ⟨turtle, left, walked⟩
  have valid : ((afterAll welcoming [.clear] final).tree.settings.overridden none none).validate =
      .ok segment := by
    rw [laterSettings, settings]
    rfl
  rcases regenerate_of_unfailing valid walked
      (regenerate_unfailing welcoming_obliging none none _) with ⟨again, run, -⟩
  exact ⟨again, run⟩

/-- A walk that a stray bracket ends after one segment leaves one of two sways.  A segment that has
been grown is grown alike in a scene where there are other objects already, and alike again, its
source being constant, when it has been cleared. -/
theorem stray_bracket_leaves_sway :
    ((regenerate welcoming (some (.text "F]F")) none).reached scarce).tree.jitter =
        .listed [.int 7] ∧
      ∃ final grown again, regenerate welcoming none none swaying = .ok () final ∧
        regenerate welcoming none none { swaying with scene := 7 } = .ok () grown ∧
        Alike (deedsOf (regenerateWatched welcoming none none) swaying) final.tree
          (deedsOf (regenerateWatched welcoming none none) { swaying with scene := 7 })
          grown.tree ∧
        regenerate welcoming none none (afterAll welcoming [.clear] final) = .ok () again ∧
        Alike (deedsOf (regenerateWatched welcoming none none) swaying) final.tree
          (deedsOf (regenerateWatched welcoming none none) (afterAll welcoming [.clear] final))
          again.tree := by
  constructor
  · rcases growth_repeats welcoming (some (.text "F]F")) none scarce with ⟨-, draws, -⟩
    have text : "F]F".toList = ['F', ']', 'F'] := by decide
    have enough : AngleSource.Supplies (['F'].count 'F') scarce.tree.jitter :=
      ⟨_, _, rfl, trivial⟩
    rcases (draws ⟨"F]F".toList, 0, Nat.zero_le _⟩ _ rfl rfl).1 ['F'] ['F'] text (by decide)
        enough with ⟨sway, left, first, same⟩
    cases first
    exact same.symm
  · have five := Jitter.constant_supplies (rfl : Jitter.summand (.int 5) = _) 1
    rcases interpret_of_matched (C := Float32) (by decide : Matched segment.word) five with
        ⟨turtle, left, walked⟩
    have valid : (swaying.tree.settings.overridden none none).validate = .ok segment := rfl
    rcases regenerate_of_unfailing valid walked
        (regenerate_unfailing welcoming_obliging none none swaying) with ⟨final, run, -⟩
    rcases growth_repeats welcoming none none swaying with ⟨-, -, repeats⟩
    rcases (repeats final run).1 Nat Nat welcoming none none { swaying with scene := 7 } rfl rfl
        (regenerate_unfailing welcoming_obliging none none _) with ⟨grown, beside, alike⟩
    rcases swaying_regrows run with ⟨again, more⟩
    exact ⟨final, grown, again, run, beside, alike, more,
      (repeats final run).2 [.clear] again (Jitter.constant_steady (.int 5)) more⟩

end Plot
end Arbor
