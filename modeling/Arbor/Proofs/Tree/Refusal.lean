import Arbor.Proofs.Rules.Morphism
import Arbor.Proofs.Settings.Checking
import Arbor.Proofs.Tree.Standing
import Arbor.Proofs.Tree.Surfacing
import Arbor.Proofs.Walk.Following
import Arbor.Settings.Table

/-!
# What a regeneration refuses

What is asked for is looked at three times: settings are checked when they are made, a regeneration
checks what it was asked for together with the settings of its tree, and an expansion checks how
many passes it is to make.  The first two agree on every value, and the third never objects to what
they have let through.  A regeneration that is refused has not touched anything.

After the check nothing fails as a refused configuration does.  A scene may raise such a failure,
but it reaches the caller as the cause of a failed call, so only a source of sways could bring one
about.
-/

namespace Arbor

variable {σ H R J : Type}

namespace Settings

/-- Make settings of a start word and a number of passes, and check them. -/
def validateGiven (start iterations : Value) : Except Failure Growth :=
  ofTable [("axiom", start), ("iterations", iterations)] >>= validate

/-- What is asked of a tree is checked as settings of their own are that hold what is asked for. -/
theorem validateGiven_eq (tree : Tree H R J) (start iterations : Option Value) :
    validateGiven (start.getD tree.settings.start) (iterations.getD tree.settings.iterations) =
      tree.request start iterations := rfl

end Settings

/-! ## Failures that are no refusals -/

/-- A failure is something else than a refused configuration. -/
def Failure.Mild (failure : Failure) : Prop := failure.kind ≠ .configuration

/-- Whatever a scene raises, no refused configuration reaches the caller. -/
theorem Failure.mild_ofSceneCall (failure : Failure) (action : SceneAction) :
    (failure.ofSceneCall action).Mild := by
  unfold Mild
  cases recoverable : failure.recoverable with
  | true =>
    rw [kind_ofSceneCall recoverable]
    decide
  | false =>
    rw [ofSceneCall_of_interruption recoverable, kind_of_interruption recoverable]
    decide

theorem Failure.mild_of_told {deeds : List (Deed H R)} {failure : Failure}
    (told : some failure =
      (firstFailure? deeds).map fun (action, raised) => raised.ofSceneCall action) :
    failure.Mild := by
  rcases Option.map_eq_some_iff.mp told.symm with ⟨⟨action, raised⟩, -, rfl⟩
  exact raised.mild_ofSceneCall action

/-- The failure that is passed on is of its old kind, unless an interruption takes its place. -/
theorem TakingBack.mild {handles : List H} {deeds : List (Deed H R)} {losses : List Failure}
    {interruption : Option Failure} (back : TakingBack handles deeds losses interruption)
    {failure : Failure} (mild : failure.Mild) (total : Nat) :
    (passedOn failure total losses interruption).Mild := by
  cases interruption with
  | some interruption =>
    have interrupted := Failure.kind_of_interruption back.unrecoverable
    have kind : (interruption.during failure).kind = .interruption := interrupted
    change (interruption.during failure).kind ≠ .configuration
    rw [kind]
    decide
  | none => cases losses <;> exact mild

namespace Jitter

/-- A source given by settings can only be used up. -/
theorem next_raises {property : Failure → Prop} (usedUp : property ⟨.swaysExhausted, [], []⟩) :
    Act.Raises property next := by
  intro jitter failure left failed
  unfold next at failed
  split at failed
  · cases failed
  · cases failed
  · cases failed
    exact usedUp
  · split at failed
    cases failed

/-- A value that gives no number is too large or of the wrong type. -/
theorem summand_mild {value : Value} {failure : Failure} (failed : summand value = .error failure) :
    failure.Mild := by
  cases value with
  | int sway =>
    unfold summand realOfWhole at failed
    dsimp only at failed
    split at failed
    · cases failed
      exact (by decide : Kind.overflow ≠ .configuration)
    · cases failed
  | flag sway => cases failed
  | real sway => cases failed
  | _ =>
    cases failed
    exact (by decide : Kind.type ≠ .configuration)

/-- The sources given by settings never fail as a refused configuration. -/
theorem draw_mild : Act.Raises Failure.Mild draw := by
  apply Act.Raises.bind
  · apply next_raises
    exact (by decide : Kind.exhausted ≠ .configuration)
  · intro value
    apply Act.Raises.lift
    intro failure failed
    exact summand_mild failed

end Jitter

section

variable [AngleSource J Float] {tree regrown : Tree H R J} {growth : Growth}
  {deeds : List (Deed H R)} {failure : Failure}

/-- A tree is lost in the walk, for want of a sway or at a stray bracket, or by a call. -/
theorem Growing.mild (mild : Act.Raises Failure.Mild (AngleSource.draw : Act J Float))
    (growing : Growing tree growth deeds regrown (some failure)) : failure.Mild := by
  cases growing with
  | lost walk =>
    have stray (index : Nat) : (⟨.unmatched "]" index, [], []⟩ : Failure).Mild :=
      (by decide : Kind.bracket ≠ .configuration)
    exact interpret_raises mild stray growth.word _ _ _ walk
  | built walk among spatial making => exact Failure.mild_of_told (making.told spatial)

/-- Once what is asked for is valid, a regeneration does not fail as a refused configuration. -/
theorem Regeneration.mild (mild : Act.Raises Failure.Mild (AngleSource.draw : Act J Float))
    {start iterations : Option Value} {warnings : List Event}
    (regeneration : Regeneration tree start iterations deeds regrown warnings (some failure))
    (valid : (tree.settings.overridden start iterations).validate = .ok growth) :
    failure.Mild := by
  cases regeneration with
  | refused invalid => cases valid.symm.trans invalid
  | stuck _ clearing => exact Failure.mild_of_told clearing.told
  | interrupted _ _ growing => exact growing.mild mild
  | abandoned _ _ growing _ taking => exact taking.mild (growing.mild mild) _

end

namespace Plot

open Rules

variable [AngleSource J Float] {scene : Scene σ H R} {start iterations : Option Value}
  {plot final : Plot σ H R J} {failure : Failure} {growth : Growth}

theorem regenerate_mild (mild : Act.Raises Failure.Mild (AngleSource.draw : Act J Float))
    (valid : (plot.tree.settings.overridden start iterations).validate = .ok growth)
    (fails : regenerate scene start iterations plot = .error failure final) : failure.Mild := by
  rcases regenerate_course scene start iterations plot with
      ⟨events, surfaced, reached, regeneration, -, -, run⟩
  cases surfaced with
  | none => cases fails.symm.trans run
  | some surfaced =>
    cases fails.symm.trans run
    exact regeneration.mild mild valid

/-- A regeneration is refused as a configuration for exactly the reason for which settings with this
start word and this number of passes are refused; what is not given is taken from the settings of
the tree.  Then the scene, the log and the tree with its sways are as before.

Settings that are accepted are not refused any more: not by an expansion that checks the number of
passes once again, which comes to just what the growing tree does, and not by anything else, as long
as drawing a sway does not fail in this way. -/
theorem refused_as_settings_are (scene : Scene σ H R) (start iterations : Option Value)
    (plot : Plot σ H R J) :
    (∀ failure,
      Settings.validateGiven (start.getD plot.tree.settings.start)
          (iterations.getD plot.tree.settings.iterations) = .error failure →
        failure.kind = .configuration ∧
        regenerate scene start iterations plot = .error failure plot) ∧
    (∀ growth,
      Settings.validateGiven (start.getD plot.tree.settings.start)
          (iterations.getD plot.tree.settings.iterations) = .ok growth →
        ∃ text, start.getD plot.tree.settings.start = .text text ∧
          expandLoose Table.branching (iterations.getD plot.tree.settings.iterations)
              text.toList = Table.branching.expandReporting growth.passes growth.start ∧
          ∀ log, (expandLoose Table.branching (iterations.getD plot.tree.settings.iterations)
            text.toList).outcome log = .ok growth.word) ∧
    (Act.Raises Failure.Mild (AngleSource.draw : Act J Float) →
      (∀ failure,
        ((∃ final, regenerate scene start iterations plot = .error failure final) ∧
            failure.kind = .configuration) ↔
          Settings.validateGiven (start.getD plot.tree.settings.start)
            (iterations.getD plot.tree.settings.iterations) = .error failure) ∧
      ∀ growth,
        Settings.validateGiven (start.getD plot.tree.settings.start)
            (iterations.getD plot.tree.settings.iterations) = .ok growth →
          ∀ failure final, regenerate scene start iterations plot = .error failure final →
            failure.kind ≠ .configuration) := by
  rw [Settings.validateGiven_eq, Tree.request_eq]
  have refuses (failure : Failure)
      (invalid : (plot.tree.settings.overridden start iterations).validate = .error failure) :
      regenerate scene start iterations plot = .error failure plot :=
    regenerateBetween_of_invalid scene scene plot invalid
  refine ⟨?_, ?_, fun mild => ⟨?_, ?_⟩⟩
  · intro failure invalid
    exact ⟨Settings.kind_of_invalid invalid, refuses failure invalid⟩
  · intro growth valid
    rcases (plot.tree.settings.overridden start iterations).validate_cases with
        ⟨text, other, starts, spelled, counts, again⟩ | ⟨failure, refused, -⟩
    · cases again.symm.trans valid
      have asked : iterations.getD plot.tree.settings.iterations = .int growth.passes := counts
      refine ⟨text, starts, ?_⟩
      rw [asked, ← spelled, Table.expandLoose_natCast]
      exact ⟨rfl, Table.branching.expandReporting_outcome _ _⟩
    · cases refused.symm.trans valid
  · intro failure
    constructor
    · rintro ⟨⟨final, fails⟩, kind⟩
      cases checked : (plot.tree.settings.overridden start iterations).validate with
      | error other =>
        cases fails.symm.trans (refuses other checked)
        rfl
      | ok growth => exact absurd kind (regenerate_mild mild checked fails)
    · intro invalid
      exact ⟨⟨plot, refuses failure invalid⟩, Settings.kind_of_invalid invalid⟩
  · intro growth valid failure final fails
    exact regenerate_mild mild valid fails

omit [AngleSource J Float]

/-- A tree that stands is left standing when seven passes are asked for.  When one pass is asked
for, whatever becomes of the tree is not the fault of the request. -/
theorem seven_passes_refused :
    ∃ stood : Plot Nat Nat Value Jitter, stood.tree.rules = some Table.branching ∧
      (∃ failure, failure.message = "iterations must lie in [0, 6], got 7" ∧
        regenerate clinging (some (.text "F")) (some (.int 7)) stood = .error failure stood) ∧
      ∀ failure final,
        regenerate clinging (some (.text "F")) (some (.int 1)) stood = .error failure final →
          failure.kind ≠ .configuration := by
  rcases planted_stands with ⟨stood, _, _, -, -, -, known, -, -⟩
  refine ⟨stood, known, ?_, ?_⟩
  · rcases refused_as_settings_are clinging (some (.text "F")) (some (.int 7)) stood with
        ⟨refused, -, -⟩
    exact ⟨_, by decide, (refused ⟨.iterationsOutOfRange 7 6, [], []⟩ rfl).2⟩
  · rcases refused_as_settings_are clinging (some (.text "F")) (some (.int 1)) stood with
        ⟨-, -, accepted⟩
    exact (accepted Jitter.draw_mild).2 ⟨['F'], 1, by decide⟩ rfl

end Plot
end Arbor
