import Arbor.Proofs.Scene.Recording

/-!
# Scenes that can be hindered

A hindered scene behaves like another one, except that any of its calls may fail instead before it
has had an effect.  When and why this happens is left open.  Such a scene keeps account of its
objects whenever the other one does, because a hindered call makes and removes nothing.  A stage of
a rehearsal is a hindered stage of its theatre as long as all its faults strike before the call.
-/

namespace Arbor

variable {σ τ H R α : Type}

/-- An action that does, to what is seen of a sound state, what another one does, or fails without
any effect on it. -/
def Act.Hinders (view : τ → σ) (sound : τ → Prop) (full : Act τ α) (plain : Act σ α) : Prop :=
  ∀ state, sound state → sound (full.reached state) ∧
    (seen view (full state) = plain (view state) ∨
      ∃ failure reached, full state = .error failure reached ∧ view reached = view state)

theorem Act.Hinders.settled {view : τ → σ} {sound : τ → Prop} {full : Act τ α} {plain : Act σ α}
    (hinders : Hinders view sound full plain) {before after : τ} {result : Except Failure α}
    (run : full before = Act.settled result after) (soundBefore : sound before) :
    sound after ∧ (plain (view before) = Act.settled result (view after) ∨
      (∃ failure, result = .error failure) ∧ view after = view before) := by
  rcases hinders before soundBefore with ⟨soundAfter, either⟩
  unfold reached at soundAfter
  rw [run] at soundAfter either
  cases result with
  | ok value =>
    refine ⟨soundAfter, Or.inl ?_⟩
    rcases either with same | ⟨failure, state, failed, -⟩
    · exact same.symm
    · cases failed
  | error failure =>
    refine ⟨soundAfter, ?_⟩
    rcases either with same | ⟨other, state, failed, untouched⟩
    · exact Or.inl same.symm
    · cases failed
      exact Or.inr ⟨⟨failure, rfl⟩, untouched⟩

theorem Act.Hinders.settled_of_unfailing {view : τ → σ} {sound : τ → Prop} {full : Act τ α}
    {plain : Act σ α} (hinders : Hinders view sound full plain) {before after : τ}
    {result : Except Failure α} (run : full before = Act.settled result after)
    (soundBefore : sound before) (well : ∀ failure, result ≠ .error failure) :
    sound after ∧ plain (view before) = Act.settled result (view after) := by
  rcases hinders.settled run soundBefore with ⟨soundAfter, either⟩
  exact ⟨soundAfter, either.resolve_right fun ⟨⟨failure, failed⟩, _⟩ => well failure failed⟩

/-- The evidence that a scene is another one with calls that may be hindered, as long as its state
is sound. -/
structure Scene.Hindered (scene : Scene τ H R) (plain : Scene σ H R) where
  view : τ → σ
  sound : τ → Prop
  instantiate : ∀ prefab parent, Act.Hinders view sound (scene.instantiate prefab parent)
    (plain.instantiate prefab parent)
  setTransform : ∀ handle position rotation scale, Act.Hinders view sound
    (scene.setTransform handle position rotation scale)
    (plain.setTransform handle position rotation scale)
  reparent : ∀ handle parent, Act.Hinders view sound (scene.reparent handle parent)
    (plain.reparent handle parent)
  destroy : ∀ handle, Act.Hinders view sound (scene.destroy handle) (plain.destroy handle)

namespace Scene.Hindered

variable {scene : Scene τ H R} {plain : Scene σ H R}

/-- What a hindered scene does is done by the other scene as well, or has failed without making or
removing anything. -/
theorem happens (hindered : scene.Hindered plain) {deed : Deed H R} {before after : τ}
    (happens : deed.Happens scene before after) (sound : hindered.sound before) :
    hindered.sound after ∧
      (deed.Happens plain (hindered.view before) (hindered.view after) ∨
        (deed.made? = none ∧ deed.destroyed? = none) ∧
          hindered.view after = hindered.view before) := by
  cases deed with
  | instantiate prefab parent result =>
    rcases (hindered.instantiate prefab parent).settled happens sound with ⟨soundAfter, either⟩
    refine ⟨soundAfter, either.imp_right fun ⟨⟨failure, failed⟩, same⟩ => ⟨?_, same⟩⟩
    subst failed
    exact ⟨rfl, rfl⟩
  | setTransform handle position rotation scale result =>
    rcases (hindered.setTransform handle position rotation scale).settled happens sound with
        ⟨soundAfter, either⟩
    exact ⟨soundAfter, either.imp_right fun ⟨_, same⟩ => ⟨⟨rfl, rfl⟩, same⟩⟩
  | reparent handle parent result =>
    rcases (hindered.reparent handle parent).settled happens sound with ⟨soundAfter, either⟩
    exact ⟨soundAfter, either.imp_right fun ⟨_, same⟩ => ⟨⟨rfl, rfl⟩, same⟩⟩
  | destroy removal handle result =>
    rcases (hindered.destroy handle).settled happens sound with ⟨soundAfter, either⟩
    refine ⟨soundAfter, either.imp_right fun ⟨⟨failure, failed⟩, same⟩ => ⟨?_, same⟩⟩
    subst failed
    exact ⟨rfl, rfl⟩

/-- What a hindered scene does without a failure is done by the other scene as well. -/
theorem happens_of_unfailing (hindered : scene.Hindered plain) {deed : Deed H R} {before after : τ}
    (happens : deed.Happens scene before after) (sound : hindered.sound before)
    (well : deed.failure? = none) :
    hindered.sound after ∧ deed.Happens plain (hindered.view before) (hindered.view after) := by
  cases deed with
  | instantiate prefab parent result =>
    refine (hindered.instantiate prefab parent).settled_of_unfailing happens sound ?_
    rintro failure rfl
    cases well
  | setTransform handle position rotation scale result =>
    refine (hindered.setTransform handle position rotation scale).settled_of_unfailing happens
      sound ?_
    rintro failure rfl
    cases well
  | reparent handle parent result =>
    refine (hindered.reparent handle parent).settled_of_unfailing happens sound ?_
    rintro failure rfl
    cases well
  | destroy removal handle result =>
    refine (hindered.destroy handle).settled_of_unfailing happens sound ?_
    rintro failure rfl
    cases well

theorem performs_of_unfailing (hindered : scene.Hindered plain) {deeds : List (Deed H R)}
    {before after : τ} (performs : scene.Performs before deeds after)
    (sound : hindered.sound before) (well : ∀ deed ∈ deeds, deed.failure? = none) :
    plain.Performs (hindered.view before) deeds (hindered.view after) := by
  induction deeds generalizing before with
  | nil =>
    cases performs
    rfl
  | cons deed deeds inductionHypothesis =>
    rcases performs with ⟨between, happens, later⟩
    rcases List.forall_mem_cons.mp well with ⟨wellFirst, wellLater⟩
    rcases hindered.happens_of_unfailing happens sound wellFirst with ⟨stillSound, done⟩
    exact ⟨_, done, inductionHypothesis later stillSound wellLater⟩

theorem sound_of_performs (hindered : scene.Hindered plain) {deeds : List (Deed H R)}
    {before after : τ} (performs : scene.Performs before deeds after)
    (sound : hindered.sound before) : hindered.sound after := by
  induction deeds generalizing before with
  | nil =>
    cases performs
    exact sound
  | cons deed deeds inductionHypothesis =>
    rcases performs with ⟨between, happens, later⟩
    exact inductionHypothesis later (hindered.happens happens sound).1

/-- A hindered scene keeps account of its objects if the other scene does. -/
def ledger (hindered : scene.Hindered plain) (accounts : plain.Ledger) : scene.Ledger where
  sound state := hindered.sound state ∧ accounts.sound (hindered.view state)
  live state := accounts.live (hindered.view state)
  fresh {prefab parent handle before after} sound run := by
    have made : (Deed.instantiate prefab parent (.ok handle)).Happens scene before after := run
    rcases hindered.happens made sound.1 with ⟨-, same | ⟨⟨none, -⟩, -⟩⟩
    · exact accounts.fresh sound.2 same
    · cases none
  keeps {deed before after} sound happens := by
    rcases hindered.happens happens sound.1 with ⟨soundAfter, same | ⟨⟨makes, removes⟩, untouched⟩⟩
    · rcases accounts.keeps sound.2 same with ⟨stillSound, lives⟩
      exact ⟨⟨soundAfter, stillSound⟩, lives⟩
    · rw [untouched, Deed.liveAfter_of_idle makes removes]
      exact ⟨⟨soundAfter, sound.2⟩, rfl⟩

end Scene.Hindered

namespace Recording
namespace Rehearsal

variable {rehearsal : Rehearsal}

/-- All faults of a rehearsal strike before the call has had its effect. -/
def Prompt (rehearsal : Rehearsal) : Prop :=
  ∀ number action fault, (rehearsal.trouble number).faults.get action = some fault →
    fault.after = false

/-- Counting a call changes neither the theatre nor the faults of any stage. -/
theorem count_counts (number : Nat) (action : SceneAction) (rehearsal : Rehearsal) :
    ∃ call counted, count number action rehearsal = .ok call counted ∧
      counted.theatre = rehearsal.theatre ∧
      ∀ other, (counted.trouble other).faults = (rehearsal.trouble other).faults := by
  refine ⟨_, _, rfl, rfl, fun other => ?_⟩
  simp only [trouble, List.getD_eq_getElem?_getD, List.getElem?_modify, Option.map_eq_map]
  cases rehearsal.troubles[other]? with
  | none => rfl
  | some trouble =>
    by_cases same : number = other
    · simp only [same, if_true, Option.map_some, Option.getD_some]
    · simp only [if_neg same, Option.map_some, Option.getD_some]

theorem onTheatre_hinders {α : Type} (act : Act Theatre α) :
    Act.Hinders theatre Prompt (onTheatre act) act := by
  intro rehearsal prompt
  cases run : act rehearsal.theatre with
  | ok value reached =>
    have whole : onTheatre act rehearsal = .ok value ⟨reached, rehearsal.troubles⟩ := by
      simp only [onTheatre, Act.within, run]
    unfold Act.reached
    rw [whole]
    exact ⟨prompt, Or.inl rfl⟩
  | error failure reached =>
    have whole : onTheatre act rehearsal = .error failure ⟨reached, rehearsal.troubles⟩ := by
      simp only [onTheatre, Act.within, run]
    unfold Act.reached
    rw [whole]
    exact ⟨prompt, Or.inl rfl⟩

theorem call_of_count {α : Type} {number call : Nat} {action : SceneAction} {counted : Rehearsal}
    (counts : count number action rehearsal = .ok call counted) (act : Act Theatre α) :
    Rehearsal.call number action act rehearsal =
      (match (counted.trouble number).faults.get action with
      | none => onTheatre act
      | some fault =>
        if fault.strikes.includes call then do
          if fault.after then discard (onTheatre act)
          throw (fault.failure call)
        else onTheatre act) counted :=
  (Act.bind_of_ok counts).trans (Act.bind_get _ _)

/-- A call goes through to the theatre, or fails before it has had an effect. -/
theorem call_hinders {α : Type} (number : Nat) (action : SceneAction) (act : Act Theatre α) :
    Act.Hinders theatre Prompt (call number action act) act := by
  intro rehearsal prompt
  rcases count_counts number action rehearsal with ⟨call, counted, counts, sameTheatre, sameFaults⟩
  have stillPrompt : counted.Prompt := fun number action fault given =>
    prompt number action fault (sameFaults number ▸ given)
  have whole := call_of_count counts act
  have through := onTheatre_hinders act counted stillPrompt
  unfold Act.reached at through ⊢
  rw [whole]
  rw [← sameTheatre]
  cases given : (counted.trouble number).faults.get action with
  | none => exact through
  | some fault =>
    by_cases strikes : fault.strikes.includes call = true
    · have early := stillPrompt number action fault given
      simp only [if_pos strikes, early, Bool.false_eq_true, if_false]
      exact ⟨stillPrompt, Or.inr ⟨fault.failure call, counted, rfl, rfl⟩⟩
    · simp only [if_neg strikes]
      exact through

/-- A stage of a rehearsal is a stage of its theatre that may be hindered. -/
def hindered (number : Nat) : (scene number).Hindered (Theatre.scene number) where
  view := theatre
  sound := Prompt
  instantiate _ _ := call_hinders _ _ _
  setTransform _ _ _ _ := call_hinders _ _ _
  reparent _ _ := call_hinders _ _ _
  destroy _ := call_hinders _ _ _

end Rehearsal
end Recording
end Arbor
