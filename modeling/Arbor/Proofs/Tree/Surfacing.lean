import Arbor.Proofs.Tree.Accounting

/-!
# Which failure reaches the caller

Over a scene that is never interrupted, the failure that reaches the caller of a tree is that of
the first call that failed.  A failure of the kind that scenes raise is passed on as it is, and any
other becomes the cause of one that names what was asked.  Without such a call it is the failure of
a check or of the walk, unchanged.

What goes wrong while a tree is taken back never takes the place of this failure.  It becomes its
context, under a reason that counts the objects that could not be removed, and is warned of once.
-/

namespace Arbor

variable {σ H R J : Type}

/-- How a failure of a scene surfaces: as it is if it is of the kind that scenes raise, and else as
the cause of a failure that names what was asked. -/
structure Failure.Surfaces (action : SceneAction) (raised surfaced : Failure) : Prop where
  own : raised.kind = .scene → surfaced = raised
  kind : surfaced.kind = .scene
  foreign : raised.kind ≠ .scene →
    surfaced.message = "failed to " ++ action.verb ++ " branch: " ++ raised.message ∧
      surfaced.causes = raised.chain

theorem Failure.surfaces_ofSceneCall {raised : Failure} (action : SceneAction)
    (recoverable : raised.recoverable = true) :
    raised.Surfaces action (raised.ofSceneCall action) where
  own sceneKind := if_pos (Or.inl sceneKind)
  kind := kind_ofSceneCall recoverable
  foreign otherKind := by
    have passed : ¬ (raised.kind = .scene ∨ raised.recoverable = false) := by
      rw [recoverable]
      simpa using otherKind
    unfold ofSceneCall
    rw [if_neg passed]
    exact ⟨rfl, rfl⟩

/-- The failure with which a course of deeds ends, if it does: that of the first call that failed,
as it surfaces, or without one a failure for another reason. -/
inductive Surfacing (deeds : List (Deed H R)) (other : Failure → Prop) : Option Failure → Prop
  | call {action : SceneAction} {raised surfaced : Failure}
    (first : firstFailure? deeds = some (action, raised))
    (surfaces : raised.Surfaces action surfaced) : Surfacing deeds other (some surfaced)
  | apart {failure : Failure} (calls : firstFailure? deeds = none) (reason : other failure) :
    Surfacing deeds other (some failure)
  | well (calls : firstFailure? deeds = none) : Surfacing deeds other none

theorem firstFailure?_append {first second : List (Deed H R)} :
    firstFailure? (first ++ second) = (firstFailure? first).or (firstFailure? second) :=
  List.findSome?_append

namespace Surfacing

variable {first second deeds : List (Deed H R)} {other wider : Failure → Prop}
  {failure : Option Failure}

theorem imp (wide : ∀ failure, other failure → wider failure)
    (surfacing : Surfacing deeds other failure) : Surfacing deeds wider failure := by
  cases surfacing with
  | call first surfaces => exact .call first surfaces
  | apart calls reason => exact .apart calls (wide _ reason)
  | well calls => exact .well calls

/-- Deeds that went well do not count. -/
theorem after (surfacing : Surfacing second other failure) (well : firstFailure? first = none) :
    Surfacing (first ++ second) other failure := by
  have same : firstFailure? (first ++ second) = firstFailure? second := by
    rw [firstFailure?_append, well, Option.none_or]
  cases surfacing with
  | call found surfaces => exact .call (same.trans found) surfaces
  | apart calls reason => exact .apart (same.trans calls) reason
  | well calls => exact .well (same.trans calls)

end Surfacing

/-- None of the failures of the deeds is an interruption. -/
def Uninterrupted (deeds : List (Deed H R)) : Prop :=
  ∀ deed ∈ deeds, ∀ action failure, deed.failure? = some (action, failure) →
    failure.recoverable = true

/-- A scene of whose calls none is ever interrupted. -/
def Scene.Uninterrupted (scene : Scene σ H R) : Prop :=
  ∀ (deed : Deed H R) before after, deed.Happens scene before after →
    ∀ action failure, deed.failure? = some (action, failure) → failure.recoverable = true

theorem Scene.Uninterrupted.performs {scene : Scene σ H R} (calm : scene.Uninterrupted)
    {deeds : List (Deed H R)} {before after : σ} (performs : scene.Performs before deeds after) :
    Arbor.Uninterrupted deeds := by
  induction deeds generalizing before with
  | nil => exact fun _ member => absurd member List.not_mem_nil
  | cons deed deeds inductionHypothesis =>
    rcases performs with ⟨between, happens, later⟩
    intro other member
    rcases List.mem_cons.mp member with same | member
    · exact same ▸ calm deed before between happens
    · exact inductionHypothesis later other member

section

variable {first second deeds : List (Deed H R)}

theorem Uninterrupted.left (calm : Uninterrupted (first ++ second)) : Uninterrupted first :=
  fun deed member => calm deed (List.mem_append_left second member)

theorem Uninterrupted.right (calm : Uninterrupted (first ++ second)) : Uninterrupted second :=
  fun deed member => calm deed (List.mem_append_right first member)

/-- Where the failure of the first failed call is passed on, it surfaces. -/
theorem Uninterrupted.surfacing (calm : Uninterrupted deeds) {failure : Option Failure}
    (told : failure = (firstFailure? deeds).map fun (action, raised) => raised.ofSceneCall action)
    (other : Failure → Prop) : Surfacing deeds other failure := by
  cases found : firstFailure? deeds with
  | none =>
    rw [found] at told
    exact told ▸ .well found
  | some call =>
    rcases call with ⟨action, raised⟩
    rcases List.exists_of_findSome?_eq_some found with ⟨deed, member, fails⟩
    rw [found] at told
    exact told ▸ .call found (Failure.surfaces_ofSceneCall action (calm deed member _ _ fails))

end

/-! ## Clearing and making -/

theorem Clearing.told {handles left : List H} {deeds : List (Deed H R)}
    {failure : Option Failure} (clearing : Clearing handles deeds left failure) :
    failure = (firstFailure? deeds).map fun (action, raised) => raised.ofSceneCall action := by
  induction clearing with
  | done => rfl
  | stuck => rfl
  | next _ _ inductionHypothesis => exact inductionHypothesis

/-- The failure of a result, if it is one. -/
def failureOf? {α : Type} : Except Failure α → Option Failure
  | .ok _ => none
  | .error failure => some failure

/-- Besides the calls, only the heading of the branch can be at fault. -/
theorem Making.surfacing {settings : Settings R} {branch : Branch Float32 Float}
    {deeds : List (Deed H R)} {handles : List H} {result : Except Failure H}
    (making : Making settings branch deeds handles result) (calm : Uninterrupted deeds) :
    Surfacing deeds (fun failure => branch.turns = .error failure) (failureOf? result) := by
  cases making with
  | refused failure => exact calm.surfacing rfl _
  | registered placing =>
    cases placing with
    | unturned heading => exact .apart rfl heading
    | unplaced heading failure => exact calm.surfacing rfl _
    | moved heading result => cases result <;> exact calm.surfacing rfl _

theorem Making.told {settings : Settings R} {branch : Branch Float32 Float}
    {deeds : List (Deed H R)} {handles : List H} {result : Except Failure H}
    (making : Making settings branch deeds handles result) (spatial : branch.Spatial) :
    failureOf? result =
      (firstFailure? deeds).map fun (action, raised) => raised.ofSceneCall action := by
  cases making with
  | refused failure => rfl
  | registered placing =>
    cases placing with
    | unturned heading =>
      rcases Branch.turns_spatial spatial with ⟨turns, turned⟩
      rw [turned] at heading
      cases heading
    | unplaced heading failure => rfl
    | moved heading result => cases result <;> rfl

/-- Among branches in space only the calls can be at fault. -/
theorem MakingAll.told {settings : Settings R} {branches : List (Branch Float32 Float)}
    {deeds : List (Deed H R)} {handles : List H} {failure : Option Failure}
    (making : MakingAll settings branches deeds handles failure)
    (spatial : ∀ branch ∈ branches, branch.Spatial) :
    failure = (firstFailure? deeds).map fun (action, raised) => raised.ofSceneCall action := by
  induction making with
  | done => rfl
  | stopped _ first => exact first.told (spatial _ List.mem_cons_self)
  | next first later inductionHypothesis =>
    have none := first.told (spatial _ List.mem_cons_self)
    rw [firstFailure?_append, Option.map_eq_none_iff.mp none.symm, Option.none_or]
    exact inductionHypothesis fun branch member => spatial branch (List.mem_cons_of_mem _ member)

/-- A tree that grows is lost in the walk, or else only the calls can be at fault. -/
theorem Growing.surfacing [AngleSource J Float] {tree regrown : Tree H R J} {growth : Growth}
    {deeds : List (Deed H R)} {failure : Option Failure}
    (growing : Growing tree growth deeds regrown failure) (calm : Uninterrupted deeds) :
    Surfacing deeds (fun failure => ∃ jitter,
      (interpret growth.word : Act J (Turtle Float32 Float J)) tree.jitter =
        .error failure jitter) failure := by
  cases growing with
  | lost walk => exact .apart rfl ⟨_, walk⟩
  | built walk among spatial making => exact calm.surfacing (making.told spatial) _

/-! ## Taking back -/

/-- The deeds without the attempts to take objects back. -/
def apartFromTakingBack (deeds : List (Deed H R)) : List (Deed H R) :=
  deeds.filter fun deed => deed.takenBack?.isNone

theorem apartFromTakingBack_append (first second : List (Deed H R)) :
    apartFromTakingBack (first ++ second) =
      apartFromTakingBack first ++ apartFromTakingBack second :=
  List.filter_append _ _

theorem apartFromTakingBack_of_nil {deeds : List (Deed H R)} (none : takenBack deeds = []) :
    apartFromTakingBack deeds = deeds :=
  List.filter_eq_self.mpr fun deed member =>
    Option.isNone_iff_eq_none.mpr (List.filterMap_eq_nil_iff.mp none deed member)

theorem TakingBack.apart_nil {handles : List H} {deeds : List (Deed H R)} {losses : List Failure}
    {interruption : Option Failure} (back : TakingBack handles deeds losses interruption) :
    apartFromTakingBack deeds = [] := by
  induction back with
  | done => rfl
  | interrupted => rfl
  | removed _ _ inductionHypothesis => exact inductionHypothesis
  | lost _ _ _ inductionHypothesis => exact inductionHypothesis

/-- Why objects could not be removed, in the order of the attempts. -/
def refusals (attempts : List (H × Except Failure Unit)) : List Failure :=
  attempts.filterMap fun attempt => failureOf? attempt.2

theorem TakingBack.refusals_eq {handles : List H} {deeds : List (Deed H R)}
    {losses : List Failure} (back : TakingBack handles deeds losses none) :
    refusals (takenBack deeds) = losses := by
  generalize finished : none = interruption at back
  induction back with
  | done => rfl
  | interrupted => cases finished
  | removed handle _ inductionHypothesis => exact inductionHypothesis finished
  | lost handle _ _ inductionHypothesis =>
    exact congrArg (_ :: ·) (inductionHypothesis finished)

/-- Only failures that may be dealt with are counted as losses. -/
theorem TakingBack.recoverable_of_mem {handles : List H} {deeds : List (Deed H R)}
    {losses : List Failure} {interruption : Option Failure}
    (back : TakingBack handles deeds losses interruption) {loss : Failure}
    (member : loss ∈ losses) : loss.recoverable = true := by
  induction back with
  | done => cases member
  | interrupted => cases member
  | removed _ _ inductionHypothesis => exact inductionHypothesis member
  | lost _ recoverable _ inductionHypothesis =>
    rcases List.mem_cons.mp member with same | later
    · exact same ▸ recoverable
    · exact inductionHypothesis later

/-- Over calm deeds every object is attempted to be taken back. -/
theorem TakingBack.finishes {handles : List H} {deeds : List (Deed H R)} {losses : List Failure}
    {interruption : Option Failure} (back : TakingBack handles deeds losses interruption)
    (calm : Uninterrupted deeds) : interruption = none := by
  induction back with
  | done => rfl
  | interrupted handle _ unrecoverable =>
    have recoverable := calm _ (List.mem_singleton_self _) .destroy _ rfl
    rw [unrecoverable] at recoverable
    cases recoverable
  | removed _ _ inductionHypothesis =>
    exact inductionHypothesis fun deed member => calm deed (List.mem_cons_of_mem _ member)
  | lost _ _ _ inductionHypothesis =>
    exact inductionHypothesis fun deed member => calm deed (List.mem_cons_of_mem _ member)

/-- What is passed on for a failure after the attempts to take objects back, and what is warned of.
If some object could not be removed, only the context of the failure is replaced. -/
inductive Reraised (attempts : List (H × Except Failure Unit)) :
    Option Failure → Option Failure → List Event → Prop
  | nothing : Reraised attempts none none []
  | unchanged (failure : Failure) (all : refusals attempts = []) :
    Reraised attempts (some failure) (some failure) []
  | overshadowed (failure : Failure) {first loss : Failure} {others : List Failure}
    {reason : Reason} (refused : refusals attempts = first :: others)
    (surfaces : first.Surfaces .destroy loss) (kind : reason.kind = .scene)
    (message : reason.message = toString (refusals attempts).length ++ " of " ++
      toString attempts.length ++ " branch(es) could not be removed") :
    Reraised attempts (some failure) (some { failure with context := reason :: loss.chain })
      [.leftInScene reason]

theorem TakingBack.reraised {handles : List H} {deeds : List (Deed H R)} {losses : List Failure}
    (back : TakingBack handles deeds losses none) (failure : Failure) :
    Reraised (takenBack deeds) (some failure) (some (passedOn failure handles.length losses none))
      (takingBackWarnings handles.length losses none) := by
  have refused := back.refusals_eq
  have total : (takenBack deeds).length = handles.length := by
    rw [← back.takenBack_of_none, List.length_map]
  cases losses with
  | nil => exact .unchanged failure refused
  | cons first others =>
    have recoverable := back.recoverable_of_mem List.mem_cons_self
    refine .overshadowed failure refused (Failure.surfaces_ofSceneCall .destroy recoverable) rfl ?_
    rw [refused, total]
    rfl

/-! ## The actions of a tree -/

namespace Plot

variable {scene : Scene σ H R}

variable [AngleSource J Float]

/-- A failure that no call is at fault for: what was asked for is not valid, or the walk fails. -/
def Unasked (tree : Tree H R J) (start iterations : Option Value) (failure : Failure) : Prop :=
  (tree.settings.overridden start iterations).validate = .error failure ∨
    ∃ growth jitter, (tree.settings.overridden start iterations).validate = .ok growth ∧
      (interpret growth.word : Act J (Turtle Float32 Float J)) tree.jitter =
        .error failure jitter

end Plot

section

variable [AngleSource J Float] {tree regrown : Tree H R J} {start iterations : Option Value}
  {deeds : List (Deed H R)} {warnings : List Event} {surfaced : Option Failure}

theorem Growing.unasked {growth : Growth}
    (valid : (tree.settings.overridden start iterations).validate = .ok growth)
    (growing : Growing (tree.forget.keep []) growth deeds regrown surfaced)
    (calm : Uninterrupted deeds) : Surfacing deeds (Plot.Unasked tree start iterations) surfaced :=
  (growing.surfacing calm).imp fun _ ⟨jitter, walk⟩ => Or.inr ⟨growth, jitter, valid, walk⟩

/-- What growing a tree anew ends with: a failure surfaces that has nothing to do with the taking
back, and it is passed on when the tree has been taken back. -/
theorem Regeneration.surfacing
    (regeneration : Regeneration tree start iterations deeds regrown warnings surfaced)
    (calm : Uninterrupted deeds) :
    ∃ original,
      Surfacing (apartFromTakingBack deeds) (Plot.Unasked tree start iterations) original ∧
      Reraised (takenBack deeds) original surfaced warnings := by
  cases regeneration with
  | refused invalid => exact ⟨_, .apart rfl (Or.inl invalid), .unchanged _ rfl⟩
  | stuck valid clearing =>
    have idle := clearing.takenBack_nil
    rw [apartFromTakingBack_of_nil idle, idle]
    exact ⟨_, calm.surfacing clearing.told _, .unchanged _ rfl⟩
  | complete valid clearing growing =>
    have idle := growing.takenBack_nil clearing
    have well := Option.map_eq_none_iff.mp clearing.told.symm
    rw [apartFromTakingBack_of_nil idle, idle]
    exact ⟨none, (growing.unasked valid calm.right).after well, .nothing⟩
  | interrupted valid clearing growing unrecoverable =>
    have idle := growing.takenBack_nil clearing
    have well := Option.map_eq_none_iff.mp clearing.told.symm
    rw [apartFromTakingBack_of_nil idle, idle]
    exact ⟨_, (growing.unasked valid calm.right).after well, .unchanged _ rfl⟩
  | abandoned valid clearing growing recoverable taking =>
    have idle := growing.takenBack_nil clearing
    have well := Option.map_eq_none_iff.mp clearing.told.symm
    have finished := taking.finishes calm.right
    subst finished
    rw [apartFromTakingBack_append, apartFromTakingBack_of_nil idle, taking.apart_nil,
      List.append_nil, takenBack_append, idle]
    exact ⟨_, (growing.unasked valid calm.left.right).after well, taking.reraised _⟩

end

namespace Plot

variable {scene : Scene σ H R} [AngleSource J Float]

end Plot

namespace Plot

end Plot
end Arbor
