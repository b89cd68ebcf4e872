import Arbor.Proofs.Tree.Outgrowth
import Arbor.Proofs.Tree.Requests

/-!
# Trees in two scenes

A scene hosts a tree with certain settings if it refuses it nothing: an object can always be made,
placed as its branch lies and moved to where the settings say, and every object that the tree holds
can be removed.  What comes of a request is then settled by the tree alone.  So two trees in two such
scenes, which start alike and are asked for the same, succeed and fail alike at every step, remember
the same, and have objects that lie alike, each in its own scene.
-/

namespace Arbor

variable {σ τ H K R S J : Type}

/-- The evidence that a scene refuses nothing to a tree with the settings.  A state is sound for the
objects that the tree holds in it, and says of them how they lie. -/
structure Scene.Hosting (scene : Scene σ H R) (settings : Settings R) where
  sound : List H → σ → Prop
  lies : σ → H → Stance → Prop
  plants : ∀ {held : List H} {before : σ} {branch : Branch Float32 Float}
    {turns : Space.Turns Float32}, sound held before → branch.Spatial → branch.turns = .ok turns →
    ∃ handle fresh placed after,
      scene.instantiate settings.prefab settings.parent before = .ok handle fresh ∧
      scene.setTransform handle branch.position turns branch.scale fresh = .ok () placed ∧
      scene.reparent handle settings.destination placed = .ok () after ∧
      sound (held ++ [handle]) after ∧ lies after handle ⟨branch.position, turns, branch.scale⟩ ∧
      ∀ other ∈ held, ∀ stance, lies before other stance → lies after other stance
  removes : ∀ {handle : H} {held : List H} {before : σ}, sound (handle :: held) before →
    ∃ after, scene.destroy handle before = .ok () after ∧ sound held after

/-- What a failed walk leaves of a tree, with the sways that it has left: it is taken back, unless it
was interrupted. -/
def Tree.leftBy (growth : Growth) (failure : Failure) (jitter : J) (tree : Tree H R J) :
    Tree H R J :=
  let cleared := tree.forget.keep []
  { (if failure.recoverable then cleared else cleared.sow growth) with jitter := jitter }

namespace Plot

section

variable {scene : Scene σ H R} {settings : Settings R} (hosting : scene.Hosting settings)
  {before : σ} (log : Log) (tree : Tree H R J)

/-! ## A tree that is refused nothing -/

/-- The object of a branch is made, placed and moved. -/
theorem createBranch_hosted (given : tree.settings = settings)
    (sound : hosting.sound tree.branches before) {branch : Branch Float32 Float}
    (spatial : branch.Spatial) :
    ∃ handle stance after, branch.stance = .ok stance ∧
      createBranch scene branch ⟨before, log, tree⟩ =
        .ok handle ⟨after, log, tree.keep (tree.branches ++ [handle])⟩ ∧
      hosting.sound (tree.branches ++ [handle]) after ∧ hosting.lies after handle stance ∧
      ∀ other ∈ tree.branches, ∀ stance, hosting.lies before other stance →
        hosting.lies after other stance := by
  rcases Branch.turns_spatial spatial with ⟨turns, heading⟩
  rcases hosting.plants sound spatial heading with
      ⟨handle, fresh, placed, after, makes, places, moves, stillSound, lies, others⟩
  refine ⟨handle, ⟨branch.position, turns, branch.scale⟩, after, ?_, ?_, stillSound, lies, others⟩
  · rw [Branch.stance, heading]
    rfl
  · have instantiated := sceneCall_of_ok .instantiate makes log tree
    have transformed := sceneCall_of_ok .transform places log (tree.register handle)
    have moved := sceneCall_of_ok .reparent moves log (tree.register handle)
    rw [createBranch_eq, given]
    refine (Act.bind_of_ok instantiated).trans ?_
    change placeObject scene settings branch handle ⟨fresh, log, tree.register handle⟩ = _
    unfold placeObject
    rw [heading]
    exact (Act.bind_lift_ok turns _ _).trans
      ((Act.bind_of_ok transformed).trans (Act.bind_of_ok moved))

/-- The objects of branches in space are all made, and lie as the branches do. -/
theorem createBranches_hosted (given : tree.settings = settings)
    (sound : hosting.sound tree.branches before) (branches : List (Branch Float32 Float))
    (spatial : ∀ branch ∈ branches, branch.Spatial) :
    ∃ handles stances after, branches.mapM Branch.stance = .ok stances ∧
      createBranches scene branches ⟨before, log, tree⟩ =
        .ok () ⟨after, log, tree.keep (tree.branches ++ handles)⟩ ∧
      hosting.sound (tree.branches ++ handles) after ∧
      List.Forall₂ (hosting.lies after) handles stances ∧
      ∀ other ∈ tree.branches, ∀ stance, hosting.lies before other stance →
        hosting.lies after other stance := by
  induction branches generalizing before tree with
  | nil =>
    refine ⟨[], [], before, rfl, ?_, ?_, .nil, fun _ _ _ lies => lies⟩
    · rw [List.append_nil]
      rfl
    · rwa [List.append_nil]
  | cons branch branches inductionHypothesis =>
    rcases createBranch_hosted hosting log tree given sound (spatial branch List.mem_cons_self)
      with ⟨handle, stance, between, stands, run, stillSound, lies, kept⟩
    rcases inductionHypothesis (tree.keep (tree.branches ++ [handle])) given stillSound
        fun other member => spatial other (List.mem_cons_of_mem branch member) with
        ⟨handles, stances, after, stand, later, soundAfter, shown, keptAfter⟩
    have joined : tree.branches ++ [handle] ++ handles = tree.branches ++ handle :: handles :=
      List.append_assoc ..
    refine ⟨handle :: handles, stance :: stances, after, ?_, ?_, ?_, .cons ?_ shown, ?_⟩
    · rw [List.mapM_cons, stands]
      change (branches.mapM Branch.stance >>= fun others => pure (stance :: others)) = _
      rw [stand]
      rfl
    · refine (Act.bind_of_ok (Act.discard_of_ok run)).trans (later.trans ?_)
      simp only [Tree.keep, joined]
    · exact joined ▸ soundAfter
    · exact keptAfter handle (List.mem_append_right _ List.mem_cons_self) stance lies
    · exact fun other member stance lies =>
        keptAfter other (List.mem_append_left _ member) stance (kept other member stance lies)

/-- All objects are cleared away. -/
theorem clear_hosted (sound : hosting.sound tree.branches before) :
    ∃ after, clear scene ⟨before, log, tree⟩ = .ok () ⟨after, log, tree.forget.keep []⟩ ∧
      hosting.sound [] after := by
  have removes (handles : List H) (state : σ) (tree : Tree H R J)
      (registered : tree.branches = handles) (sound : hosting.sound handles state) :
      ∃ after, removeAll scene handles ⟨state, log, tree⟩ = .ok () ⟨after, log, tree.keep []⟩ ∧
        hosting.sound [] after := by
    induction handles generalizing state tree with
    | nil =>
      have same : tree.keep [] = tree := registered ▸ rfl
      exact ⟨state, by rw [same]; rfl, sound⟩
    | cons handle handles inductionHypothesis =>
      rcases hosting.removes sound with ⟨between, removed, stillSound⟩
      rcases inductionHypothesis between (tree.keep handles) rfl stillSound with
          ⟨after, later, empty⟩
      exact ⟨after, (removeAll_of_ok removed handles log tree).trans later, empty⟩
  exact removes tree.branches before tree.forget rfl sound

end

/-! ## What becomes of it -/

/-- A plot in which a tree with the settings is refused nothing, and its objects lie as its branches
do. -/
structure Kept {scene : Scene σ H R} {settings : Settings R} (hosting : scene.Hosting settings)
    (plot : Plot σ H R J) : Prop where
  given : plot.tree.settings = settings
  sound : hosting.sound plot.tree.branches plot.scene
  lies : ∃ stances, plot.tree.descriptors.mapM Branch.stance = .ok stances ∧
    List.Forall₂ (hosting.lies plot.scene) plot.tree.branches stances

variable {scene : Scene σ H R} {settings : Settings R} {hosting : scene.Hosting settings}
  {plot : Plot σ H R J}

theorem Kept.clear (kept : Kept hosting plot) :
    ∃ reached, Plot.clear scene plot = .ok () reached ∧
      reached.tree = plot.tree.forget.keep [] ∧ Kept hosting reached := by
  rcases clear_hosted hosting plot.log plot.tree kept.sound with ⟨after, run, empty⟩
  exact ⟨_, run, rfl, kept.given, empty, [], rfl, .nil⟩

variable [AngleSource J Float]

/-- What comes of growing a tree anew that is refused nothing: what is asked for may not be valid, the
walk may fail, or the tree is complete. -/
inductive Hosted (tree : Tree H R J) (start iterations : Option Value) :
    Option Failure → Tree H R J → Prop
  | refused {failure : Failure}
    (invalid : (tree.settings.overridden start iterations).validate = .error failure) :
    Hosted tree start iterations (some failure) tree
  | lost {growth : Growth} {failure : Failure} {jitter : J}
    (valid : (tree.settings.overridden start iterations).validate = .ok growth)
    (walk : (interpret growth.word : Act J (Turtle Float32 Float J)) tree.jitter =
      .error failure jitter) :
    Hosted tree start iterations (some failure) (tree.leftBy growth failure jitter)
  | grown {growth : Growth} {turtle : Turtle Float32 Float J} {jitter : J}
    {branches : List (Branch Float32 Float)} {handles : List H}
    (valid : (tree.settings.overridden start iterations).validate = .ok growth)
    (walk : interpret growth.word tree.jitter = .ok turtle jitter)
    (among : Branch.ofPoints turtle.points Branch.standardRadius = .ok branches) :
    Hosted tree start iterations none
      ((((tree.forget.keep []).sow growth).shape turtle.points branches jitter).keep handles)

/-- Growing anew comes to one of the things that `Hosted` tells. -/
theorem Kept.regenerate (kept : Kept hosting plot) (start iterations : Option Value) :
    ∃ failure reached, Plot.regenerate scene start iterations plot = Act.ended failure reached ∧
      Hosted plot.tree start iterations failure reached.tree ∧ Kept hosting reached := by
  cases checked : (plot.tree.settings.overridden start iterations).validate with
  | error failure =>
    exact ⟨some failure, plot, regenerateBetween_of_invalid scene scene plot checked,
      .refused checked, kept⟩
  | ok growth =>
    rcases clear_hosted hosting plot.log plot.tree kept.sound with ⟨between, cleared, empty⟩
    have onward := regenerateBetween_of_cleared scene scene plot checked cleared
    cases walk : (interpret growth.word : Act J (Turtle Float32 Float J)) plot.tree.jitter with
    | error failure jitter =>
      have run : grow scene growth ⟨between, plot.log, plot.tree.forget.keep []⟩ =
          .error failure ⟨between, plot.log ++ growth.passEvents,
            { (plot.tree.forget.keep []).sow growth with jitter := jitter }⟩ :=
        (grow_eq ..).trans (Act.bind_of_error (growPoints_of_error _ walk _ _))
      have lost := Hosted.lost checked walk
      unfold Tree.leftBy at lost
      cases recoverable : failure.recoverable with
      | false =>
        rw [recoverable] at lost
        exact ⟨some failure, _, onward.trans (Act.bind_of_error
          (orTakenBack_of_interruption scene run recoverable)), lost, kept.given, empty, [], rfl,
          .nil⟩
      | true =>
        rw [recoverable] at lost
        have back := orTakenBack_of_error scene run recoverable
        exact ⟨some failure, ⟨between, _, { plot.tree.forget.keep [] with jitter := jitter }⟩,
          onward.trans (Act.bind_of_error (back.trans rfl)), lost, kept.given, empty, [], rfl, .nil⟩
    | ok turtle jitter =>
      have walked : interpret growth.word (plot.tree.forget.keep []).jitter = .ok turtle jitter :=
        walk
      rcases grow_of_walk scene walked with ⟨branches, events, among, -, spatial, -, grows⟩
      rcases createBranches_hosted hosting (plot.log ++ events)
          (((plot.tree.forget.keep []).sow growth).shape turtle.points branches jitter) kept.given
          empty branches spatial with ⟨handles, stances, after, stand, made, sound, lies, -⟩
      have run := (grows between plot.log).trans made
      exact ⟨none, _, onward.trans (Act.bind_of_ok (orTakenBack_of_ok scene run)),
        .grown checked walk among, kept.given, sound, stances, stand, lies⟩

end Plot

/-! ## Two trees -/

/-- Two trees that are to be grown from the same, have the same sways left, and remember the same. -/
structure Tree.Twins (tree : Tree H R J) (other : Tree K S J) : Prop where
  start : tree.settings.start = other.settings.start
  iterations : tree.settings.iterations = other.settings.iterations
  jitter : tree.jitter = other.jitter
  rules : tree.rules = other.rules
  expanded : tree.expanded = other.expanded
  points : tree.points = other.points
  descriptors : tree.descriptors = other.descriptors

theorem Tree.Twins.validate {tree : Tree H R J} {other : Tree K S J} (twins : tree.Twins other)
    (start iterations : Option Value) :
    (tree.settings.overridden start iterations).validate =
      (other.settings.overridden start iterations).validate := by
  simp only [Settings.validate, Settings.overridden, twins.start, twins.iterations]

namespace Plot

variable [AngleSource J Float] {tree regrown : Tree H R J} {other beside : Tree K S J}

/-- What comes of growing twins anew is the same, and they stay twins. -/
theorem Hosted.twins {start iterations : Option Value} {failure loss : Option Failure}
    (one : Hosted tree start iterations failure regrown)
    (two : Hosted other start iterations loss beside) (twins : tree.Twins other) :
    failure = loss ∧ regrown.Twins beside := by
  have same := twins.validate start iterations
  have sways := twins.jitter
  cases one with
  | refused invalid =>
    rw [same] at invalid
    cases two with
    | refused again =>
      cases invalid.symm.trans again
      exact ⟨rfl, twins⟩
    | lost valid => cases invalid.symm.trans valid
    | grown valid => cases invalid.symm.trans valid
  | @lost growth failure jitter valid walk =>
    rw [same] at valid
    rw [sways] at walk
    cases two with
    | refused invalid => cases invalid.symm.trans valid
    | lost again walked =>
      cases valid.symm.trans again
      cases walk.symm.trans walked
      refine ⟨rfl, ?_⟩
      unfold Tree.leftBy
      split <;> exact ⟨twins.start, twins.iterations, rfl, rfl, rfl, rfl, rfl⟩
    | grown again walked =>
      cases valid.symm.trans again
      cases walk.symm.trans walked
  | grown valid walk among =>
    rw [same] at valid
    rw [sways] at walk
    cases two with
    | refused invalid => cases invalid.symm.trans valid
    | lost again walked =>
      cases valid.symm.trans again
      cases walk.symm.trans walked
    | grown again walked built =>
      cases valid.symm.trans again
      cases walk.symm.trans walked
      cases among.symm.trans built
      exact ⟨rfl, twins.start, twins.iterations, rfl, rfl, rfl, rfl, rfl⟩

/-- What comes of requests that are served one after the other. -/
def outcomes (scene : Scene σ H R) : List Request → Plot σ H R J → List (Except Failure Unit)
  | [], _ => []
  | request :: requests, plot =>
    (serve scene request).outcome plot ::
      outcomes scene requests ((serve scene request).reached plot)

variable {scene : Scene σ H R} {settings : Settings R} {hosting : scene.Hosting settings}
  {stage : Scene τ K S} {terms : Settings S} {harbouring : stage.Hosting terms}
  {plot : Plot σ H R J} {fellow : Plot τ K S J}

/-- Twins that are refused nothing answer a request alike, and stay twins that are refused
nothing. -/
theorem serve_in_step (kept : Kept hosting plot) (keeps : Kept harbouring fellow)
    (twins : plot.tree.Twins fellow.tree) (request : Request) :
    (serve scene request).outcome plot = (serve stage request).outcome fellow ∧
      Kept hosting ((serve scene request).reached plot) ∧
      Kept harbouring ((serve stage request).reached fellow) ∧
      ((serve scene request).reached plot).tree.Twins
        ((serve stage request).reached fellow).tree := by
  cases request with
  | clear =>
    rcases kept.clear with ⟨cleared, run, left, keptAfter⟩
    rcases keeps.clear with ⟨emptied, ran, rest, keepsAfter⟩
    have first : serve scene .clear plot = Act.settled (.ok ()) cleared := run
    have second : serve stage .clear fellow = Act.settled (.ok ()) emptied := ran
    rw [Act.outcome_of_settled first, Act.outcome_of_settled second, Act.reached_of_settled first,
      Act.reached_of_settled second, left, rest]
    exact ⟨rfl, keptAfter, keepsAfter, twins.start, twins.iterations, twins.jitter, rfl, rfl, rfl,
      rfl⟩
  | regenerate start iterations =>
    rcases kept.regenerate start iterations with ⟨failure, grown, run, hosted, keptAfter⟩
    rcases keeps.regenerate start iterations with ⟨loss, raised, ran, harboured, keepsAfter⟩
    have first : serve scene (.regenerate start iterations) plot = Act.ended failure grown := run
    have second : serve stage (.regenerate start iterations) fellow = Act.ended loss raised := ran
    rcases hosted.twins harboured twins with ⟨rfl, twinsAfter⟩
    rw [Act.outcome_of_settled first, Act.outcome_of_settled second, Act.reached_of_settled first,
      Act.reached_of_settled second]
    exact ⟨rfl, keptAfter, keepsAfter, twinsAfter⟩

/-- Twins that are refused nothing answer any requests alike. -/
theorem afterAll_in_step (requests : List Request) (kept : Kept hosting plot)
    (keeps : Kept harbouring fellow) (twins : plot.tree.Twins fellow.tree) :
    outcomes scene requests plot = outcomes stage requests fellow ∧
      Kept hosting (afterAll scene requests plot) ∧
      Kept harbouring (afterAll stage requests fellow) ∧
      (afterAll scene requests plot).tree.Twins (afterAll stage requests fellow).tree := by
  induction requests generalizing plot fellow with
  | nil => exact ⟨rfl, kept, keeps, twins⟩
  | cons request requests inductionHypothesis =>
    rcases serve_in_step kept keeps twins request with ⟨same, keptNext, keepsNext, twinsNext⟩
    rcases inductionHypothesis keptNext keepsNext twinsNext with ⟨others, after⟩
    exact ⟨List.cons_eq_cons.mpr ⟨same, others⟩, after⟩

omit [AngleSource J Float] in
/-- The objects of twins lie alike, one by one. -/
theorem Kept.paired (kept : Kept hosting plot) (keeps : Kept harbouring fellow)
    (twins : plot.tree.Twins fellow.tree) :
    List.Forall₂ (fun handle other =>
        ∃ stance, hosting.lies plot.scene handle stance ∧ harbouring.lies fellow.scene other stance)
      plot.tree.branches fellow.tree.branches := by
  rcases kept.lies with ⟨stances, stand, lies⟩
  rcases keeps.lies with ⟨others, standing, lie⟩
  rw [twins.descriptors] at stand
  cases stand.symm.trans standing
  clear stand standing
  generalize plot.tree.branches = handles at lies ⊢
  generalize fellow.tree.branches = others at lie ⊢
  induction lies generalizing others with
  | nil =>
    cases lie
    exact .nil
  | @cons handle stance _ _ lies _ inductionHypothesis =>
    cases lie with
    | cons lie rest => exact .cons ⟨stance, lies, lie⟩ (inductionHypothesis _ rest)

end Plot
end Arbor
