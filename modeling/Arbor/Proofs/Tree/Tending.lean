import Arbor.Proofs.Tree.Accounting
import Arbor.Proofs.Tree.Requests

/-!
# Trees among other objects

A tree does not know what else is live in its scene.  Still it deals only with its own objects:
those that it had registered and those that it makes meanwhile, and a scene that keeps account of
its objects makes none that is already there.  `Tending` says what this comes to for one tree, by
its registered handles and the live objects before and after some deeds.  It holds of every stage
of a regeneration and passes from one stage to the next, so it holds of whatever a tree is used for.
-/

namespace Arbor

variable {σ H R J : Type}

/-- Whatever was to be removed has been removed. -/
def Willing (deeds : List (Deed H R)) : Prop :=
  ∀ removal handle failure, Deed.destroy removal handle (.error failure) ∉ deeds

/-- The registered objects are live and registered once. -/
structure Holding (registered : List H) (live : Set H) : Prop where
  nodup : registered.Nodup
  live : ∀ handle ∈ registered, handle ∈ live

/-- The deeds of a tree lead from its registered handles and the live objects to others.  They pass
over the live objects that are not the tree's, which stay live and do not become the tree's, and as
long as the scene is willing they add none to these. -/
structure Tending (deeds : List (Deed H R)) (registered : List H) (live : Set H)
    (registeredAfter : List H) (liveAfter : Set H) : Prop where
  holding : Holding registeredAfter liveAfter
  spares : ∀ handle ∈ live, handle ∉ registered →
    handle ∈ liveAfter ∧ handle ∉ registeredAfter ∧ handle ∉ passed deeds
  adds : Willing deeds →
    ∀ handle ∈ liveAfter, handle ∉ registeredAfter → handle ∈ live ∧ handle ∉ registered

section

variable {first second : List (Deed H R)}

theorem Willing.left (willing : Willing (first ++ second)) : Willing first :=
  fun removal handle failure member =>
    willing removal handle failure (List.mem_append_left _ member)

theorem Willing.right (willing : Willing (first ++ second)) : Willing second :=
  fun removal handle failure member =>
    willing removal handle failure (List.mem_append_right _ member)

end

/-- A willing scene lets every object be taken back. -/
theorem TakingBack.destroyed_of_willing {handles : List H} {deeds : List (Deed H R)}
    {losses : List Failure} {interruption : Option Failure}
    (back : TakingBack handles deeds losses interruption) (willing : Willing deeds) :
    destroyed deeds = handles := by
  induction back with
  | done => rfl
  | interrupted handle => exact absurd (List.mem_singleton_self _) (willing _ _ _)
  | @removed handle handles deeds _ _ _ inductionHypothesis =>
    have later : Willing deeds := fun removal other failure member =>
      willing removal other failure (List.mem_cons_of_mem _ member)
    exact congrArg (handle :: ·) (inductionHypothesis later)
  | lost handle => exact absurd List.mem_cons_self (willing _ _ _)

/-! ## Tending -/

namespace Tending

variable {first second deeds : List (Deed H R)} {registered between left : List H}
  {live middle after : Set H}

/-- Where nothing is done nothing changes. -/
theorem idle (holding : Holding registered live) :
    Tending ([] : List (Deed H R)) registered live registered live :=
  ⟨holding, fun _ lives other => ⟨lives, other, List.not_mem_nil⟩,
    fun _ _ lives other => ⟨lives, other⟩⟩

theorem append (begun : Tending first registered live between middle)
    (done : Tending second between middle left after) :
    Tending (first ++ second) registered live left after := by
  refine ⟨done.holding, fun handle lives other => ?_, fun willing handle lives other => ?_⟩
  · rcases begun.spares handle lives other with ⟨stays, still, early⟩
    rcases done.spares handle stays still with ⟨stands, apart, late⟩
    refine ⟨stands, apart, fun member => ?_⟩
    rw [passed_append] at member
    exact (List.mem_append.mp member).elim early late
  · rcases done.adds willing.right handle lives other with ⟨stood, apart⟩
    exact begun.adds willing.left handle stood apart

/-- Where nothing is made, and only the tree's own objects are removed, they are tended if what
stays registered was not removed and everything else was, at least by a willing scene. -/
theorem of_made_nil (holding : Holding registered live) (accounts : Accounts live deeds after)
    (barren : made deeds = []) (own : passed deeds ⊆ registered)
    (sublist : left.Sublist registered) (stands : ∀ handle ∈ left, handle ∉ destroyed deeds)
    (parts : Willing deeds → registered ⊆ destroyed deeds ++ left) :
    Tending deeds registered live left after := by
  have lives := accounts.of_made_nil barren
  have gone := List.Subset.trans (destroyed_subset_passed deeds) own
  refine ⟨⟨sublist.nodup holding.nodup, fun handle member => ?_⟩, fun handle lived other => ?_,
    fun willing handle stays other => ?_⟩
  · exact (lives handle).mpr ⟨holding.live handle (sublist.subset member), stands handle member⟩
  · exact ⟨(lives handle).mpr ⟨lived, fun removed => other (gone removed)⟩,
      fun member => other (sublist.subset member), fun member => other (own member)⟩
  · rcases (lives handle).mp stays with ⟨lived, kept⟩
    exact ⟨lived, fun member =>
      (List.mem_append.mp (parts willing member)).elim kept other⟩

/-- Where nothing is removed, and only what is made is dealt with, a tree that registers what is
made tends to its objects. -/
theorem of_destroyed_nil (holding : Holding registered live) (accounts : Accounts live deeds after)
    (kept : destroyed deeds = []) (own : passed deeds ⊆ made deeds) :
    Tending deeds registered live (registered ++ made deeds) after := by
  rcases accounts.of_destroyed_nil kept with ⟨lives, nodup, fresh⟩
  refine ⟨⟨List.nodup_append.mpr ⟨holding.nodup, nodup, ?_⟩, fun handle member => ?_⟩,
    fun handle lived other => ?_, fun _ handle stays other => ?_⟩
  · intro handle old new member same
    exact fresh new member (same ▸ holding.live handle old)
  · exact (lives handle).mpr ((List.mem_append.mp member).imp_left (holding.live handle))
  · have unmade : handle ∉ made deeds := fun member => fresh handle member lived
    exact ⟨(lives handle).mpr (Or.inl lived),
      fun member => (List.mem_append.mp member).elim other unmade,
      fun member => unmade (own member)⟩
  · rcases not_or.mp (List.mem_append.not.mp other) with ⟨unregistered, unmade⟩
    exact ⟨((lives handle).mp stays).resolve_right unmade, unregistered⟩

end Tending

section

variable {handles left : List H} {deeds : List (Deed H R)} {live after : Set H}

/-- Clearing tends to the objects of a tree, however far it comes. -/
theorem Clearing.tending {failure : Option Failure} (clearing : Clearing handles deeds left failure)
    (holding : Holding handles live) (accounts : Accounts live deeds after) :
    Tending deeds handles live left after := by
  have parts := clearing.destroyed_append_left
  rcases List.nodup_append.mp (parts.symm ▸ holding.nodup) with ⟨-, -, apart⟩
  refine .of_made_nil holding accounts clearing.made_nil clearing.passed_subset
    (parts ▸ List.sublist_append_right _ _) ?_ fun _ => parts ▸ List.Subset.refl _
  exact fun handle stays removed => apart handle removed handle stays rfl

/-- Taking back tends to the objects of a tree, whatever the scene answers. -/
theorem TakingBack.tending {losses : List Failure} {interruption : Option Failure}
    (back : TakingBack handles deeds losses interruption) (holding : Holding handles live)
    (accounts : Accounts live deeds after) : Tending deeds handles live [] after := by
  refine .of_made_nil holding accounts back.made_nil back.passed_subset (List.nil_sublist _)
    (fun _ member => absurd member List.not_mem_nil) fun willing => ?_
  rw [back.destroyed_of_willing willing, List.append_nil]
  exact List.Subset.refl _

end

/-- Making a single object tends to the objects of a tree, whether or not it can be placed. -/
theorem Making.tending {settings : Settings R} {branch : Branch Float32 Float}
    {deeds : List (Deed H R)} {registered handles : List H} {result : Except Failure H}
    {live after : Set H} (making : Making settings branch deeds handles result)
    (holding : Holding registered live) (accounts : Accounts live deeds after) :
    Tending deeds registered live (registered ++ handles) after := by
  rw [← making.made_eq]
  exact .of_destroyed_nil holding accounts (destroyed_of_attempted_nil making.attempted_nil)
    (making.made_eq ▸ making.passed_subset)

section

variable [AngleSource J Float] {tree regrown : Tree H R J} {deeds : List (Deed H R)}
  {live after : Set H}

theorem Growing.tending {growth : Growth} {failure : Option Failure}
    (growing : Growing tree growth deeds regrown failure) (holding : Holding tree.branches live)
    (accounts : Accounts live deeds after) :
    Tending deeds tree.branches live regrown.branches after :=
  growing.branches_eq ▸ .of_destroyed_nil holding accounts
    (destroyed_of_attempted_nil growing.attempted_nil) growing.passed_subset

/-- Growing a tree anew tends to its objects, however it ends. -/
theorem Regeneration.tending {start iterations : Option Value} {warnings : List Event}
    {failure : Option Failure}
    (regeneration : Regeneration tree start iterations deeds regrown warnings failure)
    (holding : Holding tree.branches live) (accounts : Accounts live deeds after) :
    Tending deeds tree.branches live regrown.branches after := by
  cases regeneration with
  | refused invalid =>
    cases accounts
    exact .idle holding
  | stuck valid clearing => exact clearing.tending holding accounts
  | complete valid clearing growing =>
    rcases accounts.split with ⟨middle, begun, done⟩
    have cleared := clearing.tending holding begun
    exact cleared.append (growing.tending cleared.holding done)
  | interrupted valid clearing growing unrecoverable =>
    rcases accounts.split with ⟨middle, begun, done⟩
    have cleared := clearing.tending holding begun
    exact cleared.append (growing.tending cleared.holding done)
  | abandoned valid clearing growing recoverable taking =>
    rcases accounts.split with ⟨between, accounts, last⟩
    rcases accounts.split with ⟨middle, begun, done⟩
    have cleared := clearing.tending holding begun
    have grown := cleared.append (growing.tending cleared.holding done)
    exact grown.append (taking.tending grown.holding last)

theorem Served.tending {request : Request} (served : Served tree request deeds regrown)
    (holding : Holding tree.branches live) (accounts : Accounts live deeds after) :
    Tending deeds tree.branches live regrown.branches after := by
  cases served with
  | regenerated regeneration => exact regeneration.tending holding accounts
  | cleared clearing => exact clearing.tending holding accounts

end

/-! ## Tasks -/

/-- A tree with other settings and another source of sways. -/
def Tree.tune (settings : Settings R) (jitter : J) (tree : Tree H R J) : Tree H R J :=
  { tree with settings := settings, jitter := jitter }

/-- What a tree is used for besides what is asked of it: the object of a single branch may be made
for it, and its settings and sways may be replaced. -/
inductive Task (R J : Type) where
  | serve (request : Request)
  | add (branch : Branch Float32 Float)
  | tune (settings : Settings R) (jitter : J)

namespace Plot

variable [AngleSource J Float]

/-- Carry out a task. -/
def work (scene : Scene σ H R) : Task R J → Act (Plot σ H R J) Unit
  | .serve request => serve scene request
  | .add branch => discard (createBranch scene branch)
  | .tune settings jitter => change (Tree.tune settings jitter)

/-- Carry out a task, and note what is done to the scene. -/
def workWatched (scene : Scene σ H R) : Task R J → Act (Plot (σ × List (Deed H R)) H R J) Unit
  | .serve request => serveWatched scene request
  | .add branch => discard (createBranch (scene.watched .clearing) branch)
  | .tune settings jitter => change (Tree.tune settings jitter)

/-- A tree tends to its objects in whatever is done with it. -/
theorem work_tending {scene : Scene σ H R} (ledger : scene.Ledger) (task : Task R J)
    (plot : Plot σ H R J) (sound : ledger.sound plot.scene)
    (holding : Holding plot.tree.branches (ledger.live plot.scene)) :
    ledger.sound ((work scene task).reached plot).scene ∧
      Tending (deedsOf (workWatched scene task) plot) plot.tree.branches (ledger.live plot.scene)
        ((work scene task).reached plot).tree.branches
        (ledger.live ((work scene task).reached plot).scene) := by
  cases task with
  | serve request =>
    rcases serve_served scene request plot with
        ⟨deeds, failure, final, run, watched, performs, served⟩
    have next : (work scene (.serve request)).reached plot = final := Act.reached_of_settled run
    have noted : deedsOf (workWatched scene (.serve request)) plot = deeds := watched
    rcases ledger.accounts sound performs with ⟨stillSound, accounts⟩
    rw [next, noted]
    exact ⟨stillSound, served.tending holding accounts⟩
  | add branch =>
    rcases createBranch_making scene .clearing branch plot.scene [] plot.log plot.tree with
        ⟨deeds, handles, result, after, making, performs, run⟩
    have plain := run_of_watched (createBranch_mirrors (scene.watched_mirrors .clearing) branch) run
    have next := (Act.reached_discard (createBranch scene branch) plot).trans
      (Act.reached_of_settled plain)
    have noted := (deedsOf_discard _ plot).trans (deedsOf_of_run run)
    rcases ledger.accounts sound performs with ⟨stillSound, accounts⟩
    unfold work workWatched
    rw [next, noted]
    exact ⟨stillSound, making.tending holding accounts⟩
  | tune settings jitter => exact ⟨sound, .idle holding⟩

end Plot
end Arbor
