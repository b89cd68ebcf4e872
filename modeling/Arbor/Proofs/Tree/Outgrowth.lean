import Arbor.Proofs.Settings.Checking
import Arbor.Proofs.Tree.Surfacing
import Arbor.Proofs.Walk.Sizes

/-!
# What a complete growth comes to

A tree that grows to its end has asked the same three things of the scene for every branch, in the
order of the branches: to make an object, to place it as the branch lies, and to move it to where
the settings say.  `Outgrowth` puts together what such a tree remembers and what was asked of the
scene for it; all of it is settled by the settings, the start word, the passes and the sways.

A tree grows to its end if what it is asked for is valid, its word can be walked, and no call on the
scene fails.
-/

namespace Arbor

variable {σ H R J : Type}

/-- Where an object is placed, how it is turned and how it is scaled. -/
structure Stance where
  position : Space.Vec Float32
  turns : Space.Turns Float32
  scale : Space.Vec Float32

/-- The stance of the object of a branch. -/
def Branch.stance (branch : Branch Float32 Float) : Except Failure Stance :=
  branch.turns.map fun turns => ⟨branch.position, turns, branch.scale⟩

namespace Deed

/-- The stance that an object was to be given. -/
def stance? : Deed H R → Option Stance
  | setTransform _ position turns scale _ => some ⟨position, turns, scale⟩
  | _ => none

/-- What an object was to be moved under. -/
def destination? : Deed H R → Option (Option R)
  | reparent _ parent _ => some parent
  | _ => none

end Deed

/-- The stances that were given, in order. -/
def stances (deeds : List (Deed H R)) : List Stance := deeds.filterMap Deed.stance?

/-- What objects were moved under, in order. -/
def destinations (deeds : List (Deed H R)) : List (Option R) := deeds.filterMap Deed.destination?

theorem stances_append (first second : List (Deed H R)) :
    stances (first ++ second) = stances first ++ stances second := List.filterMap_append

theorem destinations_append (first second : List (Deed H R)) :
    destinations (first ++ second) = destinations first ++ destinations second :=
  List.filterMap_append

/-! ## Objects that are all made -/

theorem movedHandle_eq_ok {handle other : H} {result : Except Failure Unit}
    (moved : movedHandle handle result = .ok other) : result = .ok () ∧ handle = other := by
  cases result with
  | error failure => cases moved
  | ok value =>
    cases moved
    exact ⟨rfl, rfl⟩

/-- What is asked of the scene for a branch whose object is made, placed and moved. -/
def plantingDeeds (settings : Settings R) (handle : H) (stance : Stance) : List (Deed H R) :=
  [.instantiate settings.prefab settings.parent (.ok handle),
    .setTransform handle stance.position stance.turns stance.scale (.ok ()),
    .reparent handle settings.destination (.ok ())]

theorem Placing.of_ok {settings : Settings R} {branch : Branch Float32 Float} {handle other : H}
    {deeds : List (Deed H R)} (placing : Placing settings branch handle deeds (.ok other)) :
    ∃ stance, branch.stance = .ok stance ∧ handle = other ∧
      .instantiate settings.prefab settings.parent (.ok handle) :: deeds =
        plantingDeeds settings handle stance := by
  generalize finished : Except.ok other = result at placing
  cases placing with
  | unturned => cases finished
  | unplaced => cases finished
  | @moved turns heading result =>
    rcases movedHandle_eq_ok finished.symm with ⟨rfl, rfl⟩
    refine ⟨⟨branch.position, turns, branch.scale⟩, ?_, rfl, rfl⟩
    rw [Branch.stance, heading]
    rfl

/-- When the object of a branch is made without a failure, it takes the stance of the branch. -/
theorem Making.of_ok {settings : Settings R} {branch : Branch Float32 Float}
    {deeds : List (Deed H R)} {handles : List H} {handle : H}
    (making : Making settings branch deeds handles (.ok handle)) :
    ∃ stance, branch.stance = .ok stance ∧ handles = [handle] ∧
      deeds = plantingDeeds settings handle stance := by
  generalize finished : Except.ok handle = result at making
  cases making with
  | refused => cases finished
  | registered placing =>
    subst finished
    rcases placing.of_ok with ⟨stance, stands, rfl, asked⟩
    exact ⟨stance, stands, rfl, asked⟩

/-- The objects of branches are made, placed and moved by the deeds, one after the other. -/
inductive Planting (settings : Settings R) :
    List (Branch Float32 Float) → List (Deed H R) → List H → Prop
  | done : Planting settings [] [] []
  | next {branch : Branch Float32 Float} {branches : List (Branch Float32 Float)} {handle : H}
    {handles : List H} {stance : Stance} {deeds : List (Deed H R)}
    (stands : branch.stance = .ok stance) (later : Planting settings branches deeds handles) :
    Planting settings (branch :: branches) (plantingDeeds settings handle stance ++ deeds)
      (handle :: handles)

theorem MakingAll.planting {settings : Settings R} {branches : List (Branch Float32 Float)}
    {deeds : List (Deed H R)} {handles : List H}
    (making : MakingAll settings branches deeds handles none) :
    Planting settings branches deeds handles := by
  generalize finished : none = failure at making
  induction making with
  | done => exact .done
  | stopped => cases finished
  | next first _ inductionHypothesis =>
    rcases first.of_ok with ⟨stance, stands, rfl, rfl⟩
    exact .next stands (inductionHypothesis finished)

namespace Planting

variable {settings : Settings R} {branches : List (Branch Float32 Float)} {deeds : List (Deed H R)}
  {handles : List H}

theorem length_eq (planting : Planting settings branches deeds handles) :
    handles.length = branches.length := by
  induction planting with
  | done => rfl
  | next _ _ inductionHypothesis => exact congrArg Nat.succ inductionHypothesis

/-- Every object is given the stance of its branch. -/
theorem stances_eq (planting : Planting settings branches deeds handles) :
    branches.mapM Branch.stance = .ok (stances deeds) := by
  induction planting with
  | done => rfl
  | @next branch branches _ _ stance deeds stands _ inductionHypothesis =>
    rw [List.mapM_cons, stands]
    change (branches.mapM Branch.stance >>= fun others => pure (stance :: others)) = _
    rw [inductionHypothesis]
    rfl

/-- Every object is moved to where the settings say. -/
theorem destinations_eq (planting : Planting settings branches deeds handles) :
    destinations deeds = List.replicate branches.length settings.destination := by
  induction planting with
  | done => rfl
  | next _ _ inductionHypothesis =>
    exact congrArg (settings.destination :: ·) inductionHypothesis

end Planting

/-- Clearing gives no object a stance. -/
theorem Clearing.stances_nil {handles left : List H} {deeds : List (Deed H R)}
    {failure : Option Failure} (clearing : Clearing handles deeds left failure) :
    stances deeds = [] := by
  induction clearing with
  | done => rfl
  | stuck => rfl
  | next _ _ inductionHypothesis => exact inductionHypothesis

/-- Clearing moves no object. -/
theorem Clearing.destinations_nil {handles left : List H} {deeds : List (Deed H R)}
    {failure : Option Failure} (clearing : Clearing handles deeds left failure) :
    destinations deeds = [] := by
  induction clearing with
  | done => rfl
  | stuck => rfl
  | next _ _ inductionHypothesis => exact inductionHypothesis

/-! ## Complete growths -/

section

variable [AngleSource J Float] {tree regrown : Tree H R J} {growth : Growth}
  {start iterations : Option Value} {deeds : List (Deed H R)} {warnings : List Event}

/-- What a growth by these settings and sways has come to when it is complete: what the tree
remembers, and what was asked of the scene for its branches. -/
structure Outgrowth (settings : Settings R) (growth : Growth) (jitter : J)
    (deeds : List (Deed H R)) (regrown : Tree H R J) : Prop where
  rules : regrown.rules = some Rules.Table.branching
  expanded : regrown.expanded = growth.word
  walk : ∃ turtle : Turtle Float32 Float J,
    interpret growth.word jitter = .ok turtle regrown.jitter ∧ regrown.points = turtle.points
  descriptors : Branch.ofPoints regrown.points Branch.standardRadius = .ok regrown.descriptors
  stances : regrown.descriptors.mapM Branch.stance = .ok (stances deeds)
  destinations : destinations deeds =
    List.replicate regrown.descriptors.length settings.destination
  branches : regrown.branches.length = regrown.descriptors.length

/-- A bare tree that grows without a failure has built branches among the points of its walk and
made their objects. -/
theorem Growing.planting (growing : Growing tree growth deeds regrown none)
    (bare : tree.branches = []) :
    ∃ (turtle : Turtle Float32 Float J) (jitter : J) (branches : List (Branch Float32 Float))
      (handles : List H), interpret growth.word tree.jitter = .ok turtle jitter ∧
      Branch.ofPoints turtle.points Branch.standardRadius = .ok branches ∧
      Planting tree.settings branches deeds handles ∧
      regrown = ((tree.sow growth).shape turtle.points branches jitter).keep handles := by
  cases growing with
  | built walk among _ making =>
    rw [bare]
    exact ⟨_, _, _, _, walk, among, making.planting, rfl⟩

theorem Regeneration.outgrowth
    (regeneration : Regeneration tree start iterations deeds regrown warnings none) :
    ∃ growth, (tree.settings.overridden start iterations).validate = .ok growth ∧
      Outgrowth tree.settings growth tree.jitter deeds regrown := by
  cases regeneration with
  | complete valid clearing growing =>
    rcases growing.planting rfl with ⟨turtle, jitter, branches, handles, walk, among, planting, rfl⟩
    refine ⟨_, valid, rfl, rfl, ⟨turtle, walk, rfl⟩, among, ?_, ?_, planting.length_eq⟩
    · rw [stances_append, clearing.stances_nil, List.nil_append]
      exact planting.stances_eq
    · rw [destinations_append, clearing.destinations_nil, List.nil_append]
      exact planting.destinations_eq

/-- No call fails in a regeneration that is complete. -/
theorem Regeneration.unfailing
    (regeneration : Regeneration tree start iterations deeds regrown warnings none) :
    firstFailure? deeds = none := by
  cases regeneration with
  | complete valid clearing growing =>
    rw [firstFailure?_append, Option.or_eq_none_iff]
    refine ⟨Option.map_eq_none_iff.mp clearing.told.symm, ?_⟩
    cases growing with
    | built walk among spatial making =>
      exact Option.map_eq_none_iff.mp (making.told spatial).symm

/-- A tree whose word can be walked is lost only if some call fails. -/
theorem Growing.of_unfailing {failure : Option Failure} {turtle : Turtle Float32 Float J}
    {jitter : J} (growing : Growing tree growth deeds regrown failure)
    (walk : interpret growth.word tree.jitter = .ok turtle jitter)
    (calls : firstFailure? deeds = none) : failure = none := by
  cases growing with
  | lost lost =>
    cases walk.symm.trans lost
  | built _ _ spatial making => rw [making.told spatial, calls, Option.map_none]

/-- A tree that is asked for something valid, and whose word can be walked, is grown anew unless some
call fails. -/
theorem Regeneration.of_unfailing {failure : Option Failure} {turtle : Turtle Float32 Float J}
    {jitter : J} (regeneration : Regeneration tree start iterations deeds regrown warnings failure)
    (valid : (tree.settings.overridden start iterations).validate = .ok growth)
    (walk : interpret growth.word tree.jitter = .ok turtle jitter)
    (calls : firstFailure? deeds = none) : failure = none := by
  cases regeneration with
  | refused invalid => cases valid.symm.trans invalid
  | stuck _ clearing =>
    have told := clearing.told
    rw [calls] at told
    cases told
  | complete => rfl
  | interrupted again _ growing =>
    cases valid.symm.trans again
    rw [firstFailure?_append, Option.or_eq_none_iff] at calls
    cases growing.of_unfailing walk calls.2
  | abandoned again _ growing =>
    cases valid.symm.trans again
    rw [firstFailure?_append, firstFailure?_append, Option.or_eq_none_iff,
      Option.or_eq_none_iff] at calls
    cases growing.of_unfailing walk calls.1.2

end

namespace Plot

variable [AngleSource J Float] {scene : Scene σ H R} {start iterations : Option Value}
  {plot final : Plot σ H R J}

/-- What growing a tree anew comes to, with the deeds that are noted when it is watched. -/
theorem regenerate_ended (scene : Scene σ H R) (start iterations : Option Value)
    (plot : Plot σ H R J) :
    ∃ warnings failure final,
      Regeneration plot.tree start iterations
        (deedsOf (regenerateWatched scene start iterations) plot) final.tree warnings failure ∧
      scene.Performs plot.scene (deedsOf (regenerateWatched scene start iterations) plot)
        final.scene ∧
      regenerate scene start iterations plot = Act.ended failure final := by
  rcases regenerate_course scene start iterations plot with
      ⟨events, failure, final, regeneration, performs, -, run⟩
  exact ⟨_, failure, final, regeneration, performs, run⟩

/-- What growing a tree anew comes to when it succeeds. -/
theorem regeneration_of_ok (done : regenerate scene start iterations plot = .ok () final) :
    ∃ warnings,
      Regeneration plot.tree start iterations
        (deedsOf (regenerateWatched scene start iterations) plot) final.tree warnings none ∧
      scene.Performs plot.scene (deedsOf (regenerateWatched scene start iterations) plot)
        final.scene := by
  rcases regenerate_ended scene start iterations plot with
      ⟨warnings, failure, reached, regeneration, performs, run⟩
  rw [done] at run
  cases failure with
  | some failure => cases run
  | none =>
    cases run
    exact ⟨warnings, regeneration, performs⟩

/-- A tree whose word can be walked is grown anew if no call on the scene fails. -/
theorem regenerate_of_unfailing {growth : Growth} {turtle : Turtle Float32 Float J} {jitter : J}
    (valid : (plot.tree.settings.overridden start iterations).validate = .ok growth)
    (walk : interpret growth.word plot.tree.jitter = .ok turtle jitter)
    (calls : firstFailure? (deedsOf (regenerateWatched scene start iterations) plot) = none) :
    ∃ final, regenerate scene start iterations plot = .ok () final ∧
      Outgrowth plot.tree.settings growth plot.tree.jitter
        (deedsOf (regenerateWatched scene start iterations) plot) final.tree := by
  rcases regenerate_ended scene start iterations plot with
      ⟨warnings, failure, final, regeneration, -, run⟩
  have finished := regeneration.of_unfailing valid walk calls
  subst finished
  rcases regeneration.outgrowth with ⟨again, validAgain, outgrowth⟩
  cases valid.symm.trans validAgain
  exact ⟨final, run, outgrowth⟩

end Plot

/-! ## How large a tree gets -/

/-- The sizes of a tree that grows from a text whose brackets are matched.  Each pass makes five
segments of one and adds three symbols for each of the four new ones, the walk records two points
for each segment, and there is one branch less than there are segments, but a branch for a single
segment.  When no call on the scene fails, that many objects are registered in the end. -/
theorem tree_sizes [AngleSource J Float] {text : String} (matched : Brackets.Matched text.toList)
    (passes : Nat) :
    let segments := text.toList.count 'F' * 5 ^ passes
    let word := Rules.Table.branching.expand passes text.toList
    let joins := if text.toList.count 'F' = 0 then 0 else if segments = 1 then 1 else segments - 1
    word.length = text.toList.length + 3 * text.toList.count 'F' * (5 ^ passes - 1) ∧
    word.count 'F' = segments ∧
    ∀ jitter : J, AngleSource.Supplies segments jitter →
      (∀ radiusFactor : Float, ∃ (turtle : Turtle Float32 Float J) (left : J)
        (branches : List (Branch Float32 Float)),
        interpret word jitter = .ok turtle left ∧ turtle.points.size = 2 * segments ∧
        Branch.ofPoints turtle.points radiusFactor = .ok branches ∧ branches.length = joins) ∧
      ∀ (scene : Scene σ H R) (plot : Plot σ H R J) (start iterations : Option Value),
        plot.tree.jitter = jitter → start.getD plot.tree.settings.start = .text text →
        iterations.getD plot.tree.settings.iterations = .int passes →
        passes ≤ greatestIterations →
        firstFailure? (Plot.deedsOf (Plot.regenerateWatched scene start iterations) plot) = none →
        ∃ final, Plot.regenerate scene start iterations plot = .ok () final ∧
          final.tree.branches.length = joins := by
  intro segments word joins
  have count : word.count 'F' = segments := Rules.Table.branching_expand_count passes text.toList
  have onward : Brackets.Matched word :=
    (Rules.Table.branching_grouped.expand_nesting passes text.toList).2.mpr matched
  have bare : segments = 0 ↔ text.toList.count 'F' = 0 := by
    have power : 5 ^ passes ≠ 0 := (Nat.pow_pos (by decide)).ne'
    rw [Nat.mul_eq_zero, or_iff_left power]
  have joined : (if word.count 'F' = 0 then 0 else if word.count 'F' = 1 then 1
      else word.count 'F' - 1) = joins := by
    simp only [count, bare, joins]
  refine ⟨Rules.Table.branching_expand_length passes text.toList, count, fun jitter enough => ?_⟩
  rcases interpret_of_matched (C := Float32) onward (count.symm ▸ enough) with
      ⟨turtle, left, walked⟩
  refine ⟨fun radiusFactor => ?_, ?_⟩
  · rcases Branch.ofPoints_spatial (interpret_spatial walked).points radiusFactor with
        ⟨branches, built, -, -⟩
    rcases sizes_of_walk walked built with ⟨size, many⟩
    exact ⟨turtle, left, branches, walked, count ▸ size, built, many.trans joined⟩
  · intro scene plot start iterations sways starts counts few calls
    have valid : (plot.tree.settings.overridden start iterations).validate = .ok _ :=
      Settings.validate_of_text starts counts few
    rcases Plot.regenerate_of_unfailing valid (sways ▸ walked) calls with ⟨final, run, outgrowth⟩
    rcases outgrowth.walk with ⟨grown, again, points⟩
    have among := outgrowth.descriptors
    rw [points] at among
    have many := (sizes_of_walk again among).2
    exact ⟨final, run, outgrowth.branches.trans (many.trans joined)⟩

/-- A scene of whose calls none ever fails. -/
def Scene.Obliging (scene : Scene σ H R) : Prop :=
  ∀ (deed : Deed H R) before after, deed.Happens scene before after → deed.failure? = none

theorem Scene.Obliging.performs {scene : Scene σ H R} (obliging : scene.Obliging)
    {deeds : List (Deed H R)} {before after : σ} (performs : scene.Performs before deeds after) :
    firstFailure? deeds = none := by
  induction deeds generalizing before with
  | nil => rfl
  | cons deed deeds inductionHypothesis =>
    rcases performs with ⟨between, happens, later⟩
    rw [firstFailure?, List.findSome?_cons, obliging deed before between happens]
    exact inductionHypothesis later

namespace Plot

/-- In an obliging scene no call fails when a tree is grown anew. -/
theorem regenerate_unfailing [AngleSource J Float] {scene : Scene σ H R}
    (obliging : scene.Obliging) (start iterations : Option Value) (plot : Plot σ H R J) :
    firstFailure? (deedsOf (regenerateWatched scene start iterations) plot) = none := by
  rcases regenerate_ended scene start iterations plot with ⟨_, _, _, -, performs, -⟩
  exact obliging.performs performs

/-- A scene that does whatever it is asked, and counts the objects that it has made. -/
def welcoming : Scene Nat Nat Value where
  instantiate _ _ := fun made => .ok made (made + 1)
  setTransform _ _ _ _ := pure ()
  reparent _ _ := pure ()
  destroy _ := pure ()

theorem welcoming_obliging : welcoming.Obliging := by
  intro deed before after happens
  cases deed with
  | instantiate prefab parent result =>
    cases result with
    | ok made => rfl
    | error refusal => cases happens
  | setTransform handle position rotation scale result =>
    cases result with
    | ok value => rfl
    | error refusal => cases happens
  | reparent handle parent result =>
    cases result with
    | ok value => rfl
    | error refusal => cases happens
  | destroy removal handle result =>
    cases result with
    | ok value => rfl
    | error refusal => cases happens

/-- A tree in such a scene, which sways by five degrees at every segment. -/
def swaying : Plot Nat Nat Value Jitter where
  scene := 0
  tree := { jitter := .constant (.int 5) }

/-- A fork with an idle symbol at its end, grown by one pass, has nine branches. -/
theorem fork_has_nine_branches :
    ∃ final, regenerate welcoming (some (.text "F[+F]X")) (some (.int 1)) swaying = .ok () final ∧
      final.tree.branches.length = 9 := by
  have text : "F[+F]X".toList = ['F', '[', '+', 'F', ']', 'X'] := by decide
  have matched : Brackets.Matched "F[+F]X".toList := by
    rw [text]
    decide
  have enough := Jitter.constant_supplies (rfl : Jitter.summand (.int 5) = _)
    ("F[+F]X".toList.count 'F' * 5 ^ 1)
  rcases tree_sizes (σ := Nat) (H := Nat) (R := Value) (J := Jitter) matched 1 with ⟨-, -, grows⟩
  rcases (grows (.constant (.int 5)) enough).2 welcoming swaying (some (.text "F[+F]X"))
      (some (.int 1)) rfl rfl rfl (by decide) (regenerate_unfailing welcoming_obliging _ _ _) with
      ⟨final, run, many⟩
  have forks : "F[+F]X".toList.count 'F' = 2 := by
    rw [text]
    decide
  rw [forks] at many
  exact ⟨final, run, many⟩

end Plot
end Arbor
