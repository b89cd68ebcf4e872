import Arbor.Proofs.Scene.Staging
import Arbor.Proofs.Tree.Neighbours
import Arbor.Proofs.Tree.Outgrowth

/-!
# A tree on its stage

On a recording stage no call that a tree makes for its own objects fails, as long as the tree holds
them.  So growing a tree anew succeeds whenever its word can be walked, and what is on the stage
afterwards is known object by object: the old objects of the tree are destroyed, one new object for
each branch stands behind all others, and nothing else has changed.
-/

namespace Arbor

open Recording

variable {τ J : Type} {stage : Nat} {before after : Theatre}

/-- The angles of a branch come in the order in which branches are turned. -/
theorem Branch.order_of_turns {branch : Branch Float32 Float} {turns : Space.Turns Float32}
    (heading : branch.turns = .ok turns) : turns.order = .zxy := by
  unfold Branch.turns Space.Turns.ofList at heading
  split at heading
  · cases heading
    rfl
  · cases heading

/-- Branches end up under the owner or, if there is none, under the parent. -/
theorem Settings.destination_eq {R : Type} (settings : Settings R) :
    settings.destination = settings.owner.or settings.parent := by
  unfold destination
  cases settings.owner <;> rfl

/-- The object of a branch that has been placed as the branch lies and moved under the owner or, if
there is none, under the parent. -/
def Recording.Item.ofBranch (settings : Settings Value) (index : Nat)
    (branch : Branch Float32 Float) (turns : Space.Turns Float32) : Item where
  index := index
  prefab := settings.prefab
  parent := settings.owner.or settings.parent
  location := branch.position
  rotation := turns
  scale := branch.scale

/-- The items are the objects of the branches, counted from the given number. -/
inductive Shows (settings : Settings Value) :
    Nat → List (Branch Float32 Float) → List Item → Prop
  | done (first : Nat) : Shows settings first [] []
  | next {first : Nat} {branch : Branch Float32 Float} {branches : List (Branch Float32 Float)}
    {items : List Item} {turns : Space.Turns Float32} (heading : branch.turns = .ok turns)
    (later : Shows settings (first + 1) branches items) :
    Shows settings first (branch :: branches) (.ofBranch settings first branch turns :: items)

namespace Shows

variable {settings : Settings Value} {first : Nat} {branches : List (Branch Float32 Float)}
  {items : List Item}

theorem length_eq (shows : Shows settings first branches items) :
    items.length = branches.length := by
  induction shows with
  | done => rfl
  | next _ _ inductionHypothesis => exact congrArg Nat.succ inductionHypothesis

theorem there (shows : Shows settings first branches items) {index : Nat}
    {branch : Branch Float32 Float} (found : branches[index]? = some branch) :
    ∃ turns, branch.turns = .ok turns ∧
      items[index]? = some (.ofBranch settings (first + index) branch turns) := by
  induction shows generalizing index with
  | done => cases found
  | @next first _ _ _ turns heading _ inductionHypothesis =>
    cases index with
    | zero =>
      cases found
      exact ⟨turns, heading, rfl⟩
    | succ index =>
      rcases inductionHypothesis found with ⟨turns, heading, shown⟩
      rw [Nat.add_right_comm] at shown
      exact ⟨turns, heading, shown⟩

end Shows

/-! ## Making and clearing -/

/-- An object can be made, placed as a branch lies and moved to where the settings say. -/
theorem Recording.Theatre.planted (sound : before.Sound stage) (settings : Settings Value)
    (branch : Branch Float32 Float) (turns : Space.Turns Float32) :
    ∃ fresh placed after,
      (Theatre.scene stage).instantiate settings.prefab settings.parent before =
        .ok before.items.size fresh ∧
      (Theatre.scene stage).setTransform before.items.size branch.position turns branch.scale fresh =
        .ok () placed ∧
      (Theatre.scene stage).reparent before.items.size settings.destination placed =
        .ok () after ∧
      after.Sound stage ∧ Theatre.Entered stage
        [.ofBranch settings (before.stage stage).created branch turns] before after := by
  rcases Theatre.instantiate_entered sound settings.prefab settings.parent with
      ⟨fresh, run, freshSound, entered⟩
  have live : before.items.size ∈ (fresh.stage stage).live := by
    rw [entered.live]
    exact List.mem_append_right _ List.mem_cons_self
  let place (item : Item) : Item :=
    { item with location := branch.position, rotation := turns, scale := branch.scale }
  let move (item : Item) : Item := { item with parent := settings.owner.or settings.parent }
  have placed := Theatre.setTransform_of_live freshSound live branch.position turns branch.scale
  have placedSound : (fresh.updateItem before.items.size place).Sound stage :=
    freshSound.updateItem before.items.size fun _ => rfl
  rw [Settings.destination_eq]
  exact ⟨fresh, _, _, run, placed, Theatre.reparent_of_live placedSound live _,
    placedSound.updateItem before.items.size fun _ => rfl,
    (entered.updateItem place).updateItem move⟩

/-- The object of a branch in space is made, placed and moved without a failure. -/
theorem Making.entered {settings : Settings Value} {branch : Branch Float32 Float}
    {deeds : List (Deed Nat Value)} {handles : List Nat} {result : Except Failure Nat}
    (making : Making settings branch deeds handles result) (spatial : branch.Spatial)
    (sound : before.Sound stage) (performs : (Theatre.scene stage).Performs before deeds after) :
    ∃ turns, branch.turns = .ok turns ∧ result = .ok before.items.size ∧
      handles = [before.items.size] ∧ after.Sound stage ∧
      Theatre.Entered stage
        [.ofBranch settings (before.stage stage).created branch turns] before after := by
  rcases Branch.turns_spatial spatial with ⟨turns, heading⟩
  rcases Theatre.planted sound settings branch turns with
      ⟨fresh, laid, final, run, placed, moved, stillSound, entered⟩
  cases making with
  | refused failure =>
    rcases performs with ⟨between, happens, -⟩
    cases run.symm.trans happens
  | @registered handle deeds result placing =>
    rcases performs with ⟨between, happens, later⟩
    have made : EStateM.Result.ok before.items.size fresh = .ok handle between :=
      run.symm.trans happens
    cases made
    cases placing with
    | unturned lost => cases heading.symm.trans lost
    | unplaced again failure =>
      cases heading.symm.trans again
      rcases later with ⟨between, happens, -⟩
      cases placed.symm.trans happens
    | moved again result =>
      cases heading.symm.trans again
      rcases later with ⟨between, happens, reached, moves, same⟩
      cases same
      have placement := placed.symm.trans happens
      cases placement
      have whole := moved.symm.trans moves
      cases result with
      | error failure => cases whole
      | ok value =>
        cases whole
        exact ⟨turns, heading, rfl, rfl, stillSound, entered⟩

/-- The objects of branches in space are all made, one behind the other. -/
theorem MakingAll.entered {settings : Settings Value} {branches : List (Branch Float32 Float)}
    {deeds : List (Deed Nat Value)} {handles : List Nat} {failure : Option Failure}
    (making : MakingAll settings branches deeds handles failure)
    (spatial : ∀ branch ∈ branches, branch.Spatial) (sound : before.Sound stage)
    (performs : (Theatre.scene stage).Performs before deeds after) :
    failure = none ∧ handles = List.range' before.items.size branches.length ∧
      ∃ items, Shows settings (before.stage stage).created branches items ∧
        Theatre.Entered stage items before after := by
  induction making generalizing before with
  | done =>
    cases performs
    exact ⟨rfl, rfl, [], .done _, .nil _⟩
  | stopped branches first =>
    rcases first.entered (spatial _ List.mem_cons_self) sound performs with ⟨turns, -, impossible, -⟩
    cases impossible
  | @next branch branches deeds others handles more handle failure first later
      inductionHypothesis =>
    rcases performs.split with ⟨between, begun, done⟩
    rcases first.entered (spatial _ List.mem_cons_self) sound begun with
        ⟨turns, heading, -, rfl, stillSound, entered⟩
    rcases inductionHypothesis (fun other member => spatial other (List.mem_cons_of_mem _ member))
        stillSound done with ⟨well, rfl, items, shows, followed⟩
    have size := entered.size
    have created := entered.created
    rw [List.length_singleton] at size created
    rw [created] at shows
    refine ⟨well, ?_, _, .next heading shows, entered.append followed⟩
    rw [size, List.length_cons, List.range'_succ]
    rfl

/-- Live objects are all cleared away. -/
theorem Clearing.struck {handles left : List Nat} {deeds : List (Deed Nat Value)}
    {failure : Option Failure} (clearing : Clearing handles deeds left failure)
    (nodup : handles.Nodup) (live : ∀ handle ∈ handles, handle ∈ (before.stage stage).live)
    (sound : before.Sound stage) (performs : (Theatre.scene stage).Performs before deeds after) :
    failure = none ∧ after.Sound stage ∧ Theatre.Struck stage handles before after := by
  induction clearing generalizing before with
  | done =>
    cases performs
    exact ⟨rfl, sound, .nil _⟩
  | stuck handle handles failure =>
    rcases performs with ⟨between, happens, -⟩
    cases (Theatre.destroy_of_live sound (live handle List.mem_cons_self)).symm.trans happens
  | next handle later inductionHypothesis =>
    rcases performs with ⟨between, happens, followed⟩
    rcases Theatre.destroy_struck sound (live handle List.mem_cons_self) with
        ⟨struck, run, stillSound, first⟩
    cases run.symm.trans happens
    rcases List.nodup_cons.mp nodup with ⟨single, nodup⟩
    have others : ∀ other ∈ _, other ∈ (between.stage stage).live := fun other member => by
      rw [first.live]
      refine List.mem_filter.mpr ⟨live other (List.mem_cons_of_mem _ member), ?_⟩
      simpa using fun same : other = handle => single (same ▸ member)
    rcases inductionHypothesis nodup others stillSound followed with ⟨well, sound, struck⟩
    exact ⟨well, sound, first.append struck⟩

/-! ## Growing anew -/

/-- What a stage and a tree are like after the tree has been grown anew: the tree remembers what it
was grown from, its old objects are destroyed, and it registers new ones that lie as its branches do,
behind all other objects, which are left as they were. -/
structure Displayed [AngleSource J Float] (stage : Nat) (settings : Settings Value)
    (growth : Growth) (jitter : J) (old : List Nat) (before after : Theatre)
    (regrown : Tree Nat Value J) : Prop where
  rules : regrown.rules = some Rules.Table.branching
  expanded : regrown.expanded = Rules.Table.branching.expand growth.passes growth.start
  walk : ∃ turtle : Turtle Float32 Float J,
    interpret regrown.expanded jitter = .ok turtle regrown.jitter ∧ regrown.points = turtle.points
  descriptors : Branch.ofPoints regrown.points Branch.standardRadius = .ok regrown.descriptors
  branches : regrown.branches = List.range' before.items.size regrown.descriptors.length
  live : (after.stage stage).live =
    (before.stage stage).live.filter (· ∉ old) ++ regrown.branches
  created : (after.stage stage).created =
    (before.stage stage).created + regrown.descriptors.length
  objects : ∀ (index : Nat) (branch : Branch Float32 Float),
    regrown.descriptors[index]? = some branch →
    ∃ (handle : Nat) (turns : Space.Turns Float32), regrown.branches[index]? = some handle ∧
      branch.turns = .ok turns ∧ turns.order = .zxy ∧ after.items[handle]? =
        some (.ofBranch settings ((before.stage stage).created + index) branch turns)
  destroyed : ∀ handle ∈ old, ∃ item, before.items[handle]? = some item ∧
    after.items[handle]? = some { item with destroyed := true }
  spared : ∀ id < before.items.size, id ∉ old → after.items[id]? = before.items[id]?
  elsewhere : ∀ other, other ≠ stage → after.stage other = before.stage other

section

variable [AngleSource J Float] {tree regrown : Tree Nat Value J} {growth : Growth}
  {deeds : List (Deed Nat Value)} {failure : Option Failure} {turtle : Turtle Float32 Float J}
  {left : J}

/-- A tree whose word can be walked grows on its stage without a failure. -/
theorem Growing.entered (growing : Growing tree growth deeds regrown failure)
    (walked : interpret growth.word tree.jitter = .ok turtle left) (sound : before.Sound stage)
    (performs : (Theatre.scene stage).Performs before deeds after) :
    failure = none ∧
      regrown.branches =
        tree.branches ++ List.range' before.items.size regrown.descriptors.length ∧
      ∃ items, Shows tree.settings (before.stage stage).created regrown.descriptors items ∧
        Theatre.Entered stage items before after := by
  cases growing with
  | lost walk => cases walked.symm.trans walk
  | built walk among spatial making =>
    rcases making.entered spatial sound performs with ⟨well, rfl, items, shows, entered⟩
    exact ⟨well, rfl, items, shows, entered⟩

/-- Once the old objects are struck and the new ones have entered, the tree is on display. -/
theorem Outgrowth.displayed {settings : Settings Value} {jitter : J} {old : List Nat}
    {emptied : Theatre} {items : List Item}
    (outgrowth : Outgrowth settings growth jitter deeds regrown) (sound : before.Sound stage)
    (live : ∀ handle ∈ old, handle ∈ (before.stage stage).live)
    (struck : Theatre.Struck stage old before emptied)
    (entered : Theatre.Entered stage items emptied after)
    (shows : Shows settings (emptied.stage stage).created regrown.descriptors items)
    (branches : regrown.branches =
      List.range' emptied.items.size regrown.descriptors.length) :
    Displayed stage settings growth jitter old before after regrown := by
  have length := shows.length_eq
  have fresh {id : Nat} {item : Item} (there : before.items[id]? = some item) :
      id < emptied.items.size := by
    rw [struck.size]
    exact (Array.getElem?_eq_some_iff.mp there).1
  refine ⟨outgrowth.rules, outgrowth.expanded, ?_, outgrowth.descriptors, ?_, ?_, ?_, ?_, ?_, ?_,
    fun other different => ?_⟩
  · rw [outgrowth.expanded]
    exact outgrowth.walk
  · rw [branches, struck.size]
  · rw [entered.live, struck.live, branches, length]
  · rw [entered.created, struck.created, length]
  · intro index branch found
    have inside := (List.getElem?_eq_some_iff.mp found).1
    rcases shows.there found with ⟨turns, heading, shown⟩
    rw [← entered.there, struck.created] at shown
    refine ⟨emptied.items.size + index, turns, ?_, heading, Branch.order_of_turns heading, shown⟩
    rw [branches, List.getElem?_range' inside, Nat.one_mul]
  · intro handle member
    rcases sound.stands handle (live handle member) with ⟨item, there, -⟩
    refine ⟨item, there, ?_⟩
    rw [entered.kept (fresh there), struck.items, there, Option.map_some, if_pos member]
  · intro id old other
    rw [entered.kept (struck.size ▸ old), struck.items]
    simp only [if_neg other, Option.map_id']
  · exact (entered.elsewhere other different).trans (struck.elsewhere other different)

/-- Growing anew succeeds on a stage if what is asked for is valid and its word can be walked. -/
theorem Regeneration.displayed {start iterations : Option Value} {warnings : List Event}
    (regeneration : Regeneration tree start iterations deeds regrown warnings failure)
    (valid : (tree.settings.overridden start iterations).validate = .ok growth)
    (walked : interpret growth.word tree.jitter = .ok turtle left) (sound : before.Sound stage)
    (holding : Holding tree.branches ((Theatre.ledger stage).live before))
    (performs : (Theatre.scene stage).Performs before deeds after) :
    failure = none ∧
      Displayed stage tree.settings growth tree.jitter tree.branches before after regrown := by
  have live : ∀ handle ∈ tree.branches, handle ∈ (before.stage stage).live := holding.live
  have clears {cleared : List (Deed Nat Value)} {kept : List Nat} {stuck : Option Failure}
      {between : Theatre} (clearing : Clearing tree.branches cleared kept stuck)
      (begun : (Theatre.scene stage).Performs before cleared between) :
      stuck = none ∧ between.Sound stage ∧
        Theatre.Struck stage tree.branches before between :=
    clearing.struck holding.nodup live sound begun
  cases regeneration with
  | refused invalid => cases valid.symm.trans invalid
  | stuck _ clearing => cases (clears clearing performs).1
  | complete again clearing growing =>
    cases valid.symm.trans again
    rcases (Regeneration.complete again clearing growing).outgrowth with ⟨other, same, outgrowth⟩
    cases again.symm.trans same
    rcases performs.split with ⟨between, begun, done⟩
    rcases clears clearing begun with ⟨-, stillSound, struck⟩
    rcases growing.entered walked stillSound done with ⟨-, branches, items, shows, entered⟩
    exact ⟨rfl, outgrowth.displayed sound live struck entered shows branches⟩
  | interrupted again clearing growing =>
    cases valid.symm.trans again
    rcases performs.split with ⟨between, begun, done⟩
    rcases clears clearing begun with ⟨-, stillSound, -⟩
    cases (growing.entered walked stillSound done).1
  | abandoned again clearing growing =>
    cases valid.symm.trans again
    rcases performs.split with ⟨middle, performs, -⟩
    rcases performs.split with ⟨between, begun, done⟩
    rcases clears clearing begun with ⟨-, stillSound, -⟩
    cases (growing.entered walked stillSound done).1

/-- A tree that has been grown anew without a failure is on display, though calls might have
failed. -/
theorem Plot.displayed_of_ok {scene : Scene τ Nat Value}
    (hindered : scene.Hindered (Theatre.scene stage)) {start iterations : Option Value}
    {plot final : Plot τ Nat Value J} (sound : hindered.sound plot.scene)
    (there : (hindered.view plot.scene).Sound stage)
    (holding : Holding plot.tree.branches ((Theatre.ledger stage).live (hindered.view plot.scene)))
    (done : regenerate scene start iterations plot = .ok () final) :
    ∃ growth, (plot.tree.settings.overridden start iterations).validate = .ok growth ∧
      Displayed stage plot.tree.settings growth plot.tree.jitter plot.tree.branches
        (hindered.view plot.scene) (hindered.view final.scene) final.tree := by
  rcases regeneration_of_ok done with ⟨warnings, regeneration, performs⟩
  rcases regeneration.outgrowth with ⟨growth, valid, outgrowth⟩
  rcases outgrowth.walk with ⟨turtle, walked, -⟩
  have well := List.findSome?_eq_none_iff.mp regeneration.unfailing
  have plain := hindered.performs_of_unfailing performs sound well
  exact ⟨growth, valid, (regeneration.displayed valid walked there holding plain).2⟩

end

namespace Grove

variable [AngleSource J Float]

/-- New trees share a stage with each other and with other objects, and any call may fail before it
has had an effect.  Whatever has become of the trees then, one that is grown anew while no call fails
is on display afterwards, if its start is a text with matched brackets, the number of passes is
allowed and there are enough sways. -/
theorem grown_tree_is_displayed {stage : Nat} {scene : Scene τ Nat Value}
    (hindered : scene.Hindered (Theatre.scene stage)) (moves : List (Move Value J))
    (grove : Grove τ Nat Value J) (sound : hindered.sound grove.scene)
    (there : (hindered.view grove.scene).Sound stage)
    (new : ∀ tree ∈ grove.trees, tree.branches = []) {tree : Tree Nat Value J}
    (member : tree ∈ (afterAll scene moves grove).trees) (start iterations : Option Value)
    {text : String} {passes : Nat} (starts : start.getD tree.settings.start = .text text)
    (counts : iterations.getD tree.settings.iterations = .int passes)
    (few : passes ≤ greatestIterations) (matched : Brackets.Matched text.toList)
    (enough : AngleSource.Supplies
      ((Rules.Table.branching.expand passes text.toList).count 'F') tree.jitter) (log : Log) :
    ∃ final, Plot.regenerate (Theatre.scene stage) start iterations
        ⟨hindered.view (afterAll scene moves grove).scene, log, tree⟩ = .ok () final ∧
      Displayed stage tree.settings ⟨text.toList, passes, few⟩ tree.jitter tree.branches
        (hindered.view (afterAll scene moves grove).scene) final.scene final.tree := by
  let ledger := hindered.ledger (Theatre.ledger stage)
  have begun : Orderly ledger grove := orderly_of_new ⟨sound, there⟩ new
  have orderly : Orderly ledger (afterAll scene moves grove) := afterAll_orderly moves begun
  have valid : (tree.settings.overridden start iterations).validate = .ok _ :=
    Settings.validate_of_text starts counts few
  have onward := (Rules.Table.branching_grouped.expand_nesting passes text.toList).2.mpr matched
  rcases interpret_of_matched (C := Float32) onward enough with ⟨turtle, left, walked⟩
  rcases Plot.regenerate_ended (Theatre.scene stage) start iterations
      ⟨hindered.view (afterAll scene moves grove).scene, log, tree⟩ with
      ⟨warnings, failure, final, regeneration, performs, run⟩
  rcases regeneration.displayed valid walked orderly.sound.2 (orderly.holding_of_mem member)
      performs with ⟨well, displayed⟩
  subst well
  exact ⟨final, run, displayed⟩

omit [AngleSource J Float]

/-- Of two neighbours the first has been cleared away.  When the second one is grown anew, its object
gives way to a third one. -/
theorem neighbour_is_displayed :
    ∃ (tree : Tree Nat Value Jitter) (final : Plot Theatre Nat Value Jitter),
      (afterAll (Rehearsal.scene 0) turns pair).trees[1]? = some tree ∧ tree.branches = [1] ∧
      Plot.regenerate (Theatre.scene 0) none none
        ⟨(afterAll (Rehearsal.scene 0) turns pair).scene.theatre, #[], tree⟩ = .ok () final ∧
      final.tree.branches = [2] ∧ (final.scene.stage 0).live = [2] := by
  obtain ⟨tree, found, jitter, settings, branches⟩ :
      ∃ tree, (afterAll (Rehearsal.scene 0) turns pair).trees[1]? = some tree ∧
        tree.jitter = .constant (.real 0) ∧
        tree.settings = (Plot.seedling : Tree Nat Value Jitter).settings ∧ tree.branches = [1] :=
    ⟨_, rfl, rfl, rfl, rfl⟩
  have new : ∀ tree ∈ pair.trees, tree.branches = [] := by simp [pair, Plot.seedling]
  have text : "F".toList = ['F'] := by decide
  have matched : Brackets.Matched "F".toList := by
    rw [text]
    decide
  have enough := Jitter.constant_supplies (rfl : Jitter.summand (.real 0) = _)
    ((Rules.Table.branching.expand 0 "F".toList).count 'F')
  rw [← jitter] at enough
  have starts : Option.getD none tree.settings.start = .text "F" := by rw [settings]; rfl
  have counts : Option.getD none tree.settings.iterations = .int (0 : Nat) := by rw [settings]; rfl
  rcases grown_tree_is_displayed (Rehearsal.hindered 0) turns pair
      (rehearsed_prompt .transform .runtime) (Theatre.ofStages_sound Nat.one_pos) new
      (List.mem_of_getElem? found) none none starts counts (Nat.zero_le _) matched enough #[] with
      ⟨final, run, displayed⟩
  rcases displayed.walk with ⟨turtle, walked, points⟩
  have among := displayed.descriptors
  rw [points] at among
  have single : final.tree.descriptors.length = 1 := by
    rw [(sizes_of_walk walked among).2, displayed.expanded, Rules.Table.expand_zero, text]
    decide
  have registered : final.tree.branches = [2] := by
    rw [displayed.branches, single]
    rfl
  refine ⟨tree, final, found, branches, run, registered, ?_⟩
  rw [displayed.live, registered, branches]
  rfl

end Grove
end Arbor
