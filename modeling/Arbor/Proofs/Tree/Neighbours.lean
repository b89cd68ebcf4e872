import Arbor.Proofs.Tree.Abandonment
import Arbor.Proofs.Tree.Tending
import Arbor.Tree.Grove

/-!
# Trees side by side

The trees of a grove share a scene and take turns in any order.  Each tends to its own objects, so
what one of them registers is never dealt with by another: the registered handles are those of live
objects, and no handle is registered twice, by one tree or by two.  Where nothing else is made in
the scene and nothing that was to be removed is left, every live object belongs to a tree.
-/

namespace Arbor

variable {σ τ H R J : Type}

/-- What may happen in a grove: one of the trees is given a task, or an object is made that belongs
to none of them. -/
inductive Move (R J : Type) where
  | work (number : Nat) (task : Task R J)
  | adorn (prefab parent : Option R)

/-- Which tree is given a task. -/
def Move.worked? : Move R J → Option Nat
  | work number _ => some number
  | adorn _ _ => none

namespace Grove

section

variable [AngleSource J Float]

/-- Make a move. -/
def make (scene : Scene σ H R) : Move R J → Act (Grove σ H R J) Unit
  | .work number task => onTree number (Plot.work scene task)
  | .adorn prefab parent => onScene (discard (scene.instantiate prefab parent))

/-- What is done to the scene for a tree in a move. -/
def deedsOf (scene : Scene σ H R) : Move R J → Grove σ H R J → List (Deed H R)
  | .work number task, grove =>
    match grove.trees[number]? with
    | none => []
    | some tree => Plot.deedsOf (Plot.workWatched scene task) ⟨grove.scene, grove.log, tree⟩
  | .adorn _ _, _ => []

/-- What is left after moves have been made one after the other, whether they fail or not. -/
def afterAll (scene : Scene σ H R) : List (Move R J) → Grove σ H R J → Grove σ H R J
  | [], grove => grove
  | move :: moves, grove => afterAll scene moves ((make scene move).reached grove)

/-- What is done to the scene for any tree when moves are made one after the other. -/
def course (scene : Scene σ H R) : List (Move R J) → Grove σ H R J → List (Deed H R)
  | [], _ => []
  | move :: moves, grove =>
    deedsOf scene move grove ++ course scene moves ((make scene move).reached grove)

end

/-- The state of a grove is sound, every tree holds its own objects, and no two trees hold the same
object. -/
structure Orderly {scene : Scene σ H R} (ledger : scene.Ledger) (grove : Grove σ H R J) :
    Prop where
  sound : ledger.sound grove.scene
  holding : ∀ {number : Nat} {tree : Tree H R J}, grove.trees[number]? = some tree →
    Holding tree.branches (ledger.live grove.scene)
  disjoint : ∀ {first second : Nat} {tree other : Tree H R J}, first ≠ second →
    grove.trees[first]? = some tree → grove.trees[second]? = some other →
    ∀ handle ∈ tree.branches, handle ∉ other.branches

/-- Every one of some objects is registered by a tree. -/
def Owned (trees : List (Tree H R J)) (live : Set H) : Prop :=
  ∀ handle ∈ live, ∃ (number : Nat) (tree : Tree H R J),
    trees[number]? = some tree ∧ handle ∈ tree.branches

/-! ## Making a move -/

/-- An action on a tree that is not there changes nothing. -/
theorem reached_onTree_of_none {number : Nat} {grove : Grove σ H R J}
    (missing : grove.trees[number]? = none) (act : Act (Plot σ H R J) Unit) :
    (onTree number act).reached grove = grove := by
  simp only [Act.reached, onTree, missing]

theorem reached_onTree_of_some {number : Nat} {grove : Grove σ H R J} {tree : Tree H R J}
    (there : grove.trees[number]? = some tree) (act : Act (Plot σ H R J) Unit) :
    (onTree number act).reached grove =
      ⟨(act.reached ⟨grove.scene, grove.log, tree⟩).scene,
        (act.reached ⟨grove.scene, grove.log, tree⟩).log,
        grove.trees.set number (act.reached ⟨grove.scene, grove.log, tree⟩).tree⟩ := by
  unfold Act.reached onTree
  simp only [there]
  cases act ⟨grove.scene, grove.log, tree⟩ <;> rfl

theorem reached_onScene (act : Act σ Unit) (grove : Grove σ H R J) :
    (onScene act).reached grove = { grove with scene := act.reached grove.scene } := by
  unfold Act.reached onScene Act.within
  simp only
  cases act grove.scene <;> rfl

/-- After one tree has been replaced, there are its successor and the others. -/
theorem there_set {trees : List (Tree H R J)} {number other : Nat} {regrown neighbour : Tree H R J}
    (there : (trees.set number regrown)[other]? = some neighbour) :
    (other = number ∧ neighbour = regrown) ∨ (other ≠ number ∧ trees[other]? = some neighbour) := by
  by_cases same : other = number
  · subst same
    rw [List.getElem?_set_self'] at there
    rcases Option.map_eq_some_iff.mp there with ⟨tree, -, replaced⟩
    exact Or.inl ⟨rfl, replaced.symm⟩
  · rw [List.getElem?_set_ne (Ne.symm same)] at there
    exact Or.inr ⟨same, there⟩

section

variable {scene : Scene σ H R} {ledger : scene.Ledger} {grove : Grove σ H R J} {number : Nat}
  {tree : Tree H R J}

theorem Orderly.holding_of_mem (orderly : Orderly ledger grove) (member : tree ∈ grove.trees) :
    Holding tree.branches (ledger.live grove.scene) := by
  rcases List.mem_iff_getElem?.mp member with ⟨number, found⟩
  exact orderly.holding found

theorem Orderly.pairwise (orderly : Orderly ledger grove) :
    grove.trees.Pairwise fun first second => first.branches.Disjoint second.branches := by
  refine List.pairwise_iff_getElem.mpr fun first second foundFirst foundSecond before => ?_
  exact orderly.disjoint (Nat.ne_of_lt before) (List.getElem?_eq_getElem foundFirst)
    (List.getElem?_eq_getElem foundSecond)

/-- Where all live objects belong to trees, a list of the live objects is the trees' lists put
together, up to the order. -/
theorem Orderly.perm_of_owned (orderly : Orderly ledger grove)
    (owned : Owned grove.trees (ledger.live grove.scene)) {objects : List H}
    (nodup : objects.Nodup) (live : ∀ handle, handle ∈ objects ↔ handle ∈ ledger.live grove.scene) :
    objects.Perm (grove.trees.flatMap Tree.branches) := by
  have once : (grove.trees.flatMap Tree.branches).Nodup := List.nodup_flatMap.mpr
    ⟨fun _ member => (orderly.holding_of_mem member).nodup, orderly.pairwise⟩
  refine (List.perm_ext_iff_of_nodup nodup once).mpr fun handle => ?_
  rw [live, List.mem_flatMap]
  constructor
  · intro lives
    rcases owned handle lives with ⟨number, tree, found, member⟩
    exact ⟨tree, List.mem_of_getElem? found, member⟩
  · rintro ⟨tree, found, member⟩
    exact (orderly.holding_of_mem found).live handle member

/-- What one tree tends to leaves the objects of the others alone. -/
theorem Orderly.spares (orderly : Orderly ledger grove) (there : grove.trees[number]? = some tree)
    {deeds : List (Deed H R)} {registered : List H} {live : Set H}
    (tending : Tending deeds tree.branches (ledger.live grove.scene) registered live)
    {other : Nat} {neighbour : Tree H R J} (different : other ≠ number)
    (beside : grove.trees[other]? = some neighbour) :
    ∀ handle ∈ neighbour.branches,
      handle ∈ live ∧ handle ∉ registered ∧ handle ∉ passed deeds := fun handle member =>
  tending.spares handle ((orderly.holding beside).live handle member)
    (orderly.disjoint different beside there handle member)

/-- A grove stays orderly when one of its trees tends to its objects. -/
theorem Orderly.tended (orderly : Orderly ledger grove) (there : grove.trees[number]? = some tree)
    {deeds : List (Deed H R)} {after : σ} {log : Log} {regrown : Tree H R J}
    (sound : ledger.sound after)
    (tending : Tending deeds tree.branches (ledger.live grove.scene) regrown.branches
      (ledger.live after)) :
    Orderly ledger ⟨after, log, grove.trees.set number regrown⟩ := by
  refine ⟨sound, fun found => ?_, fun different foundLeft foundRight => ?_⟩
  · rcases there_set found with ⟨-, same⟩ | ⟨other, beside⟩
    · subst same
      exact tending.holding
    · exact ⟨(orderly.holding beside).nodup, fun handle member =>
        (orderly.spares there tending other beside handle member).1⟩
  · rcases there_set foundLeft with ⟨sameLeft, same⟩ | ⟨otherLeft, besideLeft⟩
    · subst same
      rcases there_set foundRight with ⟨sameRight, -⟩ | ⟨otherRight, besideRight⟩
      · exact absurd (sameLeft.trans sameRight.symm) different
      · exact fun handle mine theirs =>
          (orderly.spares there tending otherRight besideRight handle theirs).2.1 mine
    · rcases there_set foundRight with ⟨-, same⟩ | ⟨-, besideRight⟩
      · subst same
        exact fun handle theirs =>
          (orderly.spares there tending otherLeft besideLeft handle theirs).2.1
      · exact orderly.disjoint different besideLeft besideRight

/-- All live objects belong to trees still when one of the trees tends to its objects and the scene
is willing. -/
theorem Owned.tended {live after : Set H} (owned : Owned grove.trees live)
    (there : grove.trees[number]? = some tree) {deeds : List (Deed H R)} {regrown : Tree H R J}
    (tending : Tending deeds tree.branches live regrown.branches after)
    (willing : Willing deeds) : Owned (grove.trees.set number regrown) after := by
  intro handle lives
  by_cases own : handle ∈ regrown.branches
  · have inside := (List.getElem?_eq_some_iff.mp there).1
    exact ⟨number, regrown, List.getElem?_set_self inside, own⟩
  · rcases tending.adds willing handle lives own with ⟨lived, disowned⟩
    rcases owned handle lived with ⟨other, owner, beside, member⟩
    have different : number ≠ other := by
      rintro rfl
      cases there.symm.trans beside
      exact disowned member
    exact ⟨other, owner, (List.getElem?_set_ne different).trans beside, member⟩

/-- A grove stays orderly when an object is made that belongs to none of the trees. -/
theorem Orderly.adorned (orderly : Orderly ledger grove) (prefab parent : Option R) :
    Orderly ledger
      { grove with scene := (scene.instantiate prefab parent).reached grove.scene } := by
  have happens : (Deed.instantiate prefab parent
      ((scene.instantiate prefab parent).outcome grove.scene)).Happens scene grove.scene
        ((scene.instantiate prefab parent).reached grove.scene) := Act.settled_outcome _ _
  rcases ledger.keeps orderly.sound happens with ⟨sound, lives⟩
  refine ⟨sound, fun there => ?_, orderly.disjoint⟩
  rcases orderly.holding there with ⟨nodup, live⟩
  refine ⟨nodup, fun handle member => ?_⟩
  rw [lives]
  exact Deed.mem_liveAfter.mpr ⟨Or.inl (live handle member), Option.some_ne_none handle ∘ Eq.symm⟩

/-- What a move comes to in an orderly grove, and what is done to the scene for a tree.  Nothing
happens if the tree is not there; otherwise it tends to its objects. -/
inductive Turn (ledger : scene.Ledger) (grove : Grove σ H R J) :
    Move R J → List (Deed H R) → Grove σ H R J → Prop
  | missing (number : Nat) (task : Task R J) : Turn ledger grove (.work number task) [] grove
  | tended {number : Nat} {tree : Tree H R J} (there : grove.trees[number]? = some tree)
    (task : Task R J) {deeds : List (Deed H R)} {after : σ} {log : Log} {regrown : Tree H R J}
    (sound : ledger.sound after)
    (tending : Tending deeds tree.branches (ledger.live grove.scene) regrown.branches
      (ledger.live after)) :
    Turn ledger grove (.work number task) deeds ⟨after, log, grove.trees.set number regrown⟩
  | adorned (prefab parent : Option R) :
    Turn ledger grove (.adorn prefab parent) []
      { grove with scene := (scene.instantiate prefab parent).reached grove.scene }

namespace Turn

variable {next : Grove σ H R J} {deeds : List (Deed H R)} {move : Move R J}

theorem orderly (turn : Turn ledger grove move deeds next) (orderly : Orderly ledger grove) :
    Orderly ledger next := by
  cases turn with
  | missing number task => exact orderly
  | tended there task sound tending => exact orderly.tended there sound tending
  | adorned prefab parent => exact orderly.adorned prefab parent

/-- A move leaves every tree but the one it is about as it is, and passes none of its objects to
the scene. -/
theorem spares (turn : Turn ledger grove move deeds next) (orderly : Orderly ledger grove)
    {other : Nat} {neighbour : Tree H R J} (beside : grove.trees[other]? = some neighbour)
    (different : move.worked? ≠ some other) :
    next.trees[other]? = some neighbour ∧ ∀ handle ∈ neighbour.branches, handle ∉ passed deeds := by
  cases turn with
  | missing number task => exact ⟨beside, fun _ _ => List.not_mem_nil⟩
  | @tended number _ there _ _ _ _ _ _ tending =>
    have apart : other ≠ number := fun same => different (same ▸ rfl)
    exact ⟨(List.getElem?_set_ne apart.symm).trans beside, fun handle member =>
      (orderly.spares there tending apart beside handle member).2.2⟩
  | adorned prefab parent => exact ⟨beside, fun _ _ => List.not_mem_nil⟩

/-- A move that is about a tree leaves all live objects owned if the scene is willing. -/
theorem owned (turn : Turn ledger grove move deeds next)
    (owned : Owned grove.trees (ledger.live grove.scene)) (works : move.worked? ≠ none)
    (willing : Willing deeds) : Owned next.trees (ledger.live next.scene) := by
  cases turn with
  | missing number task => exact owned
  | tended there task sound tending => exact owned.tended there tending willing
  | adorned prefab parent => exact absurd rfl works

end Turn

variable [AngleSource J Float]

/-- Every move in an orderly grove is a turn of a tree, or makes another object. -/
theorem make_turn (move : Move R J) (orderly : Orderly ledger grove) :
    Turn ledger grove move (deedsOf scene move grove) ((make scene move).reached grove) := by
  cases move with
  | work number task =>
    cases there : grove.trees[number]? with
    | none =>
      have idle : deedsOf scene (.work number task) grove = [] := by simp only [deedsOf, there]
      rw [idle, make, reached_onTree_of_none there]
      exact .missing number task
    | some tree =>
      rcases Plot.work_tending ledger task ⟨grove.scene, grove.log, tree⟩
          orderly.sound (orderly.holding there) with ⟨sound, tending⟩
      have deeds : deedsOf scene (.work number task) grove = Plot.deedsOf
          (Plot.workWatched scene task) ⟨grove.scene, grove.log, tree⟩ := by
        simp only [deedsOf, there]
      rw [deeds, make, reached_onTree_of_some there]
      exact .tended there task sound tending
  | adorn prefab parent =>
    rw [make, reached_onScene, Act.reached_discard]
    exact .adorned prefab parent

/-! ## Making many moves -/

/-- Moves keep a grove orderly, whatever comes of them. -/
theorem afterAll_orderly (moves : List (Move R J)) (orderly : Orderly ledger grove) :
    Orderly ledger (afterAll scene moves grove) := by
  induction moves generalizing grove with
  | nil => exact orderly
  | cons move moves inductionHypothesis =>
    exact inductionHypothesis ((make_turn move orderly).orderly orderly)

/-- Moves that are all about trees leave all live objects owned if the scene is willing. -/
theorem afterAll_owned (moves : List (Move R J)) (orderly : Orderly ledger grove)
    (owned : Owned grove.trees (ledger.live grove.scene))
    (works : ∀ move ∈ moves, move.worked? ≠ none) (willing : Willing (course scene moves grove)) :
    Owned (afterAll scene moves grove).trees
      (ledger.live (afterAll scene moves grove).scene) := by
  induction moves generalizing grove with
  | nil => exact owned
  | cons move moves inductionHypothesis =>
    rcases List.forall_mem_cons.mp works with ⟨worksFirst, worksLater⟩
    have turn := make_turn move orderly
    exact inductionHypothesis (turn.orderly orderly)
      (turn.owned owned worksFirst willing.left) worksLater willing.right

end

/-! ## Groves in a recording scene -/

open Recording

/-- Trees that have registered nothing hold nothing. -/
theorem orderly_of_new {scene : Scene σ H R} {ledger : scene.Ledger} {grove : Grove σ H R J}
    (sound : ledger.sound grove.scene) (new : ∀ tree ∈ grove.trees, tree.branches = []) :
    Orderly ledger grove := by
  have none {number : Nat} {tree : Tree H R J} (there : grove.trees[number]? = some tree) :
      tree.branches = [] := new tree (List.mem_of_getElem? there)
  refine ⟨sound, fun there => ?_, fun _ there _ handle member => ?_⟩
  · rw [none there]
    exact ⟨List.nodup_nil, fun _ member => absurd member List.not_mem_nil⟩
  · rw [none there] at member
    cases member

variable [AngleSource J Float]

/-- New trees share a stage on which nothing is live and any call may fail before it has had an
effect.  Whatever moves are made, in whatever order and with whatever failures, the registered
handles are those of live objects, each registered once and by one tree only, and a further move
leaves all trees but one as they are and passes none of their objects to the scene.  If all moves
are about trees, and whatever was to be removed has been removed, the live objects are those that
the trees have registered. -/
theorem trees_keep_apart {stage : Nat} {scene : Scene τ Nat Value}
    (hindered : scene.Hindered (Theatre.scene stage)) (moves : List (Move Value J))
    (grove : Grove τ Nat Value J) (sound : hindered.sound grove.scene)
    (there : (hindered.view grove.scene).Sound stage)
    (empty : ((hindered.view grove.scene).stage stage).live = [])
    (new : ∀ tree ∈ grove.trees, tree.branches = []) :
    (∀ tree ∈ (afterAll scene moves grove).trees, tree.branches.Nodup ∧
      ∀ handle ∈ tree.branches,
        handle ∈ ((hindered.view (afterAll scene moves grove).scene).stage stage).live) ∧
    (afterAll scene moves grove).trees.Pairwise
      (fun first second => first.branches.Disjoint second.branches) ∧
    (∀ (move : Move Value J) (other : Nat) (tree : Tree Nat Value J),
      (afterAll scene moves grove).trees[other]? = some tree → move.worked? ≠ some other →
      ((make scene move).reached (afterAll scene moves grove)).trees[other]? = some tree ∧
        ∀ handle ∈ tree.branches,
          handle ∉ passed (deedsOf scene move (afterAll scene moves grove))) ∧
    ((∀ move ∈ moves, move.worked? ≠ none) → Willing (course scene moves grove) →
      ((hindered.view (afterAll scene moves grove).scene).stage stage).live.Perm
        ((afterAll scene moves grove).trees.flatMap Tree.branches)) := by
  let ledger := hindered.ledger (Theatre.ledger stage)
  have start : Orderly ledger grove := orderly_of_new ⟨sound, there⟩ new
  have orderly : Orderly ledger (afterAll scene moves grove) := afterAll_orderly moves start
  refine ⟨fun tree member => ?_, orderly.pairwise, fun move other tree beside different => ?_,
    fun works willing => ?_⟩
  · have holding := orderly.holding_of_mem member
    exact ⟨holding.nodup, holding.live⟩
  · exact (make_turn move orderly).spares orderly beside different
  · have bare : Owned grove.trees (ledger.live grove.scene) := fun handle member => by
      have lives : handle ∈ ((hindered.view grove.scene).stage stage).live := member
      rw [empty] at lives
      cases lives
    have owned := afterAll_owned moves start bare works willing
    exact orderly.perm_of_owned owned orderly.sound.2.nodup fun _ => Iff.rfl

omit [AngleSource J Float]

/-- An upright branch. -/
def twig : Branch Float32 Float := ⟨.spatial 0 0 0, .spatial 0 1 0, 1, 1, .spatial 0 0 0⟩

/-- Two seedlings on a stage that refuses to place the first object. -/
def pair : Grove Rehearsal Nat Value Jitter where
  scene := (rehearsed .transform .runtime).scene
  trees := [Plot.seedling, Plot.seedling]

/-- An object is made for each tree, and then the first tree is cleared. -/
def turns : List (Move Value Jitter) :=
  [.work 0 (.add twig), .work 1 (.add twig), .work 0 (.serve .clear)]

/-- After that only the object of the second tree is live, and clearing the first tree again leaves
the second one as it is. -/
theorem pair_keeps_apart :
    ((afterAll (Rehearsal.scene 0) turns pair).scene.theatre.stage 0).live = [1] ∧
      ∃ tree, (afterAll (Rehearsal.scene 0) turns pair).trees[1]? = some tree ∧
        tree.branches = [1] ∧
        ((make (Rehearsal.scene 0) (.work 0 (.serve .clear))).reached
          (afterAll (Rehearsal.scene 0) turns pair)).trees[1]? = some tree := by
  obtain ⟨first, second, failure, deeds⟩ : ∃ first second failure,
      course (Rehearsal.scene 0) turns pair =
        [.instantiate none none (.ok 0),
          .setTransform 0 twig.position first twig.scale (.error failure),
          .instantiate none none (.ok 1), .setTransform 1 twig.position second twig.scale (.ok ()),
          .reparent 1 none (.ok ()), .destroy .clearing 0 (.ok ())] := ⟨_, _, _, rfl⟩
  have willing : Willing (course (Rehearsal.scene 0) turns pair) := by
    intro removal handle failure member
    rw [deeds] at member
    simp at member
  have works : ∀ move ∈ turns, move.worked? ≠ none := by simp [turns, Move.worked?]
  have new : ∀ tree ∈ pair.trees, tree.branches = [] := by simp [pair, Plot.seedling]
  rcases trees_keep_apart (Rehearsal.hindered 0) turns pair
      (rehearsed_prompt .transform .runtime) (Theatre.ofStages_sound Nat.one_pos) rfl new with
      ⟨-, -, spares, owned⟩
  refine ⟨List.perm_singleton.mp (owned works willing), _, rfl, rfl, ?_⟩
  exact (spares (.work 0 (.serve .clear)) 1 _ rfl (by simp [Move.worked?])).1

end Grove
end Arbor
