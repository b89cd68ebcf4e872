import Arbor.Proofs.Tree.Display
import Arbor.Proofs.Tree.Repetition

/-!
# A tree is blank or it stands

Between two requests a tree either remembers nothing, or it stands: it remembers all that it was
grown from, and its objects are live and lie as its branches do.  Which of the two it is follows from
the latest request that was not refused.  The one exception is a growth that has been interrupted,
which leaves the tree half way.
-/

namespace Arbor

open Recording

variable {σ τ H R J : Type}

/-- A tree that remembers nothing of what it was grown from.  It may still register objects. -/
structure Tree.Blank (tree : Tree H R J) : Prop where
  rules : tree.rules = none
  expanded : tree.expanded = []
  points : tree.points = #[]
  descriptors : tree.descriptors = []

theorem Tree.forget_blank (tree : Tree H R J) : tree.forget.Blank := ⟨rfl, rfl, rfl, rfl⟩

/-- A tree stands on a stage: its points are those of a complete walk of the word that it has grown
to, its branches are those among them, and for every branch, in order, it registers a live object
that lies as the branch does. -/
structure Stands [AngleSource J Float] (stage : Nat) (theatre : Theatre) (growth : Growth)
    (tree : Tree Nat Value J) : Prop where
  rules : tree.rules = some Rules.Table.branching
  expanded : tree.expanded = Rules.Table.branching.expand growth.passes growth.start
  walk : ∃ (jitter left : J) (turtle : Turtle Float32 Float J),
    interpret tree.expanded jitter = .ok turtle left ∧ tree.points = turtle.points
  points : tree.points.size = 2 * tree.expanded.count 'F'
  descriptors : Branch.ofPoints tree.points Branch.standardRadius = .ok tree.descriptors
  nodup : tree.branches.Nodup
  branches : tree.branches.length = tree.descriptors.length
  objects : ∀ (index : Nat) (branch : Branch Float32 Float),
    tree.descriptors[index]? = some branch →
    ∃ (handle : Nat) (turns : Space.Turns Float32) (item : Item),
      tree.branches[index]? = some handle ∧ handle ∈ (theatre.stage stage).live ∧
      theatre.items[handle]? = some item ∧ item.destroyed = false ∧
      branch.turns = .ok turns ∧ item.location = branch.position ∧ item.rotation = turns ∧
      item.scale = branch.scale

/-! ## Requests that are heeded -/

/-- A request that is not refused.  Only a regeneration can be refused, and only for what it asks
for. -/
def Request.Heeded (settings : Settings R) : Request → Prop
  | .regenerate start iterations =>
    ∃ growth, (settings.overridden start iterations).validate = .ok growth
  | .clear => True

/-- Of some requests, either all are refused or there is a last one that is not. -/
theorem Request.heeded_cases (settings : Settings R) (requests : List Request) :
    (∀ other ∈ requests, ¬ other.Heeded settings) ∨
      ∃ earlier request later, requests = earlier ++ request :: later ∧
        request.Heeded settings ∧ ∀ other ∈ later, ¬ other.Heeded settings := by
  induction requests with
  | nil => exact Or.inl fun _ member => absurd member List.not_mem_nil
  | cons request requests inductionHypothesis =>
    rcases inductionHypothesis with refused | ⟨earlier, last, later, rfl, heeded, refused⟩
    · by_cases heeded : request.Heeded settings
      · exact Or.inr ⟨[], request, requests, rfl, heeded, refused⟩
      · exact Or.inl (List.forall_mem_cons.mpr ⟨heeded, refused⟩)
    · exact Or.inr ⟨request :: earlier, last, later, rfl, heeded, refused⟩

namespace Plot

/-- A tree that has been cleared is blank, and if it still registers objects, clearing has failed. -/
theorem clear_blank (scene : Scene σ H R) (plot : Plot σ H R J) :
    ((clear scene).reached plot).tree.Blank ∧
      (((clear scene).reached plot).tree.branches ≠ [] →
        ∃ failure stuck, clear scene plot = .error failure stuck) := by
  rcases clear_ended scene plot with ⟨deeds, left, failure, after, clearing, -, run⟩
  rw [Act.reached_of_settled run]
  refine ⟨⟨rfl, rfl, rfl, rfl⟩, fun some => ?_⟩
  cases failure with
  | none => exact absurd clearing.left_of_none some
  | some failure => exact ⟨failure, _, run⟩

variable [AngleSource J Float] {scene : Scene σ H R} {requests : List Request}
  {plot before : Plot σ H R J} {request : Request}

/-- Of the requests that are served, this one is the last that is not refused, and this is the plot
as it was when it was made.  The settings do not change meanwhile. -/
def Latest (scene : Scene σ H R) (plot : Plot σ H R J) (requests : List Request)
    (request : Request) (before : Plot σ H R J) : Prop :=
  ∃ earlier later, requests = earlier ++ request :: later ∧
    before = afterAll scene earlier plot ∧ request.Heeded plot.tree.settings ∧
    ∀ other ∈ later, ¬ other.Heeded plot.tree.settings

/-- The last request that is not refused is a regeneration by this growth, and it succeeds. -/
def Grown (scene : Scene σ H R) (plot : Plot σ H R J) (requests : List Request)
    (growth : Growth) : Prop :=
  ∃ start iterations before reached,
    Latest scene plot requests (.regenerate start iterations) before ∧
    (before.tree.settings.overridden start iterations).validate = .ok growth ∧
    regenerate scene start iterations before = .ok () reached

/-- The last request that is not refused is a regeneration that is interrupted after the old objects
have been cleared away. -/
def Interrupted (scene : Scene σ H R) (plot : Plot σ H R J) (requests : List Request) : Prop :=
  ∃ start iterations before growth cleared failure failed,
    Latest scene plot requests (.regenerate start iterations) before ∧
    (before.tree.settings.overridden start iterations).validate = .ok growth ∧
    clear scene before = .ok () cleared ∧
    grow scene growth cleared = .error failure failed ∧ failure.recoverable = false

/-- A request that is refused changes nothing. -/
theorem reached_of_refused (refused : ¬ request.Heeded plot.tree.settings) :
    (serve scene request).reached plot = plot := by
  cases request with
  | clear => exact absurd trivial refused
  | regenerate start iterations =>
    cases checked : (plot.tree.settings.overridden start iterations).validate with
    | ok growth => exact absurd ⟨growth, checked⟩ refused
    | error failure =>
      exact Act.reached_of_error (regenerateBetween_of_invalid scene scene plot checked)

theorem afterAll_of_refused
    (refused : ∀ other ∈ requests, ¬ other.Heeded plot.tree.settings) :
    afterAll scene requests plot = plot := by
  induction requests with
  | nil => rfl
  | cons request requests inductionHypothesis =>
    rcases List.forall_mem_cons.mp refused with ⟨first, others⟩
    rw [afterAll, reached_of_refused first]
    exact inductionHypothesis others

/-- What is left in the end is what the last request that was not refused has left. -/
theorem Latest.reached (latest : Latest scene plot requests request before) :
    afterAll scene requests plot = (serve scene request).reached before := by
  rcases latest with ⟨earlier, later, rfl, rfl, -, refused⟩
  have settings := (afterAll_kept scene (earlier ++ [request]) plot).1
  rw [← settings, afterAll_append] at refused
  rw [afterAll_append]
  exact afterAll_of_refused refused

/-- Whatever is asked of a tree, it holds its objects. -/
theorem afterAll_holding (ledger : scene.Ledger) (requests : List Request) (plot : Plot σ H R J)
    (sound : ledger.sound plot.scene)
    (holding : Holding plot.tree.branches (ledger.live plot.scene)) :
    ledger.sound (afterAll scene requests plot).scene ∧
      Holding (afterAll scene requests plot).tree.branches
        (ledger.live (afterAll scene requests plot).scene) := by
  induction requests generalizing plot with
  | nil => exact ⟨sound, holding⟩
  | cons request requests inductionHypothesis =>
    rcases work_tending ledger (.serve request) plot sound holding with ⟨stillSound, tending⟩
    exact inductionHypothesis _ stillSound tending.holding

end Plot

/-! ## Coherence -/

section

variable [AngleSource J Float] {stage : Nat} {growth : Growth} {tree : Tree Nat Value J}

/-- A tree that is on display stands. -/
theorem Displayed.stands {settings : Settings Value} {jitter : J} {old : List Nat}
    {before after : Theatre}
    (displayed : Displayed stage settings growth jitter old before after tree) :
    Stands stage after growth tree := by
  rcases displayed.walk with ⟨turtle, walked, points⟩
  have among := displayed.descriptors
  rw [points] at among
  refine ⟨displayed.rules, displayed.expanded, ⟨jitter, tree.jitter, turtle, walked, points⟩, ?_,
    displayed.descriptors, ?_, ?_, fun index branch found => ?_⟩
  · rw [points]
    exact (sizes_of_walk walked among).1
  · rw [displayed.branches]
    exact List.nodup_range'
  · rw [displayed.branches, List.length_range']
  · rcases displayed.objects index branch found with ⟨handle, turns, here, heading, -, shown⟩
    refine ⟨handle, turns, _, here, ?_, shown, rfl, heading, rfl, rfl, rfl⟩
    rw [displayed.live]
    exact List.mem_append_right _ (List.mem_of_getElem? here)

theorem Stands.not_blank {theatre : Theatre} (stands : Stands stage theatre growth tree) :
    ¬ tree.Blank := by
  intro blank
  have rules := stands.rules
  rw [blank.rules] at rules
  cases rules

end

namespace Plot

variable [AngleSource J Float]

/-- What a single request that is not refused makes of a tree that holds its objects: if it is not
interrupted while it grows, the tree is blank, and registers nothing unless clearing has failed, or
it has been grown anew and stands. -/
theorem coherent_of_heeded {stage : Nat} {scene : Scene τ Nat Value}
    (hindered : scene.Hindered (Theatre.scene stage)) {request : Request}
    {plot : Plot τ Nat Value J} (heeded : request.Heeded plot.tree.settings)
    (sound : hindered.sound plot.scene) (there : (hindered.view plot.scene).Sound stage)
    (holding : Holding plot.tree.branches
      ((Theatre.ledger stage).live (hindered.view plot.scene))) :
    (∃ start iterations growth cleared failure failed,
      request = .regenerate start iterations ∧
      (plot.tree.settings.overridden start iterations).validate = .ok growth ∧
      clear scene plot = .ok () cleared ∧
      grow scene growth cleared = .error failure failed ∧ failure.recoverable = false) ∨
    (((serve scene request).reached plot).tree.Blank ∧
      (((serve scene request).reached plot).tree.branches ≠ [] →
        ∃ failure stuck, clear scene plot = .error failure stuck)) ∨
    ∃ start iterations growth final, request = .regenerate start iterations ∧
      (plot.tree.settings.overridden start iterations).validate = .ok growth ∧
      regenerate scene start iterations plot = .ok () final ∧
      Stands stage (hindered.view ((serve scene request).reached plot).scene) growth
        ((serve scene request).reached plot).tree := by
  cases request with
  | clear => exact Or.inr (Or.inl (clear_blank scene plot))
  | regenerate start iterations =>
    rcases heeded with ⟨growth, valid⟩
    rcases regenerate_ways scene valid with ⟨failure, stuck, sticks, whole⟩ |
        ⟨cleared, clears, ⟨grown, final, -, whole, -, -⟩ | ⟨failure, failed, grows, fatal, -⟩ |
          ⟨failure, failed, surfaced, final, -, -, whole, tree⟩⟩
    · have blank := (clear_blank scene plot).1
      rw [Act.reached_of_error sticks] at blank
      rw [serve, Act.reached_of_error whole]
      exact Or.inr (Or.inl ⟨blank, fun _ => ⟨failure, stuck, sticks⟩⟩)
    · rcases displayed_of_ok hindered sound there holding whole with ⟨other, again, displayed⟩
      rw [serve, Act.reached_of_ok whole]
      exact Or.inr (Or.inr
        ⟨start, iterations, other, final, rfl, again, whole, displayed.stands⟩)
    · exact Or.inl ⟨start, iterations, growth, cleared, failure, failed, rfl, valid, clears, grows,
        fatal⟩
    · rw [serve, Act.reached_of_error whole, tree]
      exact Or.inr (Or.inl ⟨Tree.forget_blank _, fun registers => absurd rfl registers⟩)

/-- A new tree on a stage, any of whose calls may fail before it has had an effect, has been asked
for anything any number of times.  Unless the last request that was not refused is a regeneration
that was interrupted while the tree grew, either the tree is blank or it stands, by the growth of the
last regeneration that succeeded, and not both.  A blank tree registers objects only if the last
clearing has failed, whether that was asked for by itself or began a regeneration. -/
theorem tree_is_coherent {stage : Nat} {scene : Scene τ Nat Value}
    (hindered : scene.Hindered (Theatre.scene stage)) (requests : List Request)
    (plot : Plot τ Nat Value J) (sound : hindered.sound plot.scene)
    (there : (hindered.view plot.scene).Sound stage) (new : plot.tree.Bare) :
    Interrupted scene plot requests ∨
    (Xor (afterAll scene requests plot).tree.Blank
      (∃ growth, Grown scene plot requests growth ∧
        Stands stage (hindered.view (afterAll scene requests plot).scene) growth
          (afterAll scene requests plot).tree) ∧
      ((afterAll scene requests plot).tree.Blank →
        (afterAll scene requests plot).tree.branches ≠ [] →
        ∃ request before failure stuck, Latest scene plot requests request before ∧
          clear scene before = .error failure stuck)) := by
  let ledger := hindered.ledger (Theatre.ledger stage)
  have begun : Holding plot.tree.branches (ledger.live plot.scene) := by
    rw [new.branches]
    exact ⟨List.nodup_nil, fun _ member => absurd member List.not_mem_nil⟩
  rcases Request.heeded_cases plot.tree.settings requests with
      refused | ⟨earlier, request, later, rfl, heeded, refused⟩
  · have blank : plot.tree.Blank := ⟨new.rules, new.expanded, new.points, new.descriptors⟩
    rw [afterAll_of_refused refused]
    refine Or.inr ⟨Or.inl ⟨blank, ?_⟩, fun _ registers => absurd new.branches registers⟩
    rintro ⟨growth, -, stands⟩
    exact stands.not_blank blank
  · have latest : Latest scene plot (earlier ++ request :: later) request
        (afterAll scene earlier plot) := ⟨earlier, later, rfl, rfl, heeded, refused⟩
    rcases afterAll_holding ledger earlier plot ⟨sound, there⟩ begun with ⟨sounds, holding⟩
    have settings := (afterAll_kept scene earlier plot).1
    rw [← settings] at heeded
    rw [latest.reached]
    rcases coherent_of_heeded hindered heeded sounds.1 sounds.2 holding with
        ⟨start, iterations, growth, cleared, failure, failed, rfl, valid, clears, grows, fatal⟩ |
          ⟨blank, stuck⟩ | ⟨start, iterations, growth, final, rfl, valid, whole, stands⟩
    · exact Or.inl ⟨start, iterations, _, growth, cleared, failure, failed, latest, valid, clears,
        grows, fatal⟩
    · refine Or.inr ⟨Or.inl ⟨blank, ?_⟩, fun _ registers => ?_⟩
      · rintro ⟨growth, -, stands⟩
        exact stands.not_blank blank
      · rcases stuck registers with ⟨failure, stuck, sticks⟩
        exact ⟨request, _, failure, stuck, latest, sticks⟩
    · refine Or.inr ⟨Or.inr ⟨⟨growth, ⟨start, iterations, _, final, latest, valid, whole⟩, stands⟩,
        stands.not_blank⟩, fun blank => absurd blank stands.not_blank⟩

omit [AngleSource J Float]

/-- A seedling grows on a stage that will not let go of it.  When it is cleared it is blank, though
its object is still registered. -/
theorem stuck_seedling_is_blank :
    (afterAll (Rehearsal.scene 0) [.regenerate none none, .clear]
        (rehearsed .destroy .runtime)).tree.Blank ∧
      (afterAll (Rehearsal.scene 0) [.regenerate none none, .clear]
        (rehearsed .destroy .runtime)).tree.branches = [0] := by
  have cleared : ∀ start iterations before, ¬ Latest (Rehearsal.scene 0)
      (rehearsed .destroy .runtime) [.regenerate none none, .clear]
      (.regenerate start iterations) before := by
    rintro start iterations before ⟨earlier, later, same, -, -, refused⟩
    match earlier with
    | [] =>
      cases same
      exact refused .clear List.mem_cons_self trivial
    | [_] => cases same
    | _ :: _ :: _ => simp at same
  constructor
  · rcases tree_is_coherent (Rehearsal.hindered 0) [.regenerate none none, .clear]
        (rehearsed .destroy .runtime) (rehearsed_prompt .destroy .runtime)
        (Theatre.ofStages_sound Nat.one_pos) ⟨rfl, rfl, rfl, rfl, rfl⟩ with
        ⟨start, iterations, before, _, _, _, _, latest, -⟩ |
          ⟨⟨blank, -⟩ | ⟨⟨_, ⟨start, iterations, before, _, latest, -⟩, -⟩, -⟩, -⟩
    · exact absurd latest (cleared start iterations before)
    · exact blank
    · exact absurd latest (cleared start iterations before)
  · rcases grow_seedling (Rehearsal.scene 0) with ⟨branch, points, events, turns, heading, grows⟩
    have run := grows (rehearsed .destroy .runtime).scene #[]
    unfold createBranches createBranch at run
    rw [heading] at run
    have onward := regenerateBetween_of_cleared (Rehearsal.scene 0) (Rehearsal.scene 0)
      (rehearsed .destroy .runtime) seedling_valid (seedling_clears _ _ _)
    have grown : serve (Rehearsal.scene 0) (.regenerate none none)
        (rehearsed .destroy .runtime) = .ok () _ :=
      onward.trans (Act.bind_of_ok (orTakenBack_of_ok (Rehearsal.scene 0) run))
    rw [afterAll, Act.reached_of_ok grown]
    rfl

/-- A tree whose growth has been interrupted is not blank, and does not stand by any growth. -/
theorem interrupted_seedling_is_incoherent :
    (rehearsed .instantiate .interruption).scene.Prompt ∧
      (rehearsed .instantiate .interruption).tree.Bare ∧
      ¬ (afterAll (Rehearsal.scene 0) [.regenerate none none]
        (rehearsed .instantiate .interruption)).tree.Blank ∧
      ∀ growth, ¬ Stands 0 (afterAll (Rehearsal.scene 0) [.regenerate none none]
          (rehearsed .instantiate .interruption)).scene.theatre growth
        (afterAll (Rehearsal.scene 0) [.regenerate none none]
          (rehearsed .instantiate .interruption)).tree := by
  rcases grow_seedling (Rehearsal.scene 0) with ⟨branch, points, events, turns, -, grows⟩
  have run := grows (rehearsed .instantiate .interruption).scene #[]
  unfold createBranches createBranch at run
  have onward := regenerateBetween_of_cleared (Rehearsal.scene 0) (Rehearsal.scene 0)
    (rehearsed .instantiate .interruption) seedling_valid (seedling_clears _ _ _)
  have left : serve (Rehearsal.scene 0) (.regenerate none none)
      (rehearsed .instantiate .interruption) = .error _ _ :=
    onward.trans (Act.bind_of_error (orTakenBack_of_interruption (Rehearsal.scene 0) run rfl))
  rw [afterAll, Act.reached_of_error left]
  refine ⟨rehearsed_prompt .instantiate .interruption, ⟨rfl, rfl, rfl, rfl, rfl⟩, fun blank => ?_,
    fun growth stands => ?_⟩
  · cases blank.rules
  · cases stands.branches

end Plot
end Arbor
