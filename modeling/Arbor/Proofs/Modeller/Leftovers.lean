import Arbor.Proofs.Document.Inventory
import Arbor.Proofs.Tree.Abandonment

/-!
# What a failed tree leaves in a document

An object is made by copying a prefab and then listing the copy and putting it under its parent.  If
one of the later calls fails the making fails, but the copy is there, and nobody has been given its
handle.  A tree that fails takes back the objects that it has registered; a copy that was never
given to it stays.  This is all that a failed tree leaves behind besides the renderer's own prefab,
as long as what it takes back goes.
-/

namespace Arbor

variable {δ H R J : Type}

namespace Modeller

variable {modeller : Modeller δ H R} {inventory : modeller.Inventory}
  {before between after : Workshop δ H} {deed : Deed H R} {deeds first second : List (Deed H R)}
  {copy handle : H}

/-- The deed is a call that made no object, but copied one. -/
def Strays (modeller : Modeller δ H R) (before : Workshop δ H) (deed : Deed H R) (copy : H) :
    Prop :=
  ∃ prefab parent failure, deed = .instantiate prefab parent (.error failure) ∧
    modeller.Copies prefab before copy

/-- One of the deeds, which are done one after the other, leaves the copy behind. -/
def Leaves (modeller : Modeller δ H R) : Workshop δ H → List (Deed H R) → H → Prop
  | _, [], _ => False
  | before, deed :: deeds, copy =>
    modeller.Strays before deed copy ∨
      ∃ between, deed.Happens modeller.scene before between ∧ modeller.Leaves between deeds copy

theorem leaves_cons (happens : deed.Happens modeller.scene before between) :
    modeller.Leaves before (deed :: deeds) copy ↔
      modeller.Strays before deed copy ∨ modeller.Leaves between deeds copy := by
  refine or_congr_right ⟨?_, fun leaves => ⟨between, happens, leaves⟩⟩
  rintro ⟨other, again, leaves⟩
  exact happens.unique again ▸ leaves

theorem leaves_append (performs : modeller.scene.Performs before first between) :
    modeller.Leaves before (first ++ second) copy ↔
      modeller.Leaves before first copy ∨ modeller.Leaves between second copy := by
  induction first generalizing before with
  | nil =>
    cases performs
    exact (or_iff_right not_false).symm
  | cons deed deeds inductionHypothesis =>
    rcases performs with ⟨middle, happens, later⟩
    rw [List.cons_append, leaves_cons happens, leaves_cons happens, inductionHypothesis later,
      or_assoc]

/-- Only calls that pass no handle leave something behind. -/
theorem not_leaves_of_passed (passes : ∀ deed ∈ deeds, deed.passed? ≠ none) :
    ¬ modeller.Leaves before deeds copy := by
  induction deeds generalizing before with
  | nil => exact not_false
  | cons deed deeds inductionHypothesis =>
    rcases List.forall_mem_cons.mp passes with ⟨first, others⟩
    rintro (⟨_, _, _, rfl, -⟩ | ⟨between, -, leaves⟩)
    · exact first rfl
    · exact inductionHypothesis others leaves

/-! ## What comes by the calls of a tree -/

/-- What comes by a call that removes nothing: the object that it makes, or a copy that it leaves
behind. -/
theorem grown_of_happens (inventory : modeller.Inventory)
    (happens : deed.Happens modeller.scene before after) (idle : deed.attempted? = none) :
    Grown inventory {handle | deed.made? = some handle ∨ modeller.Strays before deed handle} before
      after := by
  have settles {act : Act δ Unit} {result : Except Failure Unit}
      (kept : ∀ objects, Act.Keeps (inventory.live · = objects) act)
      (run : Workshop.onDocument act before = Act.settled result after)
      (barren : ∀ handle, ¬ (deed.made? = some handle ∨ modeller.Strays before deed handle)) :
      Grown inventory {handle | deed.made? = some handle ∨ modeller.Strays before deed handle}
        before after := by
    rcases Workshop.onDocument_run run with ⟨run, same⟩
    rw [Set.eq_empty_of_forall_notMem barren]
    exact Grown.still ((kept _).settled rfl run) same
  cases deed with
  | instantiate prefab parent result =>
    rcases inventory.instantiate_run prefab parent before with
        ⟨other, come, reached, run, instantiation, grown⟩
    cases (Act.outcome_of_settled run).symm.trans (Act.outcome_of_settled happens)
    cases (Act.reached_of_settled run).symm.trans (Act.reached_of_settled happens)
    refine grown.congr fun handle => ?_
    cases instantiation with
    | made copies =>
      refine ⟨fun same => Or.inl (congrArg some same.symm), ?_⟩
      rintro (⟨⟨⟩⟩ | ⟨_, _, _, ⟨⟩, -⟩)
      rfl
    | stray failure copies =>
      constructor
      · rintro ⟨⟩
        exact Or.inr ⟨prefab, parent, failure, rfl, copies⟩
      · rintro (⟨⟨⟩⟩ | ⟨_, _, _, ⟨⟩, again⟩)
        exact again.unique copies
    | refused failure nothing =>
      refine ⟨fun member => absurd member (Set.notMem_empty handle), ?_⟩
      rintro (⟨⟨⟩⟩ | ⟨_, _, _, ⟨⟩, again⟩)
      exact absurd again (nothing handle)
  | setTransform handle position rotation scale result =>
    refine settles (fun objects => ?_) happens ?_
    · refine orRefused_keeps modeller ?_ .transform _
      refine Act.Keeps.bind (inventory.setLocation _ _ objects) fun _ => ?_
      refine Act.Keeps.bind (inventory.setOrder _ _ objects) fun _ => ?_
      exact Act.Keeps.bind (inventory.setRotation _ _ objects) fun _ =>
        inventory.setScale _ _ objects
    · rintro other (⟨⟨⟩⟩ | ⟨_, _, _, ⟨⟩, -⟩)
  | reparent handle parent result =>
    refine settles (fun objects => ?_) happens ?_
    · exact orRefused_keeps modeller (inventory.setParent _ parent objects) .reparent _
    · rintro other (⟨⟨⟩⟩ | ⟨_, _, _, ⟨⟩, -⟩)
  | destroy removal handle result => cases idle

/-- What comes by calls that remove nothing: the objects that they make, and copies that they leave
behind.  These have nothing in common. -/
theorem grown_of_performs (inventory : modeller.Inventory)
    (performs : modeller.scene.Performs before deeds after) (idle : attempted deeds = []) :
    Grown inventory {handle | handle ∈ made deeds ∨ modeller.Leaves before deeds handle} before
        after ∧
      ∀ handle ∈ made deeds, ¬ modeller.Leaves before deeds handle := by
  induction deeds generalizing before with
  | nil =>
    cases performs
    refine ⟨(Grown.refl inventory _).congr fun handle => ?_, fun handle member =>
      absurd member List.not_mem_nil⟩
    refine ⟨fun member => absurd member (Set.notMem_empty handle), ?_⟩
    rintro (⟨⟨⟩⟩ | ⟨⟨⟩⟩)
  | cons deed deeds inductionHypothesis =>
    rcases performs with ⟨between, happens, later⟩
    rcases attempted_cons_eq_nil.mp idle with ⟨rests, idle⟩
    have begun := grown_of_happens inventory happens rests
    rcases inductionHypothesis later idle with ⟨grown, apart⟩
    have leaves (handle : H) : modeller.Leaves before (deed :: deeds) handle ↔
        modeller.Strays before deed handle ∨ modeller.Leaves between deeds handle :=
      leaves_cons happens
    constructor
    · refine (begun.trans grown).congr fun handle => ?_
      rw [Set.mem_ofPred_eq, mem_made_cons, leaves]
      exact or_or_or_comm
    · intro handle makes
      rw [leaves]
      rcases mem_made_cons.mp makes with first | other
      · rintro (strays | leaves)
        · rcases strays with ⟨_, _, _, rfl, -⟩
          cases first
        · exact begun.not_mem_both grown (Or.inl first) (Or.inr leaves)
      · rintro (strays | leaves)
        · exact begun.not_mem_both grown (Or.inr strays) (Or.inl other)
        · exact apart handle other leaves

/-- What is taken back is gone, if everything that is to be taken back goes. -/
theorem live_of_takingBack (inventory : modeller.Inventory) {handles : List H}
    {losses : List Failure} {interruption : Option Failure}
    (back : TakingBack handles deeds losses interruption)
    (goes : ∀ attempt ∈ takenBack deeds, attempt.2 = .ok ())
    (performs : modeller.scene.Performs before deeds after) :
    (∀ handle, handle ∈ inventory.live after.document ↔
      handle ∈ inventory.live before.document ∧ handle ∉ handles) ∧
      after.prefab = before.prefab := by
  induction back generalizing before with
  | done =>
    cases performs
    refine ⟨fun handle => ?_, rfl⟩
    rw [and_iff_left List.not_mem_nil]
  | interrupted handle handles =>
    cases goes _ List.mem_cons_self
  | lost handle recoverable later =>
    cases goes _ List.mem_cons_self
  | removed handle later inductionHypothesis =>
    rcases performs with ⟨between, happens, followed⟩
    rcases Workshop.onDocument_run happens with ⟨run, same⟩
    have gone : inventory.live between.document = inventory.live before.document \ {handle} := by
      cases removes : modeller.remove (modeller.object handle) before.document with
      | ok value document =>
        have destroyed := orRefused_of_ok modeller .destroy (modeller.object handle) removes
        cases destroyed.symm.trans run
        exact inventory.removed removes
      | error failure document =>
        rcases orRefused_of_error modeller .destroy (modeller.object handle) removes with
            ⟨refusal, refused⟩
        cases refused.symm.trans run
    rcases inductionHypothesis (fun attempt member => goes attempt (List.mem_cons_of_mem _ member))
      followed with ⟨lives, still⟩
    refine ⟨fun other => ?_, still.trans same⟩
    rw [lives, gone, Set.mem_sdiff, Set.mem_singleton_iff, List.mem_cons, not_or, and_assoc]

/-! ## What a growth leaves -/

section

variable {settings : Settings R} {branch : Branch Float32 Float}
  {branches : List (Branch Float32 Float)} {handles : List H}

theorem not_leaves_of_placing {result : Except Failure H}
    (placing : Placing settings branch handle deeds result) :
    ¬ modeller.Leaves before deeds copy := by
  refine not_leaves_of_passed fun deed member => ?_
  cases placing with
  | unturned => cases member
  | unplaced =>
    cases List.mem_singleton.mp member
    exact Option.some_ne_none _
  | moved =>
    rcases List.mem_pair.mp member with rfl | rfl <;> exact Option.some_ne_none _

/-- What leaves a copy behind is the making of an object, if it is not made. -/
theorem leaves_of_making {result : Except Failure H}
    (making : Making settings branch deeds handles result)
    (leaves : modeller.Leaves before deeds copy) :
    (∃ failure, result = .error failure) ∧ modeller.Copies settings.prefab before copy := by
  cases making with
  | refused failure =>
    rcases leaves with ⟨_, _, _, ⟨⟩, copies⟩ | ⟨_, _, ⟨⟩⟩
    exact ⟨⟨_, rfl⟩, copies⟩
  | registered placing =>
    rcases leaves with ⟨_, _, _, ⟨⟩, -⟩ | ⟨between, -, leaves⟩
    exact absurd leaves (not_leaves_of_placing placing)

/-- The making of several objects ends with the first one that is not made, so at most one copy is
left behind. -/
theorem leaves_unique_of_makingAll {failure : Option Failure}
    (making : MakingAll settings branches deeds handles failure)
    (performs : modeller.scene.Performs before deeds after)
    (leaves : modeller.Leaves before deeds copy) (again : modeller.Leaves before deeds handle) :
    copy = handle := by
  induction making generalizing before with
  | done => cases leaves
  | stopped branches first =>
    exact (leaves_of_making first leaves).2.unique (leaves_of_making first again).2
  | next first later inductionHypothesis =>
    rcases performs.split with ⟨between, begun, done⟩
    have well (copy : H) : ¬ modeller.Leaves before _ copy := fun leaves => by
      rcases (leaves_of_making first leaves).1 with ⟨failure, ⟨⟩⟩
    exact inductionHypothesis done (((leaves_append begun).mp leaves).resolve_left (well copy))
      (((leaves_append begun).mp again).resolve_left (well handle))

theorem leaves_unique_of_growing [AngleSource J Float] {tree regrown : Tree H R J}
    {growth : Growth} {failure : Option Failure}
    (growing : Growing tree growth deeds regrown failure)
    (performs : modeller.scene.Performs before deeds after)
    (leaves : modeller.Leaves before deeds copy) (again : modeller.Leaves before deeds handle) :
    copy = handle := by
  cases growing with
  | lost walk => cases leaves
  | built walk among spatial making =>
    exact leaves_unique_of_makingAll making performs leaves again

end

theorem not_leaves_of_clearing {handles left : List H} {failure : Option Failure}
    (clearing : Clearing handles deeds left failure) : ¬ modeller.Leaves before deeds copy := by
  induction clearing generalizing before with
  | done => exact not_false
  | stuck handle handles failure => rintro (⟨_, _, _, ⟨⟩, -⟩ | ⟨_, _, ⟨⟩⟩)
  | next handle later inductionHypothesis =>
    rintro (⟨_, _, _, ⟨⟩, -⟩ | ⟨_, -, leaves⟩)
    exact inductionHypothesis leaves

theorem not_leaves_of_takingBack {handles : List H} {losses : List Failure}
    {interruption : Option Failure} (back : TakingBack handles deeds losses interruption) :
    ¬ modeller.Leaves before deeds copy := by
  induction back generalizing before with
  | done => exact not_false
  | interrupted => rintro (⟨_, _, _, ⟨⟩, -⟩ | ⟨_, _, ⟨⟩⟩)
  | removed handle later inductionHypothesis =>
    rintro (⟨_, _, _, ⟨⟩, -⟩ | ⟨_, -, leaves⟩)
    exact inductionHypothesis leaves
  | lost handle recoverable later inductionHypothesis =>
    rintro (⟨_, _, _, ⟨⟩, -⟩ | ⟨_, -, leaves⟩)
    exact inductionHypothesis leaves

/-! ## What a failed tree leaves -/

/-- What a growth leaves when nothing is taken back. -/
theorem grown_of_growing [AngleSource J Float] (inventory : modeller.Inventory)
    {tree regrown : Tree H R J} {growth : Growth} {failure : Option Failure}
    (growing : Growing tree growth deeds regrown failure) (bare : tree.branches = [])
    (performs : modeller.scene.Performs before deeds after) :
    Grown inventory {handle | handle ∈ regrown.branches ∨ modeller.Leaves before deeds handle}
        before after ∧
      ∀ handle ∈ regrown.branches, ¬ modeller.Leaves before deeds handle := by
  rw [growing.branches_eq, bare, List.nil_append]
  exact grown_of_performs inventory performs growing.attempted_nil

/-- What clearing away and taking back leave behind is nothing. -/
theorem leaves_after_clearing {handles left : List H} {failure : Option Failure}
    (clearing : Clearing handles first left failure)
    (cleared : modeller.scene.Performs before first between) :
    modeller.Leaves before (first ++ second) = modeller.Leaves between second := by
  ext copy
  rw [leaves_append cleared, or_iff_right (not_leaves_of_clearing clearing)]

theorem leaves_before_takingBack {handles : List H} {losses : List Failure}
    {interruption : Option Failure} (back : TakingBack handles second losses interruption)
    (performs : modeller.scene.Performs before first between) :
    modeller.Leaves before (first ++ second) = modeller.Leaves before first := by
  ext copy
  rw [leaves_append performs, or_iff_left (not_leaves_of_takingBack back)]

/-- What is left of a tree that has been cleared away and then fails, if the deeds from the
beginning are the given ones: the objects that are still registered, unless it could be recovered
from the failure, and at most one copy besides. -/
structure Left (inventory : modeller.Inventory) (start before after : Workshop δ H)
    (deeds : List (Deed H R)) (registered : List H) (failure : Failure) : Prop where
  grown : Grown inventory {handle | handle ∈ registered ∨ modeller.Leaves start deeds handle}
    before after
  apart : ∀ handle ∈ registered, ¬ modeller.Leaves start deeds handle
  bare : failure.recoverable = true → registered = []
  single : ∀ copy other, modeller.Leaves start deeds copy → modeller.Leaves start deeds other →
    copy = other

/-- A tree that has been cleared away leaves only what its growth leaves and what it cannot take
back. -/
theorem left_of_regeneration [AngleSource J Float] (inventory : modeller.Inventory)
    {tree regrown : Tree H R J} {start iterations : Option Value} {growth : Growth}
    {warnings : List Event} {failure : Failure}
    (valid : (tree.settings.overridden start iterations).validate = .ok growth)
    (clearing : Clearing tree.branches first [] none)
    (cleared : modeller.scene.Performs before first between)
    (regeneration : Regeneration tree start iterations deeds regrown warnings (some failure))
    (performs : modeller.scene.Performs before deeds after)
    (goes : ∀ attempt ∈ takenBack deeds, attempt.2 = .ok ()) :
    Left inventory before between after deeds regrown.branches failure := by
  cases regeneration with
  | refused invalid => cases valid.symm.trans invalid
  | stuck _ stuck => cases (clearing.settled cleared stuck performs).2
  | interrupted _ clearingAgain growing unrecoverable =>
    rcases performs.split with ⟨emptied, clears, grows⟩
    cases (clearing.settled cleared clearingAgain clears).1
    cases cleared.unique clears
    rcases grown_of_growing inventory growing rfl grows with ⟨grown, apart⟩
    rw [← leaves_after_clearing clearing cleared] at grown apart
    refine ⟨grown, apart, fun recoverable => ?_, fun copy other leaves again => ?_⟩
    · cases recoverable.symm.trans unrecoverable
    · rw [leaves_after_clearing clearing cleared] at leaves again
      exact leaves_unique_of_growing growing grows leaves again
  | abandoned _ clearingAgain growing recoverable taking =>
    rcases performs.split with ⟨middle, begun, takes⟩
    rcases begun.split with ⟨emptied, clears, grows⟩
    cases (clearing.settled cleared clearingAgain clears).1
    cases cleared.unique clears
    have same := (leaves_before_takingBack taking begun).trans
      (leaves_after_clearing clearing cleared)
    rcases grown_of_growing inventory growing rfl grows with ⟨grown, apart⟩
    rw [takenBack_append, growing.takenBack_nil clearing, List.nil_append] at goes
    rcases live_of_takingBack inventory taking goes takes with ⟨lives, kept⟩
    rw [← same] at grown apart
    refine ⟨(Grown.without grown apart lives kept).congr fun handle => ?_, ?_, fun _ => rfl,
      fun copy other leaves again => ?_⟩
    · exact (or_iff_right List.not_mem_nil).symm
    · exact fun handle member => absurd member List.not_mem_nil
    · rw [same] at leaves again
      exact leaves_unique_of_growing growing grows leaves again

/-- For every prefab and every parent, an object that cannot be made leaves behind the copy of it
that has come into being, if one has, and nothing else but the renderer's own prefab.

So it is with a tree that has been cleared away and then fails to grow, if everything that is taken
back goes.  What is left are the objects that the tree still registers, which are none unless it was
interrupted, and the copy that the one call left behind which made no object although it had copied
one.  There is at most one such call. -/
theorem failure_leaves_copy [AngleSource J Float] (inventory : modeller.Inventory) :
    (∀ (prefab parent : Option R) (failure : Failure) (before after : Workshop δ H),
      modeller.scene.instantiate prefab parent before = .error failure after →
        Grown inventory {copy | modeller.Copies prefab before copy} before after ∧
        ∀ copy other, modeller.Copies prefab before copy → modeller.Copies prefab before other →
          copy = other) ∧
    ∀ (start iterations : Option Value) (plot cleared final : Plot (Workshop δ H) H R J)
      (growth : Growth) (failure : Failure) (deeds : List (Deed H R)),
      (plot.tree.settings.overridden start iterations).validate = .ok growth →
      Plot.clear modeller.scene plot = .ok () cleared →
      Plot.regenerate modeller.scene start iterations plot = .error failure final →
      Plot.deedsOf (Plot.regenerateWatched modeller.scene start iterations) plot = deeds →
      (∀ attempt ∈ takenBack deeds, attempt.2 = .ok ()) →
        Left inventory plot.scene cleared.scene final.scene deeds final.tree.branches failure := by
  constructor
  · intro prefab parent failure before after fails
    have happens : (Deed.instantiate prefab parent (.error failure)).Happens modeller.scene before
      after := fails
    refine ⟨(grown_of_happens inventory happens rfl).congr fun copy => ?_,
      fun copy other copies again => copies.unique again⟩
    constructor
    · rintro (⟨⟨⟩⟩ | ⟨_, _, _, ⟨⟩, copies⟩)
      exact copies
    · exact fun copies => Or.inr ⟨prefab, parent, failure, rfl, copies⟩
  · intro start iterations plot cleared final growth failure deeds valid clears fails noted goes
    rcases Plot.clear_course modeller.scene plot with
        ⟨left, stuck, emptied, clearing, performed, run⟩
    cases stuck with
    | some failure => cases clears.symm.trans run
    | none =>
      cases clears.symm.trans run
      cases clearing.left_of_none
      rcases Plot.regenerate_course modeller.scene start iterations plot with
          ⟨events, ended, reached, regeneration, performs, -, whole⟩
      rw [noted] at regeneration performs
      cases ended with
      | none => cases fails.symm.trans whole
      | some raised =>
        cases fails.symm.trans whole
        exact left_of_regeneration inventory valid clearing performed regeneration performs goes

/-! ## A parent that is none -/

/-- A workshop without any object. -/
def blank : Workshop Document Nat where
  document := {}

/-- What is raised when a home is looked for where a mere text is to be the parent. -/
def homeless : Failure := ⟨Document.textLacks "users_collection", [], []⟩

/-- A mere text is no parent.  So no object is made under it, but a copy of the renderer's own
prefab comes. -/
theorem blank_strays (kept : Float32 → Float32) (name : String) :
    (∃ copy, (Document.modeller kept).Copies none blank copy) ∧
    ∃ after, (Document.modeller kept).instantiate none (some (.text name)) blank =
      .error homeless after := by
  rcases Document.makePrefab_added kept prefabName prefabSegments {} with
      ⟨prefab, document, makes, added, stands⟩
  have missing : blank.prefab = none := rfl
  have owned := (ownPrefab_of_none (Document.modeller kept) missing).trans
    (Act.bind_of_ok (Workshop.onDocument_of_ok makes none))
  have prepared : (Document.modeller kept).prefabOr none blank =
      .ok (.object 0) ⟨document, some 0⟩ := Act.map_of_ok _ owned
  rcases Document.copy_of_live added.found stands with ⟨used, copied, copying, -⟩
  refine ⟨⟨_, _, _, _, prepared, copying⟩, ⟨copied, some 0⟩, ?_⟩
  have unplaced : (Document.modeller kept).place (.object 0) (some (.text name)) document =
      .error homeless copied := (Act.bind_of_ok copying).trans rfl
  have unmade : (Document.modeller kept).orRefused .instantiate (.object 0)
      ((Document.modeller kept).place (.object 0) (some (.text name))) document =
      .error homeless copied := by
    unfold orRefused
    rw [unplaced]
    rfl
  exact (Act.bind_of_ok prepared).trans (Workshop.onDocument_of_error unmade (some 0))

/-- An object that could not be made has left something behind, which is not the renderer's own
prefab. -/
theorem homeless_copy_stays : ∃ failure after copy,
    (Document.modeller Number.finiteSingle).scene.instantiate none (some (.text "ghost")) blank =
      .error failure after ∧
    ¬ blank.document.Live copy ∧ after.document.Live copy ∧ after.prefab ≠ some copy := by
  rcases blank_strays Number.finiteSingle "ghost" with ⟨⟨copy, copies⟩, after, unmade⟩
  have happens : (Deed.instantiate none (some (.text "ghost")) (.error homeless)).Happens
      (Document.modeller Number.finiteSingle).scene blank after := unmade
  have grown := grown_of_happens (Document.inventory Number.finiteSingle) happens rfl
  have stray : (Document.modeller Number.finiteSingle).Strays blank
      (.instantiate none (some (.text "ghost")) (.error homeless)) copy :=
    ⟨_, _, _, rfl, copies⟩
  refine ⟨homeless, after, copy, unmade, grown.fresh copy (Or.inr stray),
    (grown.live copy).mpr (Or.inr (Or.inl (Or.inr stray))), fun own => ?_⟩
  exact grown.apart copy (Or.inr stray) ⟨rfl, own⟩

/-- A tree of one segment that is to stand under a mere text. -/
def haunted : Plot (Workshop Document Nat) Nat Reference Jitter where
  scene := blank
  tree := { settings := { parent := some (.text "ghost") }, jitter := .constant (.real 0) }

theorem haunted_valid :
    (haunted.tree.settings.overridden none none).validate = .ok Plot.segment := rfl

theorem haunted_walks : ∃ (turtle : Turtle Float32 Float Jitter) (left : Jitter),
    interpret Plot.segment.word haunted.tree.jitter = .ok turtle left ∧ turtle.points.size = 2 :=
  ⟨_, _, rfl, rfl⟩

/-- The only call for it fails, and nothing is registered that could be taken back. -/
theorem haunted_fails (kept : Float32 → Float32) : ∃ surfaced final,
    Plot.deedsOf (Plot.regenerateWatched (Document.modeller kept).scene none none) haunted =
      [.instantiate none (some (.text "ghost")) (.error homeless)] ∧
    Plot.regenerate (Document.modeller kept).scene none none haunted = .error surfaced final ∧
    surfaced.recoverable = true := by
  rcases haunted_walks with ⟨turtle, jitter, walk, size⟩
  rcases Plot.grow_of_walk ((Document.modeller kept).scene.watched .clearing) walk with
      ⟨branches, events, -, one, -, -, grows⟩
  rw [size] at one
  rcases List.length_eq_one_iff.mp one with ⟨branch, rfl⟩
  rcases (blank_strays kept "ghost").2 with ⟨after, unmade⟩
  have happens : (Deed.instantiate none (some (.text "ghost")) (.error homeless)).Happens
      (Document.modeller kept).scene blank after := unmade
  let sown := (haunted.tree.sow Plot.segment).shape turtle.points [branch] jitter
  have called := Plot.sceneCall_of_error .instantiate
    (Scene.watched_instantiate .clearing happens []) (haunted.log ++ events) sown
  have created : Plot.createBranch ((Document.modeller kept).scene.watched .clearing) branch
      ⟨(blank, []), haunted.log ++ events, sown⟩ = .error _ _ :=
    (Plot.createBranch_eq ..).trans (Act.bind_of_error called)
  have run := (grows (blank, []) haunted.log).trans
    (Act.bind_of_error (Act.discard_of_error created))
  have cleared := Plot.regenerateBetween_of_cleared
    ((Document.modeller kept).scene.watched .clearing)
    ((Document.modeller kept).scene.watched .takingBack) haunted.watching haunted_valid rfl
  have back := Plot.orTakenBack_of_error ((Document.modeller kept).scene.watched .takingBack) run
    rfl
  have whole : Plot.regenerateWatched (Document.modeller kept).scene none none haunted.watching =
      Act.settled (.error _) ⟨(after, _), _, _⟩ :=
    cleared.trans (Act.bind_of_error (back.trans rfl))
  refine ⟨_, _, Plot.deedsOf_of_run whole,
    Plot.run_of_watched (Plot.regenerateWatched_mirrors _ none none) whole, rfl⟩

/-- The tree fails, and besides the renderer's own prefab one copy stays in the document. -/
theorem haunted_leaves_copy : ∃ failure final copy,
    Plot.regenerate (Document.modeller Number.finiteSingle).scene none none haunted =
      .error failure final ∧
    final.tree.branches = [] ∧ final.scene.prefab ≠ some copy ∧
    ∀ other, final.scene.document.Live other ↔
      other = copy ∨ final.scene.prefab = some other := by
  rcases haunted_fails Number.finiteSingle with ⟨failure, final, noted, fails, recoverable⟩
  rcases blank_strays Number.finiteSingle "ghost" with ⟨⟨copy, copies⟩, -⟩
  have left := (failure_leaves_copy (Document.inventory Number.finiteSingle)).2 none none haunted
    haunted final Plot.segment failure _ haunted_valid rfl fails noted
    (fun attempt member => absurd member List.not_mem_nil)
  have bare := left.bare recoverable
  have leaves : (Document.modeller Number.finiteSingle).Leaves haunted.scene
      [.instantiate none (some (.text "ghost")) (.error homeless)] copy :=
    Or.inl ⟨_, _, _, rfl, copies⟩
  refine ⟨failure, final, copy, fails, bare, fun own => ?_, fun other => ?_⟩
  · exact left.grown.apart copy (Or.inr leaves) ⟨rfl, own⟩
  · refine (left.grown.live other).trans ?_
    constructor
    · rintro (⟨object, found, -⟩ | (member | again) | ⟨-, own⟩)
      · cases found
      · rw [bare] at member
        cases member
      · exact Or.inl (left.single other copy again leaves)
      · exact Or.inr own
    · rintro (rfl | own)
      · exact Or.inr (Or.inl (Or.inr leaves))
      · exact Or.inr (Or.inr ⟨rfl, own⟩)

end Modeller
end Arbor
