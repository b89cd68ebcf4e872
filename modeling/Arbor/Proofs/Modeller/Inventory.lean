import Arbor.Proofs.Modeller.Calls
import Mathlib.Data.Set.Insert

/-!
# What comes to a document

Making an object is a copy and several calls after it, and each of these can fail.  An `Inventory`
is what a modeller is relied on for here: an object comes by being added or copied, goes by being
removed, and no other call lets one come or go, whether it fails or not.  Then a renderer that makes
an object lets a copy come exactly if the copying itself succeeds, whatever the calls after it come
to.  Besides only the renderer's own prefab can come, and `Grown` keeps it apart from the copies.
-/

namespace Arbor

variable {δ H R : Type}

namespace Workshop

/-- The renderer has made a prefab of its own meanwhile. -/
def Stocked (before after : Workshop δ H) (handle : H) : Prop :=
  before.prefab = none ∧ after.prefab = some handle

theorem not_stocked {before after : Workshop δ H} (same : after.prefab = before.prefab)
    (handle : H) : ¬ Stocked before after handle := by
  rintro ⟨missing, own⟩
  cases (same.trans missing).symm.trans own

end Workshop

namespace Modeller

open Workshop

/-- What a modeller is relied on for as to which objects are in a document: one comes when it is
added or copied, one goes when it is removed, and none comes or goes otherwise. -/
structure Inventory (modeller : Modeller δ H R) where
  /-- The objects in a document. -/
  live : δ → Set H
  copied : ∀ {reference : R} {handle : H} {before after : δ},
    modeller.copy reference before = .ok handle after →
      handle ∉ live before ∧ live after = insert handle (live before)
  uncopied : ∀ {reference : R} {failure : Failure} {before after : δ},
    modeller.copy reference before = .error failure after → live after = live before
  added : ∀ {name : String} {mesh : Option modeller.Mesh} {handle : H} {before after : δ},
    modeller.addObject name mesh before = .ok handle after →
      handle ∉ live before ∧ live after = insert handle (live before)
  unadded : ∀ {name : String} {mesh : Option modeller.Mesh} {failure : Failure} {before after : δ},
    modeller.addObject name mesh before = .error failure after → live after = live before
  removed : ∀ {handle : H} {before after : δ},
    modeller.remove (modeller.object handle) before = .ok () after →
      live after = live before \ {handle}
  addMesh : ∀ name objects, Act.Keeps (live · = objects) (modeller.addMesh name)
  shapeMesh : ∀ mesh segments objects,
    Act.Keeps (live · = objects) (modeller.shapeMesh mesh segments)
  homes : ∀ reference objects, Act.Keeps (live · = objects) (modeller.homes reference)
  activeHome : ∀ objects, Act.Keeps (live · = objects) modeller.activeHome
  link : ∀ home handle objects, Act.Keeps (live · = objects) (modeller.link home handle)
  setParent : ∀ child parent objects, Act.Keeps (live · = objects) (modeller.setParent child parent)
  setLocation : ∀ reference components objects,
    Act.Keeps (live · = objects) (modeller.setLocation reference components)
  setOrder : ∀ reference order objects,
    Act.Keeps (live · = objects) (modeller.setOrder reference order)
  setRotation : ∀ reference components objects,
    Act.Keeps (live · = objects) (modeller.setRotation reference components)
  setScale : ∀ reference components objects,
    Act.Keeps (live · = objects) (modeller.setScale reference components)

variable {modeller : Modeller δ H R}

/-- A copy of the prefab comes into being when an object is to be made: there is something to be
copied, and copying it succeeds. -/
def Copies (modeller : Modeller δ H R) (prefab : Option R) (before : Workshop δ H) (copy : H) :
    Prop :=
  ∃ reference between copied, modeller.prefabOr prefab before = .ok reference between ∧
    modeller.copy reference between.document = .ok copy copied

theorem Copies.unique {prefab : Option R} {before : Workshop δ H} {copy other : H}
    (copies : modeller.Copies prefab before copy) (again : modeller.Copies prefab before other) :
    copy = other := by
  rcases copies with ⟨reference, between, copied, prepared, run⟩
  rcases again with ⟨_, _, _, preparedAgain, runAgain⟩
  cases prepared.symm.trans preparedAgain
  cases run.symm.trans runAgain
  rfl

/-- The objects in the document are those from before, some new ones, and the renderer's own prefab
if that has been made meanwhile.  These have nothing in common. -/
structure Grown (inventory : modeller.Inventory) (news : Set H) (before after : Workshop δ H) :
    Prop where
  standing : ∀ handle, before.prefab = some handle → after.prefab = some handle
  live : ∀ handle, handle ∈ inventory.live after.document ↔
    handle ∈ inventory.live before.document ∨ handle ∈ news ∨ Stocked before after handle
  fresh : ∀ handle ∈ news, handle ∉ inventory.live before.document
  stocked : ∀ handle, Stocked before after handle → handle ∉ inventory.live before.document
  apart : ∀ handle ∈ news, ¬ Stocked before after handle

namespace Grown

variable {inventory : modeller.Inventory} {news more : Set H} {before between after : Workshop δ H}
  {handle : H}

/-- Nothing has come. -/
theorem still (lives : inventory.live after.document = inventory.live before.document)
    (same : after.prefab = before.prefab) : Grown inventory ∅ before after where
  standing _ own := same.trans own
  live handle := by
    rw [lives, or_iff_left]
    rintro (member | stocked)
    · exact member
    · exact not_stocked same handle stocked
  fresh _ member := absurd member (Set.notMem_empty _)
  stocked handle stocked := absurd stocked (not_stocked same handle)
  apart _ member := absurd member (Set.notMem_empty _)

theorem refl (inventory : modeller.Inventory) (workshop : Workshop δ H) :
    Grown inventory ∅ workshop workshop := still rfl rfl

/-- What is new may be said in other words. -/
theorem congr (grown : Grown inventory news before after)
    (same : ∀ handle, handle ∈ news ↔ handle ∈ more) : Grown inventory more before after := by
  rwa [← Set.ext same]

/-- An object has come. -/
theorem single (new : handle ∉ inventory.live before.document)
    (lives : inventory.live after.document = insert handle (inventory.live before.document))
    (same : after.prefab = before.prefab) : Grown inventory {handle} before after where
  standing _ own := same.trans own
  live other := by
    rw [lives, Set.mem_insert_iff, Set.mem_singleton_iff,
      or_iff_left (not_stocked same other), or_comm]
  fresh _ member := Set.mem_singleton_iff.mp member ▸ new
  stocked other stocked := absurd stocked (not_stocked same other)
  apart other _ := not_stocked same other

/-- The renderer's own prefab has come. -/
theorem stock (new : handle ∉ inventory.live before.document)
    (lives : inventory.live after.document = insert handle (inventory.live before.document))
    (missing : before.prefab = none) (own : after.prefab = some handle) :
    Grown inventory ∅ before after := by
  have stocked (other : H) : Stocked before after other ↔ other = handle := by
    unfold Stocked
    rw [own, and_iff_right missing, Option.some_inj, eq_comm]
  refine ⟨fun other had => ?_, fun other => ?_, fun _ member => absurd member (Set.notMem_empty _),
    fun other same => ?_, fun _ member => absurd member (Set.notMem_empty _)⟩
  · cases missing.symm.trans had
  · rw [lives, Set.mem_insert_iff, stocked, or_iff_right (Set.notMem_empty other), or_comm]
  · rw [(stocked other).mp same]
    exact new

section

variable (first : Grown inventory news before between) (later : Grown inventory more between after)
include first later

theorem stocked_iff (handle : H) :
    Stocked before after handle ↔ Stocked before between handle ∨ Stocked between after handle := by
  cases had : before.prefab with
  | some own =>
    have kept := first.standing own had
    simp only [Stocked, had, kept, reduceCtorEq, false_and, or_self]
  | none =>
    cases has : between.prefab with
    | some own =>
      have kept := later.standing own has
      simp only [Stocked, had, has, kept, true_and, reduceCtorEq, false_and, or_false]
    | none => simp only [Stocked, had, has, true_and, reduceCtorEq, false_or]

/-- What comes later has not come before. -/
theorem not_mem_both (member : handle ∈ news) : handle ∉ more := fun again =>
  later.fresh handle again ((first.live handle).mpr (Or.inr (Or.inl member)))

theorem trans : Grown inventory (news ∪ more) before after := by
  have stockedIff := first.stocked_iff later
  have inside {handle : H} (live : handle ∈ inventory.live before.document) :
      handle ∈ inventory.live between.document := (first.live handle).mpr (Or.inl live)
  refine ⟨fun handle own => later.standing handle (first.standing handle own), fun handle => ?_,
    ?_, fun handle stocked live => ?_, ?_⟩
  · rw [later.live, first.live, stockedIff, Set.mem_union]
    simp only [or_assoc, or_left_comm]
  · rintro handle (member | member)
    · exact first.fresh handle member
    · exact fun live => later.fresh handle member (inside live)
  · rcases (stockedIff handle).mp stocked with soon | late
    · exact first.stocked handle soon live
    · exact later.stocked handle late (inside live)
  · rintro handle (member | member) stocked
    · rcases (stockedIff handle).mp stocked with soon | late
      · exact first.apart handle member soon
      · exact later.stocked handle late ((first.live handle).mpr (Or.inr (Or.inl member)))
    · rcases (stockedIff handle).mp stocked with soon | late
      · exact later.fresh handle member ((first.live handle).mpr (Or.inr (Or.inr soon)))
      · exact later.apart handle member late

end

/-- Some of what was new has been removed. -/
theorem without {gone : Set H} (grown : Grown inventory (gone ∪ news) before between)
    (others : ∀ handle ∈ gone, handle ∉ news)
    (lives : ∀ handle, handle ∈ inventory.live after.document ↔
      handle ∈ inventory.live between.document ∧ handle ∉ gone)
    (same : after.prefab = between.prefab) : Grown inventory news before after := by
  have stocked (handle : H) : Stocked before after handle ↔ Stocked before between handle := by
    unfold Stocked
    rw [same]
  refine ⟨fun handle own => same.trans (grown.standing handle own), fun handle => ?_,
    fun handle member => grown.fresh handle (Or.inr member),
    fun handle had => grown.stocked handle ((stocked handle).mp had),
    fun handle member had => grown.apart handle (Or.inr member) ((stocked handle).mp had)⟩
  rw [lives, grown.live, stocked]
  constructor
  · rintro ⟨old | (member | member) | own, stays⟩
    · exact Or.inl old
    · exact absurd member stays
    · exact Or.inr (Or.inl member)
    · exact Or.inr (Or.inr own)
  · rintro (old | member | own)
    · exact ⟨Or.inl old, fun member => grown.fresh handle (Or.inl member) old⟩
    · exact ⟨Or.inr (Or.inl (Or.inr member)), fun removed => others handle removed member⟩
    · exact ⟨Or.inr (Or.inr own), fun member => grown.apart handle (Or.inl member) own⟩

end Grown

namespace Inventory

variable (inventory : modeller.Inventory)

/-! ## Preparing a prefab -/

/-- The object of a prefab comes last, after its mesh. -/
theorem makePrefab_run (name : String) (segments : Nat) (before : δ) :
    (∃ handle after, modeller.makePrefab name segments before = .ok handle after ∧
      handle ∉ inventory.live before ∧
      inventory.live after = insert handle (inventory.live before)) ∨
    ∃ failure after, modeller.makePrefab name segments before = .error failure after ∧
      inventory.live after = inventory.live before := by
  have meshed := inventory.addMesh (name ++ "_data") _ before rfl
  cases adds : modeller.addMesh (name ++ "_data") before with
  | error failure after =>
    rw [Act.reached_of_error adds] at meshed
    exact Or.inr ⟨failure, after, Act.bind_of_error adds, meshed⟩
  | ok mesh between =>
    rw [Act.reached_of_ok adds] at meshed
    have shaped := inventory.shapeMesh mesh segments _ between meshed
    cases shapes : modeller.shapeMesh mesh segments between with
    | error failure after =>
      rw [Act.reached_of_error shapes] at shaped
      exact Or.inr ⟨failure, after,
        (Act.bind_of_ok adds).trans (Act.bind_of_error shapes), shaped⟩
    | ok _ middle =>
      rw [Act.reached_of_ok shapes] at shaped
      have onward : modeller.makePrefab name segments before =
          modeller.addObject name (some mesh) middle :=
        (Act.bind_of_ok adds).trans (Act.bind_of_ok shapes)
      rw [onward, ← shaped]
      cases comes : modeller.addObject name (some mesh) middle with
      | ok handle after => exact Or.inl ⟨handle, after, rfl, inventory.added comes⟩
      | error failure after => exact Or.inr ⟨failure, after, rfl, inventory.unadded comes⟩

/-- Nothing but the renderer's own prefab comes while the prefab is prepared. -/
theorem prefabOr_grown (prefab : Option R) (before : Workshop δ H) :
    Grown inventory ∅ before ((modeller.prefabOr prefab).reached before) := by
  cases prefab with
  | some prefab => exact Grown.refl inventory before
  | none =>
    rw [prefabOr, Act.reached_map]
    cases had : before.prefab with
    | some handle =>
      rw [Act.reached_of_ok (ownPrefab_of_some modeller had)]
      exact Grown.refl inventory before
    | none =>
      have own := ownPrefab_of_none modeller had
      rcases inventory.makePrefab_run prefabName prefabSegments before.document with
          ⟨handle, document, made, new, lives⟩ | ⟨failure, document, unmade, lives⟩
      · have stocked := own.trans (Act.bind_of_ok (onDocument_of_ok made before.prefab))
        rw [Act.reached_of_ok (stocked.trans rfl)]
        exact Grown.stock new lives had rfl
      · have missing := own.trans
          (Act.bind_of_error (onDocument_of_error unmade before.prefab))
        rw [Act.reached_of_error missing]
        exact Grown.still lives rfl

/-! ## Making an object -/

theorem enlist_keeps (handle : H) (parent : Option R) (objects : Set H) :
    Act.Keeps (inventory.live · = objects) (modeller.enlist handle parent) := by
  have listed : Act.Keeps (inventory.live · = objects) (modeller.homeUnder parent) := by
    cases parent with
    | none => exact inventory.activeHome objects
    | some parent =>
      refine Act.Keeps.bind (inventory.homes parent objects) fun homes => ?_
      cases homes with
      | nil => exact inventory.activeHome objects
      | cons home homes => exact Act.Keeps.pure home
  refine Act.Keeps.bind listed fun home => ?_
  refine Act.Keeps.bind (inventory.link home handle objects) fun _ => ?_
  exact Act.Keeps.bind (inventory.setParent _ parent objects) fun _ => Act.Keeps.pure handle

/-- A copy stays whatever is done with it, and if something is given then it is the copy. -/
theorem place_of_copied {reference : R} {copy : H} {before copied : δ}
    (copying : modeller.copy reference before = .ok copy copied) (parent : Option R) :
    ∃ result after, modeller.orRefused .instantiate reference (modeller.place reference parent)
        before = Act.settled result after ∧
      (∀ other, result = .ok other → other = copy) ∧
      inventory.live after = insert copy (inventory.live before) := by
  have onward : modeller.place reference parent before = modeller.enlist copy parent copied :=
    Act.bind_of_ok copying
  have lives := inventory.enlist_keeps copy parent _ copied (inventory.copied copying).2
  cases enlists : modeller.enlist copy parent copied with
  | ok other after =>
    rw [Act.reached_of_ok enlists] at lives
    refine ⟨.ok other, after,
      orRefused_of_ok modeller .instantiate reference (onward.trans enlists), ?_, lives⟩
    rintro _ ⟨⟩
    exact enlist_gives modeller enlists
  | error failure after =>
    rw [Act.reached_of_error enlists] at lives
    rcases orRefused_of_error modeller .instantiate reference (onward.trans enlists) with
        ⟨refusal, refused⟩
    refine ⟨.error refusal, after, refused, ?_, lives⟩
    rintro _ ⟨⟩

/-- What has come of making an object: it is the copy that came into being, or the copy is there but
was never given to anyone, or there was nothing to be copied. -/
inductive Instantiation (modeller : Modeller δ H R) (prefab : Option R) (before : Workshop δ H) :
    Except Failure H → Set H → Prop
  | made {copy : H} (copies : modeller.Copies prefab before copy) :
    Instantiation modeller prefab before (.ok copy) {copy}
  | stray (failure : Failure) {copy : H} (copies : modeller.Copies prefab before copy) :
    Instantiation modeller prefab before (.error failure) {copy}
  | refused (failure : Failure) (nothing : ∀ copy, ¬ modeller.Copies prefab before copy) :
    Instantiation modeller prefab before (.error failure) ∅

/-- Making an object comes to one of the three things, for every prefab and every parent. -/
theorem instantiate_run (prefab parent : Option R) (before : Workshop δ H) :
    ∃ result come after, modeller.instantiate prefab parent before = Act.settled result after ∧
      Instantiation modeller prefab before result come ∧ Grown inventory come before after := by
  have grown := inventory.prefabOr_grown prefab before
  cases prepares : modeller.prefabOr prefab before with
  | error failure after =>
    rw [Act.reached_of_error prepares] at grown
    refine ⟨.error failure, ∅, after, Act.bind_of_error prepares, .refused failure ?_, grown⟩
    rintro copy ⟨_, _, _, prepared, -⟩
    cases prepares.symm.trans prepared
  | ok reference between =>
    rw [Act.reached_of_ok prepares] at grown
    cases copying : modeller.copy reference between.document with
    | error failure after =>
      have unplaced : modeller.place reference parent between.document = .error failure after :=
        Act.bind_of_error copying
      rcases orRefused_of_error modeller .instantiate reference unplaced with ⟨refusal, refused⟩
      have run : modeller.instantiate prefab parent before = .error refusal _ :=
        (Act.bind_of_ok prepares).trans (onDocument_of_error refused between.prefab)
      have later : Grown inventory ∅ between ⟨after, between.prefab⟩ :=
        Grown.still (inventory.uncopied copying) rfl
      refine ⟨.error refusal, ∅, _, run, .refused refusal ?_,
        Set.empty_union ∅ ▸ grown.trans later⟩
      rintro copy ⟨_, _, _, prepared, copied⟩
      cases prepares.symm.trans prepared
      cases copying.symm.trans copied
    | ok copy copied =>
      have copies : modeller.Copies prefab before copy :=
        ⟨reference, between, copied, prepares, copying⟩
      rcases inventory.place_of_copied copying parent with ⟨result, after, placed, gives, lives⟩
      have run : modeller.instantiate prefab parent before = Act.settled result _ :=
        (Act.bind_of_ok prepares).trans (onDocument_settled placed between.prefab)
      have later : Grown inventory {copy} between ⟨after, between.prefab⟩ :=
        Grown.single (inventory.copied copying).1 lives rfl
      refine ⟨result, {copy}, _, run, ?_, Set.empty_union {copy} ▸ grown.trans later⟩
      cases result with
      | ok other => exact gives other rfl ▸ .made (gives other rfl ▸ copies)
      | error failure => exact .stray failure copies

end Inventory
end Modeller
end Arbor
