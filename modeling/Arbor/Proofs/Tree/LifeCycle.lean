import Arbor.Proofs.Tree.Accounting
import Arbor.Proofs.Tree.Requests
import Arbor.Proofs.Walk.Sizes
import Arbor.Scene.Rehearsal

/-!
# The life cycle of an object

A tree is asked to clear itself and to grow anew, again and again, whatever comes of it.  Over a
scene that never gives a handle twice, the calls in which one handle occurs follow one pattern, no
matter where failures and interruptions strike: the object is made, placed and, once placed, moved;
removing it is attempted until it succeeds or the object is taken back; and after that its handle
is never used again.  The handles that are neither removed nor given up are those that the tree has
registered.

`Books` is the invariant: it relates all deeds so far to the registered handles.  Every stage of a
regeneration keeps the books.
-/

namespace Arbor

variable {σ H R J : Type}

section

variable [DecidableEq H]

/-- Whether a handle occurs in a deed, as what is made or as what is dealt with. -/
def Deed.concerns (handle : H) (deed : Deed H R) : Bool :=
  decide (deed.made? = some handle ∨ deed.passed? = some handle)

/-- The calls in which a handle occurs, in order. -/
def callsOf (handle : H) (deeds : List (Deed H R)) : List (Deed H R) :=
  deeds.filter (Deed.concerns handle)

end

/-- An object that has been made is placed, and moved if that succeeds. -/
inductive Placed (handle : H) : List (Deed H R) → Prop
  | unplaced (position : Space.Vec Float32) (turns : Space.Turns Float32)
    (scale : Space.Vec Float32) (failure : Failure) :
    Placed handle [.setTransform handle position turns scale (.error failure)]
  | moved (position : Space.Vec Float32) (turns : Space.Turns Float32)
    (scale : Space.Vec Float32) (parent : Option R) (result : Except Failure Unit) :
    Placed handle [.setTransform handle position turns scale (.ok ()),
      .reparent handle parent result]

/-- The life of an object that stands: it has been made and placed, and no attempt to remove it has
succeeded. -/
inductive Standing (handle : H) : List (Deed H R) → Prop
  | made (prefab parent : Option R) {calls : List (Deed H R)} (placed : Placed handle calls) :
    Standing handle (.instantiate prefab parent (.ok handle) :: calls)
  | refused {calls : List (Deed H R)} (standing : Standing handle calls) (failure : Failure) :
    Standing handle (calls ++ [.destroy .clearing handle (.error failure)])

/-- The life of an object up to some moment.  It ends when the object is cleared away or the only
attempt to take it back has been made. -/
inductive LifeCycle (handle : H) : List (Deed H R) → Prop
  | standing {calls : List (Deed H R)} (standing : Standing handle calls) : LifeCycle handle calls
  | cleared {calls : List (Deed H R)} (standing : Standing handle calls) :
    LifeCycle handle (calls ++ [.destroy .clearing handle (.ok ())])
  | takenBack {calls : List (Deed H R)} (standing : Standing handle calls)
    (result : Except Failure Unit) :
    LifeCycle handle (calls ++ [.destroy .takingBack handle result])

/-! ## The calls of one handle in one stage -/

section

variable [DecidableEq H] {handle other : H} {deed : Deed H R} {deeds first second : List (Deed H R)}

theorem callsOf_append (handle : H) (first second : List (Deed H R)) :
    callsOf handle (first ++ second) = callsOf handle first ++ callsOf handle second :=
  List.filter_append _ _

/-- A handle does not occur if it is neither made nor passed. -/
theorem callsOf_eq_nil_iff :
    callsOf handle deeds = [] ↔ handle ∉ made deeds ∧ handle ∉ passed deeds := by
  simp only [callsOf, List.filter_eq_nil_iff, Deed.concerns, decide_eq_true_eq, not_or, made,
    passed, List.mem_filterMap, not_exists, not_and, forall_and]

theorem callsOf_cons_of_passed (passes : deed.passed? = some handle) (deeds : List (Deed H R)) :
    callsOf handle (deed :: deeds) = deed :: callsOf handle deeds :=
  List.filter_cons_of_pos (decide_eq_true (Or.inr passes))

theorem callsOf_cons_of_other (makes : deed.made? ≠ some handle)
    (passes : deed.passed? ≠ some handle) (deeds : List (Deed H R)) :
    callsOf handle (deed :: deeds) = callsOf handle deeds :=
  List.filter_cons_of_neg fun concerned => (of_decide_eq_true concerned).elim makes passes

theorem callsOf_destroy (removal : Removal) (handle : H) (result : Except Failure Unit)
    (deeds : List (Deed H R)) :
    callsOf handle (.destroy removal handle result :: deeds) =
      .destroy removal handle result :: callsOf handle deeds :=
  callsOf_cons_of_passed rfl deeds

theorem callsOf_destroy_of_ne (different : handle ≠ other) (removal : Removal)
    (result : Except Failure Unit) (deeds : List (Deed H R)) :
    callsOf handle (.destroy removal other result :: deeds) = callsOf handle deeds := by
  have passes : (Deed.destroy removal other result : Deed H R).passed? ≠ some handle :=
    fun same => different (Option.some.inj same).symm
  have makes : (Deed.destroy removal other result : Deed H R).made? ≠ some handle :=
    (Option.some_ne_none handle).symm
  exact callsOf_cons_of_other makes passes deeds

end

namespace Clearing

variable [DecidableEq H] {handles left : List H} {deeds : List (Deed H R)}
  {failure : Option Failure} {handle : H}

theorem callsOf_nil (clearing : Clearing handles deeds left failure) (other : handle ∉ handles) :
    callsOf handle deeds = [] :=
  callsOf_eq_nil_iff.mpr ⟨clearing.made_nil ▸ List.not_mem_nil,
    fun member => other (clearing.passed_subset member)⟩

/-- An object that is cleared away is passed to the scene once. -/
theorem callsOf_destroyed (clearing : Clearing handles deeds left failure) (nodup : handles.Nodup)
    (gone : handle ∈ destroyed deeds) :
    callsOf handle deeds = [.destroy .clearing handle (.ok ())] := by
  induction clearing with
  | done => cases gone
  | stuck => cases gone
  | @next first handles _ deeds _ later inductionHypothesis =>
    rcases List.nodup_cons.mp nodup with ⟨different, nodup⟩
    rcases mem_destroyed_cons.mp gone with same | gone
    · cases same
      rw [callsOf_destroy, later.callsOf_nil different]
    · have member : handle ∈ handles :=
        later.destroyed_append_left ▸ List.mem_append_left _ gone
      have other : handle ≠ first := fun same => different (same ▸ member)
      rw [callsOf_destroy_of_ne other]
      exact inductionHypothesis nodup gone

/-- An object that is left has at most been passed to the scene in vain. -/
theorem callsOf_left (clearing : Clearing handles deeds left failure) (nodup : handles.Nodup)
    (stays : handle ∈ left) :
    callsOf handle deeds = [] ∨
      ∃ refusal, callsOf handle deeds = [.destroy .clearing handle (.error refusal)] := by
  induction clearing with
  | done => cases stays
  | stuck first handles refusal =>
    by_cases same : handle = first
    · subst same
      exact Or.inr ⟨refusal, callsOf_destroy _ _ _ []⟩
    · exact Or.inl (callsOf_destroy_of_ne same _ _ [])
  | @next first handles left deeds _ later inductionHypothesis =>
    rcases List.nodup_cons.mp nodup with ⟨different, nodup⟩
    have member : handle ∈ handles :=
      later.destroyed_append_left ▸ List.mem_append_right _ stays
    have other : handle ≠ first := fun same => different (same ▸ member)
    rw [callsOf_destroy_of_ne other]
    exact inductionHypothesis nodup stays

end Clearing

namespace TakingBack

variable [DecidableEq H] {handles : List H} {deeds : List (Deed H R)} {losses : List Failure}
  {interruption : Option Failure} {handle : H}

theorem callsOf_nil (back : TakingBack handles deeds losses interruption)
    (other : handle ∉ handles) : callsOf handle deeds = [] :=
  callsOf_eq_nil_iff.mpr ⟨back.made_nil ▸ List.not_mem_nil,
    fun member => other (back.passed_subset member)⟩

/-- At most one attempt is made to take an object back. -/
theorem callsOf_mem (back : TakingBack handles deeds losses interruption) (nodup : handles.Nodup)
    (member : handle ∈ handles) :
    callsOf handle deeds = [] ∨
      ∃ result, callsOf handle deeds = [.destroy .takingBack handle result] := by
  induction back with
  | done => cases member
  | @interrupted first _ failure =>
    by_cases same : handle = first
    · subst same
      exact Or.inr ⟨.error failure, callsOf_destroy _ _ _ []⟩
    · exact Or.inl (callsOf_destroy_of_ne same _ _ [])
  | removed first later inductionHypothesis =>
    rcases List.nodup_cons.mp nodup with ⟨different, nodup⟩
    by_cases same : handle = first
    · subst same
      refine Or.inr ⟨.ok (), ?_⟩
      rw [callsOf_destroy, later.callsOf_nil different]
    · rw [callsOf_destroy_of_ne same]
      exact inductionHypothesis nodup ((List.mem_cons.mp member).resolve_left same)
  | @lost first _ _ _ failure _ _ later inductionHypothesis =>
    rcases List.nodup_cons.mp nodup with ⟨different, nodup⟩
    by_cases same : handle = first
    · subst same
      refine Or.inr ⟨.error failure, ?_⟩
      rw [callsOf_destroy, later.callsOf_nil different]
    · rw [callsOf_destroy_of_ne same]
      exact inductionHypothesis nodup ((List.mem_cons.mp member).resolve_left same)

end TakingBack

section

variable [DecidableEq H] {handle : H} {calls : List (Deed H R)}

omit [DecidableEq H] in
/-- Placing and moving an object passes its handle. -/
theorem Placed.passed (placed : Placed handle calls) :
    ∀ deed ∈ calls, deed.passed? = some handle := by
  intro deed member
  cases placed with
  | unplaced =>
    cases List.mem_singleton.mp member
    rfl
  | moved =>
    rcases List.mem_cons.mp member with same | later
    · cases same
      rfl
    · cases List.mem_singleton.mp later
      rfl

theorem Placed.callsOf_self (placed : Placed handle calls) : callsOf handle calls = calls :=
  List.filter_eq_self.mpr fun deed member => decide_eq_true (Or.inr (placed.passed deed member))

theorem callsOf_instantiate (prefab parent : Option R) (handle : H) (deeds : List (Deed H R)) :
    callsOf handle (.instantiate prefab parent (.ok handle) :: deeds) =
      .instantiate prefab parent (.ok handle) :: callsOf handle deeds :=
  List.filter_cons_of_pos (decide_eq_true (Or.inl rfl))

end

/-- The object of a branch in space is placed once it is made. -/
theorem Placing.placed {settings : Settings R} {branch : Branch Float32 Float} {handle : H}
    {deeds : List (Deed H R)} {result : Except Failure H}
    (placing : Placing settings branch handle deeds result) (spatial : branch.Spatial) :
    Placed handle deeds := by
  cases placing with
  | unturned heading =>
    rcases Branch.turns_spatial spatial with ⟨turns, turned⟩
    rw [turned] at heading
    cases heading
  | unplaced heading failure => exact .unplaced _ _ _ failure
  | moved heading result => exact .moved _ _ _ _ result

namespace Making

variable [DecidableEq H] {settings : Settings R} {branch : Branch Float32 Float}
  {deeds : List (Deed H R)} {handles : List H} {result : Except Failure H} {handle : H}

theorem callsOf_nil (making : Making settings branch deeds handles result)
    (other : handle ∉ handles) : callsOf handle deeds = [] :=
  callsOf_eq_nil_iff.mpr ⟨making.made_eq ▸ other, fun member => other (making.passed_subset member)⟩

/-- An object that comes to be registered is made and then placed. -/
theorem callsOf_mem (making : Making settings branch deeds handles result)
    (spatial : branch.Spatial) (member : handle ∈ handles) :
    Standing handle (callsOf handle deeds) := by
  cases making with
  | refused failure => cases member
  | registered placing =>
    cases List.mem_singleton.mp member
    have placed := placing.placed spatial
    rw [callsOf_instantiate, placed.callsOf_self]
    exact .made _ _ placed

end Making

namespace MakingAll

variable [DecidableEq H] {settings : Settings R} {branches : List (Branch Float32 Float)}
  {deeds : List (Deed H R)} {handles : List H} {failure : Option Failure} {handle : H}

theorem callsOf_nil (making : MakingAll settings branches deeds handles failure)
    (other : handle ∉ handles) : callsOf handle deeds = [] :=
  callsOf_eq_nil_iff.mpr ⟨making.made_eq ▸ other, fun member => other (making.passed_subset member)⟩

theorem callsOf_mem (making : MakingAll settings branches deeds handles failure)
    (spatial : ∀ branch ∈ branches, branch.Spatial) (nodup : handles.Nodup)
    (member : handle ∈ handles) : Standing handle (callsOf handle deeds) := by
  induction making with
  | done => cases member
  | stopped _ first => exact first.callsOf_mem (spatial _ List.mem_cons_self) member
  | next first later inductionHypothesis =>
    have others := fun branch member => spatial branch (List.mem_cons_of_mem _ member)
    rcases List.nodup_append.mp nodup with ⟨-, nodup, apart⟩
    rw [callsOf_append]
    rcases List.mem_append.mp member with early | late
    · rw [later.callsOf_nil fun again => apart _ early _ again rfl, List.append_nil]
      exact first.callsOf_mem (spatial _ List.mem_cons_self) early
    · rw [first.callsOf_nil fun again => apart _ again _ late rfl]
      exact inductionHypothesis others nodup late

end MakingAll

namespace Growing

variable [DecidableEq H] [AngleSource J Float] {tree regrown : Tree H R J} {growth : Growth}
  {deeds : List (Deed H R)} {failure : Option Failure} {handle : H}

theorem callsOf_nil (growing : Growing tree growth deeds regrown failure)
    (other : handle ∉ made deeds) : callsOf handle deeds = [] :=
  callsOf_eq_nil_iff.mpr ⟨other, fun member => other (growing.passed_subset member)⟩

theorem callsOf_mem (growing : Growing tree growth deeds regrown failure)
    (nodup : (made deeds).Nodup) (member : handle ∈ made deeds) :
    Standing handle (callsOf handle deeds) := by
  cases growing with
  | lost walk => cases member
  | built walk among spatial making =>
    rw [making.made_eq] at nodup member
    exact making.callsOf_mem spatial nodup member

end Growing

/-! ## The books -/

section

variable [DecidableEq H]

/-- The deeds so far, the handles dropped and the handles registered fit together: every handle that
was made has its life cycle, those that stand and are not dropped are registered, and no other handle
occurs. -/
structure Books (deeds : List (Deed H R)) (dropped : Set H) (registered : List H) : Prop where
  nodup : (made deeds).Nodup
  strangers : ∀ handle, handle ∉ made deeds → callsOf handle deeds = []
  lives : ∀ handle ∈ made deeds, LifeCycle handle (callsOf handle deeds)
  standing : ∀ handle ∈ registered, Standing handle (callsOf handle deeds)
  sublist : registered.Sublist (made deeds)
  drops : ∀ handle ∈ dropped, handle ∈ made deeds
  registered_iff : ∀ handle ∈ made deeds,
    handle ∈ registered ↔ handle ∉ destroyed deeds ∧ handle ∉ dropped

/-- A handle that does not occur is not that of an object that was removed. -/
theorem not_mem_destroyed_of_callsOf_nil {handle : H} {deeds : List (Deed H R)}
    (none : callsOf handle deeds = []) : handle ∉ destroyed deeds := fun gone =>
  (callsOf_eq_nil_iff.mp none).2 (destroyed_subset_passed deeds gone)

/-- Before anything is done the books are empty. -/
theorem Books.blank : Books ([] : List (Deed H R)) ∅ [] where
  nodup := List.nodup_nil
  strangers _ _ := rfl
  lives _ member := absurd member List.not_mem_nil
  standing _ member := absurd member List.not_mem_nil
  sublist := List.Sublist.refl []
  drops _ member := absurd member (Set.notMem_empty _)
  registered_iff _ member := absurd member List.not_mem_nil

namespace Books

variable {before deeds : List (Deed H R)} {dropped : Set H} {registered left : List H}

/-- Clearing keeps the books. -/
theorem clearing (books : Books before dropped registered) {failure : Option Failure}
    (clearing : Clearing registered deeds left failure) : Books (before ++ deeds) dropped left := by
  have nodup := books.sublist.nodup books.nodup
  have parts := clearing.destroyed_append_left
  have same : made (before ++ deeds) = made before := by
    rw [made_append, clearing.made_nil, List.append_nil]
  have left_iff (handle : H) : handle ∈ left ↔ handle ∈ registered ∧ handle ∉ destroyed deeds := by
    rcases List.nodup_append.mp (parts.symm ▸ nodup) with ⟨-, -, apart⟩
    rw [← parts, List.mem_append]
    constructor
    · exact fun stays => ⟨Or.inr stays, fun gone => apart _ gone _ stays rfl⟩
    · exact fun ⟨either, stays⟩ => either.resolve_left stays
  have stands : ∀ handle ∈ left, Standing handle (callsOf handle (before ++ deeds)) := by
    intro handle stays
    have standing := books.standing handle ((left_iff handle).mp stays).1
    rw [callsOf_append]
    rcases clearing.callsOf_left nodup stays with none | ⟨refusal, once⟩
    · rwa [none, List.append_nil]
    · rw [once]
      exact .refused standing refusal
  refine ⟨same ▸ books.nodup, fun handle unmade => ?_, fun handle member => ?_, stands,
    same ▸ (parts ▸ List.sublist_append_right _ left).trans books.sublist,
    fun handle member => same ▸ books.drops handle member, fun handle member => ?_⟩
  · rw [same] at unmade
    rw [callsOf_append, books.strangers handle unmade,
      clearing.callsOf_nil fun member => unmade (books.sublist.subset member)]
    rfl
  · rw [same] at member
    by_cases known : handle ∈ registered
    · by_cases gone : handle ∈ destroyed deeds
      · rw [callsOf_append, clearing.callsOf_destroyed nodup gone]
        exact .cleared (books.standing handle known)
      · exact .standing (stands handle ((left_iff handle).mpr ⟨known, gone⟩))
    · rw [callsOf_append, clearing.callsOf_nil known, List.append_nil]
      exact books.lives handle member
  · rw [same] at member
    rw [left_iff, books.registered_iff handle member, destroyed_append, List.mem_append, not_or,
      and_right_comm]

variable [AngleSource J Float] {tree regrown : Tree H R J} {growth : Growth}
  {failure : Option Failure}

/-- Growing keeps the books, as long as the scene gives only new handles. -/
theorem growing (books : Books before dropped tree.branches)
    (growing : Growing tree growth deeds regrown failure) (fresh : (made (before ++ deeds)).Nodup) :
    Books (before ++ deeds) dropped regrown.branches := by
  have all : made (before ++ deeds) = made before ++ made deeds := made_append
  rcases List.nodup_append.mp (all ▸ fresh) with ⟨-, nodup, apart⟩
  have noneGone : destroyed deeds = [] := destroyed_of_attempted_nil growing.attempted_nil
  have old : ∀ handle ∈ made before, callsOf handle (before ++ deeds) = callsOf handle before := by
    intro handle member
    rw [callsOf_append, growing.callsOf_nil fun again => apart _ member _ again rfl,
      List.append_nil]
  have new : ∀ handle ∈ made deeds, handle ∉ made before ∧
      Standing handle (callsOf handle (before ++ deeds)) := by
    intro handle member
    have unmade : handle ∉ made before := fun again => apart _ again _ member rfl
    rw [callsOf_append, books.strangers handle unmade]
    exact ⟨unmade, growing.callsOf_mem nodup member⟩
  refine ⟨fresh, fun handle unmade => ?_, fun handle member => ?_, fun handle member => ?_, ?_,
    fun handle member => ?_, fun handle member => ?_⟩
  · rw [all, List.mem_append, not_or] at unmade
    rw [callsOf_append, books.strangers handle unmade.1, growing.callsOf_nil unmade.2]
    rfl
  · rcases List.mem_append.mp (all ▸ member) with early | late
    · rw [old handle early]
      exact books.lives handle early
    · exact .standing (new handle late).2
  · rcases List.mem_append.mp (growing.branches_eq ▸ member) with early | late
    · rw [old handle (books.sublist.subset early)]
      exact books.standing handle early
    · exact (new handle late).2
  · rw [growing.branches_eq, all]
    exact books.sublist.append (List.Sublist.refl _)
  · rw [all]
    exact List.mem_append_left _ (books.drops handle member)
  · rw [growing.branches_eq, destroyed_append, noneGone, List.append_nil, List.mem_append]
    rcases List.mem_append.mp (all ▸ member) with early | late
    · rw [← books.registered_iff handle early]
      exact or_iff_left fun again => apart _ early _ again rfl
    · have unmade := (new handle late).1
      exact iff_of_true (Or.inr late)
        ⟨not_mem_destroyed_of_callsOf_nil (books.strangers handle unmade),
          fun again => unmade (books.drops handle again)⟩

omit [AngleSource J Float] in
/-- Taking back keeps the books, and what was registered is dropped. -/
theorem takingBack (books : Books before dropped registered) {losses : List Failure}
    {interruption : Option Failure} (back : TakingBack registered deeds losses interruption) :
    Books (before ++ deeds) (dropped ∪ {handle | handle ∈ registered}) [] := by
  have same : made (before ++ deeds) = made before := by
    rw [made_append, back.made_nil, List.append_nil]
  refine ⟨same ▸ books.nodup, fun handle unmade => ?_, fun handle member => ?_,
    fun handle member => absurd member List.not_mem_nil, List.nil_sublist _,
    fun handle member => ?_, fun handle member => ?_⟩
  · rw [same] at unmade
    rw [callsOf_append, books.strangers handle unmade,
      back.callsOf_nil fun member => unmade (books.sublist.subset member)]
    rfl
  · rw [same] at member
    by_cases known : handle ∈ registered
    · have standing := books.standing handle known
      rw [callsOf_append]
      rcases back.callsOf_mem (books.sublist.nodup books.nodup) known with none | ⟨result, once⟩
      · rw [none, List.append_nil]
        exact .standing standing
      · rw [once]
        exact .takenBack standing result
    · rw [callsOf_append, back.callsOf_nil known, List.append_nil]
      exact books.lives handle member
  · rw [same]
    rcases member with early | known
    · exact books.drops handle early
    · exact books.sublist.subset known
  · rw [same] at member
    refine iff_of_false List.not_mem_nil fun ⟨stays, kept⟩ => kept ?_
    by_cases known : handle ∈ registered
    · exact Or.inr known
    · refine Or.inl (by_contra fun undropped => known ?_)
      rw [destroyed_append, List.mem_append, not_or] at stays
      exact (books.registered_iff handle member).mpr ⟨stays.1, undropped⟩

end Books

/-- The handles given up in a course of deeds: an attempt was made to take their objects back,
whatever came of it. -/
def givenUpIn (deeds : List (Deed H R)) : Set H :=
  {handle | ∃ result, (handle, result) ∈ takenBack deeds}

/-- The handles forgotten in a course of deeds: their objects were made in it, and an interruption
struck before the attempt to take them back. -/
def forgottenIn (deeds : List (Deed H R)) : Set H :=
  {handle | handle ∈ made deeds ∧ handle ∉ givenUpIn deeds ∧
    ∃ other interruption, (other, .error interruption) ∈ takenBack deeds ∧
      interruption.recoverable = false}

/-- The handles that are not registered any longer at the end of a course of deeds, though not
because their objects were cleared away. -/
def droppedIn (deeds : List (Deed H R)) : Set H := givenUpIn deeds ∪ forgottenIn deeds

omit [DecidableEq H] in
theorem droppedIn_of_nil {deeds : List (Deed H R)} (none : takenBack deeds = []) :
    droppedIn deeds = ∅ := by
  refine Set.eq_empty_iff_forall_notMem.mpr fun handle dropped => ?_
  rcases dropped with ⟨result, attempt⟩ | ⟨-, -, other, interruption, attempt, -⟩
  · exact List.not_mem_nil (none ▸ attempt)
  · exact List.not_mem_nil (none ▸ attempt)

omit [DecidableEq H] in
/-- When a failed growth is taken back, every handle that it has registered is dropped: either an
attempt is made to take its object back, or an interruption has struck before. -/
theorem droppedIn_abandoned [AngleSource J Float] {tree regrown : Tree H R J} {growth : Growth}
    {cleared grown back : List (Deed H R)} {failure interruption : Option Failure}
    {losses : List Failure} (clearing : Clearing tree.branches cleared [] none)
    (growing : Growing (tree.forget.keep []) growth grown regrown failure)
    (taking : TakingBack regrown.branches back losses interruption) :
    droppedIn (cleared ++ grown ++ back) = {handle | handle ∈ regrown.branches} := by
  have registered : regrown.branches = made grown := growing.branches_eq
  have makes : made (cleared ++ grown ++ back) = regrown.branches := by
    rw [made_append, made_append, clearing.made_nil, taking.made_nil, List.nil_append,
      List.append_nil, registered]
  have takes : takenBack (cleared ++ grown ++ back) = takenBack back := by
    rw [takenBack_append, growing.takenBack_nil clearing, List.nil_append]
  ext handle
  constructor
  · rintro (⟨result, attempt⟩ | ⟨member, -⟩)
    · rw [takes] at attempt
      exact taking.takenBack_prefix.subset (List.mem_map_of_mem attempt)
    · exact makes ▸ member
  · intro member
    by_cases attempted : handle ∈ givenUpIn (cleared ++ grown ++ back)
    · exact Or.inl attempted
    · refine Or.inr ⟨makes.symm ▸ member, attempted, ?_⟩
      rw [givenUpIn, takes] at attempted
      rw [takes]
      cases interruption with
      | none =>
        rw [← taking.takenBack_of_none] at member
        rcases List.mem_map.mp member with ⟨⟨other, result⟩, attempt, rfl⟩
        exact absurd ⟨result, attempt⟩ attempted
      | some interruption =>
        rcases taking.interruption_mem with ⟨other, attempt⟩
        exact ⟨other, interruption, attempt, taking.unrecoverable⟩

/-- Growing a tree anew keeps the books, however it ends, as long as the scene gives only new
handles. -/
theorem Books.regeneration [AngleSource J Float] {tree regrown : Tree H R J}
    {start iterations : Option Value} {before deeds : List (Deed H R)} {dropped : Set H}
    {warnings : List Event} {failure : Option Failure}
    (books : Books before dropped tree.branches)
    (regeneration : Regeneration tree start iterations deeds regrown warnings failure)
    (fresh : (made (before ++ deeds)).Nodup) :
    Books (before ++ deeds) (dropped ∪ droppedIn deeds) regrown.branches := by
  cases regeneration with
  | refused invalid =>
    rw [List.append_nil, droppedIn_of_nil rfl, Set.union_empty]
    exact books
  | stuck valid clearing =>
    rw [droppedIn_of_nil clearing.takenBack_nil, Set.union_empty]
    exact books.clearing clearing
  | complete valid clearing growing =>
    rw [droppedIn_of_nil (growing.takenBack_nil clearing), Set.union_empty, ← List.append_assoc]
    exact (books.clearing clearing).growing growing (List.append_assoc .. ▸ fresh)
  | interrupted valid clearing growing unrecoverable =>
    rw [droppedIn_of_nil (growing.takenBack_nil clearing), Set.union_empty, ← List.append_assoc]
    exact (books.clearing clearing).growing growing (List.append_assoc .. ▸ fresh)
  | abandoned valid clearing growing recoverable taking =>
    rw [droppedIn_abandoned clearing growing taking]
    rw [← List.append_assoc, ← List.append_assoc] at fresh ⊢
    have early := (List.nodup_append.mp (made_append ▸ fresh)).1
    exact ((books.clearing clearing).growing growing early).takingBack taking

/-! ## Handles that are left alone -/

section

variable [AngleSource J Float] {tree regrown : Tree H R J} {growth : Growth} {handle : H}

/-- What is neither registered nor made when a tree is cleared and grows occurs in none of the
calls, and is not registered then. -/
theorem Growing.callsOf_stranger {cleared grown : List (Deed H R)} {failure : Option Failure}
    (growing : Growing (tree.forget.keep []) growth grown regrown failure)
    (clearing : Clearing tree.branches cleared [] none) (unregistered : handle ∉ tree.branches)
    (unmade : handle ∉ made (cleared ++ grown)) :
    callsOf handle (cleared ++ grown) = [] ∧ handle ∉ regrown.branches := by
  have registered : regrown.branches = made grown := growing.branches_eq
  rw [made_append, clearing.made_nil, List.nil_append] at unmade
  rw [callsOf_append, clearing.callsOf_nil unregistered, growing.callsOf_nil unmade, registered]
  exact ⟨rfl, unmade⟩

theorem Regeneration.callsOf_stranger {start iterations : Option Value}
    {deeds : List (Deed H R)} {warnings : List Event} {failure : Option Failure}
    (regeneration : Regeneration tree start iterations deeds regrown warnings failure)
    (unregistered : handle ∉ tree.branches) (unmade : handle ∉ made deeds) :
    callsOf handle deeds = [] ∧ handle ∉ regrown.branches := by
  cases regeneration with
  | refused invalid => exact ⟨rfl, unregistered⟩
  | stuck valid clearing =>
    exact ⟨clearing.callsOf_nil unregistered, fun stays =>
      unregistered (clearing.left_subset stays)⟩
  | complete valid clearing growing =>
    exact growing.callsOf_stranger clearing unregistered unmade
  | interrupted valid clearing growing unrecoverable =>
    exact growing.callsOf_stranger clearing unregistered unmade
  | abandoned valid clearing growing recoverable taking =>
    rw [made_append, taking.made_nil, List.append_nil] at unmade
    rcases growing.callsOf_stranger clearing unregistered unmade with ⟨idle, apart⟩
    rw [callsOf_append, idle, taking.callsOf_nil apart]
    exact ⟨rfl, List.not_mem_nil⟩

theorem Served.callsOf_stranger {request : Request} {deeds : List (Deed H R)}
    (served : Served tree request deeds regrown) (unregistered : handle ∉ tree.branches)
    (unmade : handle ∉ made deeds) :
    callsOf handle deeds = [] ∧ handle ∉ regrown.branches := by
  cases served with
  | regenerated regeneration => exact regeneration.callsOf_stranger unregistered unmade
  | cleared clearing =>
    exact ⟨clearing.callsOf_nil unregistered, fun stays =>
      unregistered (clearing.left_subset stays)⟩

end

variable [AngleSource J Float]

/-- Serving a request keeps the books. -/
theorem Books.served {tree regrown : Tree H R J} {request : Request}
    {before deeds : List (Deed H R)} {dropped : Set H} (books : Books before dropped tree.branches)
    (served : Served tree request deeds regrown) (fresh : (made (before ++ deeds)).Nodup) :
    Books (before ++ deeds) (dropped ∪ droppedIn deeds) regrown.branches := by
  cases served with
  | regenerated regeneration => exact books.regeneration regeneration fresh
  | cleared clearing =>
    rw [droppedIn_of_nil clearing.takenBack_nil, Set.union_empty]
    exact books.clearing clearing

/-- The handles dropped in any of several courses. -/
def droppedAmong (courses : List (List (Deed H R))) : Set H :=
  {handle | ∃ deeds ∈ courses, handle ∈ droppedIn deeds}

omit [DecidableEq H] [AngleSource J Float] in
theorem droppedAmong_cons (deeds : List (Deed H R)) (courses : List (List (Deed H R))) :
    droppedAmong (deeds :: courses) = droppedIn deeds ∪ droppedAmong courses := by
  ext handle
  simp only [droppedAmong, List.mem_cons, exists_eq_or_imp, Set.mem_ofPred_eq, Set.mem_union]

omit [DecidableEq H] [AngleSource J Float] in
theorem not_mem_droppedAmong {handle : H} {courses : List (List (Deed H R))} :
    handle ∉ droppedAmong courses ↔
      ∀ deeds ∈ courses, handle ∉ givenUpIn deeds ∧ handle ∉ forgottenIn deeds := by
  simp only [droppedAmong, droppedIn, Set.mem_ofPred_eq, Set.mem_union, not_exists, not_and,
    not_or]

namespace Plot

variable (scene : Scene σ H R)

/-- Serving requests one after the other keeps the books. -/
theorem afterAll_books (requests : List Request) (plot : Plot σ H R J)
    {before : List (Deed H R)} {dropped : Set H}
    (books : Books before dropped plot.tree.branches)
    (fresh : (made (before ++ (courses scene requests plot).flatten)).Nodup) :
    Books (before ++ (courses scene requests plot).flatten)
      (dropped ∪ droppedAmong (courses scene requests plot))
      (afterAll scene requests plot).tree.branches := by
  induction requests generalizing plot before dropped with
  | nil =>
    have none : droppedAmong ([] : List (List (Deed H R))) = ∅ :=
      Set.eq_empty_iff_forall_notMem.mpr fun _ ⟨_, member, _⟩ => List.not_mem_nil member
    change Books (before ++ []) (dropped ∪ droppedAmong []) plot.tree.branches
    rw [List.append_nil, none, Set.union_empty]
    exact books
  | cons request requests inductionHypothesis =>
    rcases serve_served scene request plot with ⟨deeds, failure, final, run, watched, -, served⟩
    have next := Act.reached_of_settled run
    have course : courses scene (request :: requests) plot =
        deeds :: courses scene requests final := by
      rw [courses, next, watched]
    have state : afterAll scene (request :: requests) plot = afterAll scene requests final := by
      rw [afterAll, next]
    rw [course, List.flatten_cons, ← List.append_assoc] at fresh ⊢
    rw [droppedAmong_cons, ← Set.union_assoc, state]
    have early := (List.nodup_append.mp (made_append ▸ fresh)).1
    exact inductionHypothesis final (books.served served early) fresh

/-- A handle that is neither registered nor made later occurs in none of the calls to come. -/
theorem callsOf_courses_nil (requests : List Request) (plot : Plot σ H R J) {handle : H}
    (unregistered : handle ∉ plot.tree.branches)
    (unmade : handle ∉ made (courses scene requests plot).flatten) :
    callsOf handle (courses scene requests plot).flatten = [] := by
  induction requests generalizing plot with
  | nil => rfl
  | cons request requests inductionHypothesis =>
    rcases serve_served scene request plot with ⟨deeds, failure, final, run, watched, -, served⟩
    rw [courses, Act.reached_of_settled run, watched, List.flatten_cons] at unmade ⊢
    rw [made_append, List.mem_append, not_or] at unmade
    rcases served.callsOf_stranger unregistered unmade.1 with ⟨idle, apart⟩
    rw [callsOf_append, idle, inductionHypothesis final apart unmade.2]
    rfl

/-- The life of a handle that a tree has made from its beginning on.  Requests are served one after
the other, whatever comes of them, over a scene that gives no handle twice.  Then every handle that
was made has its life cycle, no other handle is ever passed to the scene, and a handle that is not
registered any longer after some of the requests occurs in none of the calls for those to come.  The
handles that are registered in the end are those that were neither removed nor given up nor
forgotten, each once and in the order in which they were made. -/
theorem handles_have_life_cycles (requests : List Request) (plot : Plot σ H R J)
    (new : plot.tree.branches = [])
    (fresh : (made (courses scene requests plot).flatten).Nodup) :
    (∀ handle ∈ made (courses scene requests plot).flatten,
      LifeCycle handle (callsOf handle (courses scene requests plot).flatten)) ∧
    (∀ handle, handle ∉ made (courses scene requests plot).flatten →
      callsOf handle (courses scene requests plot).flatten = []) ∧
    (∀ first later, first ++ later = requests →
      ∀ handle ∈ made (courses scene first plot).flatten,
        handle ∉ (afterAll scene first plot).tree.branches →
          callsOf handle (courses scene later (afterAll scene first plot)).flatten = []) ∧
    (afterAll scene requests plot).tree.branches.Nodup ∧
    (afterAll scene requests plot).tree.branches.Sublist
      (made (courses scene requests plot).flatten) ∧
    ∀ handle ∈ made (courses scene requests plot).flatten,
      handle ∈ (afterAll scene requests plot).tree.branches ↔
        handle ∉ destroyed (courses scene requests plot).flatten ∧
          ∀ deeds ∈ courses scene requests plot,
            handle ∉ givenUpIn deeds ∧ handle ∉ forgottenIn deeds := by
  have books := afterAll_books scene requests plot (new ▸ Books.blank) fresh
  rw [Set.empty_union, List.nil_append] at books
  refine ⟨books.lives, books.strangers, ?_, books.sublist.nodup books.nodup, books.sublist,
    fun handle member => ?_⟩
  · rintro first later rfl handle member unregistered
    rw [courses_append, List.flatten_append, made_append] at fresh
    exact callsOf_courses_nil scene later _ unregistered fun again =>
      (List.nodup_append.mp fresh).2.2 handle member handle again rfl
  · rw [books.registered_iff handle member, not_mem_droppedAmong]

omit [DecidableEq H] [AngleSource J Float]

/-- In a scene that refuses to place and to remove anything, the only object is given up after a
short life, and its handle is no longer registered. -/
theorem unwanted_has_life_cycle :
    ∃ position turns scale,
      LifeCycle 0 [.instantiate none none (.ok 0),
        .setTransform 0 position turns scale (.error ⟨.foreign .runtime "too tall", [], []⟩),
        (.destroy .takingBack 0 (.error ⟨.foreign .runtime "stuck", [], []⟩) : Deed Nat Value)] ∧
      0 ∉ (afterAll stubborn [.clear, .regenerate none none] unwanted).tree.branches := by
  rcases unwanted_deeds with ⟨position, turns, scale, deeds⟩
  have course : courses stubborn [.clear, .regenerate none none] unwanted =
      [[], deedsOf (regenerateWatched stubborn none none) unwanted] := rfl
  have lives := handles_have_life_cycles stubborn [.clear, .regenerate none none] unwanted rfl
  rw [course, deeds] at lives
  rcases lives (List.nodup_singleton 0) with ⟨cycle, -, -, -, -, registered⟩
  have only := List.mem_singleton_self 0
  refine ⟨position, turns, scale, cycle 0 only, fun member => ?_⟩
  rcases (registered 0 only).mp member with ⟨-, kept⟩
  exact (kept _ (List.mem_cons_of_mem _ (List.mem_singleton_self _))).1
    ⟨_, List.mem_singleton_self _⟩

end Plot

end

namespace Recording

open Plot

/-- A tree of two branches.  The stage refuses to place the object of the second one, and removing
the first object from it is interrupted. -/
def toppled : Plot Rehearsal Nat Value Jitter where
  scene := (Rehearsal.ofStages 1).setFaults 0
    { PerAction.fill none with
      transform := some { strikes := .calls [1], kind := .runtime, text := "too tall" }
      destroy := some { strikes := .calls [0], kind := .interruption, text := "stop" } }
  tree := { settings := { start := .text "FFF" }, jitter := .constant (.real 0) }

/-- The growth of the tree. -/
def poles : Growth := ⟨['F', 'F', 'F'], 0, Nat.zero_le _⟩

/-- Growing the tree comes down to making the objects of two branches. -/
theorem grow_toppled {σ : Type} (scene : Scene σ Nat Value) :
    ∃ (first second : Branch Float32 Float) (turns others : Space.Turns Float32)
      (events : List Event) (points : Array (Pose Float32 Float)) (jitter : Jitter),
      first.turns = .ok turns ∧ second.turns = .ok others ∧
      ∀ before log, grow scene poles ⟨before, log, toppled.tree⟩ =
        createBranches scene [first, second] ⟨before, log ++ events,
          (toppled.tree.sow poles).shape points [first, second] jitter⟩ := by
  have matched : Brackets.Matched poles.word := by decide
  have enough := Jitter.constant_supplies (rfl : Jitter.summand (.real 0) = _)
    (poles.word.count 'F')
  rcases interpret_of_matched (C := Float32) matched enough with ⟨turtle, left, walk⟩
  have walked : interpret poles.word toppled.tree.jitter = .ok turtle left := walk
  rcases grow_of_walk scene walked with ⟨branches, events, among, -, spatial, -, grows⟩
  have two : branches.length = 2 := (sizes_of_walk walked among).2
  rcases List.length_eq_two.mp two with ⟨first, second, rfl⟩
  rcases Branch.turns_spatial (spatial first List.mem_cons_self) with ⟨turns, heading⟩
  rcases Branch.turns_spatial (spatial second (List.mem_cons_of_mem _ List.mem_cons_self)) with
      ⟨others, bearing⟩
  exact ⟨first, second, turns, others, events, _, left, heading, bearing, grows⟩

/-- The second object is made and not placed, and then the first one is not removed.  The tree ends
up without registered objects. -/
theorem toppled_deeds :
    ∃ position scale place size turns others,
      deedsOf (regenerateWatched (Rehearsal.scene 0) none none) toppled =
        [.instantiate none none (.ok 0), .setTransform 0 position turns scale (.ok ()),
          .reparent 0 none (.ok ()), .instantiate none none (.ok 1),
          .setTransform 1 place others size (.error ⟨.foreign .runtime "too tall", [], []⟩),
          .destroy .takingBack 0 (.error ⟨.foreign .interruption "stop", [], []⟩)] ∧
      (afterAll (Rehearsal.scene 0) [.regenerate none none] toppled).tree.branches = [] := by
  have valid : (toppled.tree.settings.overridden none none).validate = .ok poles := rfl
  rcases grow_toppled ((Rehearsal.scene 0).watched .clearing) with
      ⟨first, second, turns, others, events, points, jitter, heading, bearing, grows⟩
  have run := grows (toppled.scene, []) #[]
  unfold createBranches createBranches createBranch at run
  rw [heading, bearing] at run
  have cleared := regenerateBetween_of_cleared ((Rehearsal.scene 0).watched .clearing)
    ((Rehearsal.scene 0).watched .takingBack) toppled.watching valid rfl
  have back := orTakenBack_of_error ((Rehearsal.scene 0).watched .takingBack) run rfl
  have whole := cleared.trans (Act.bind_of_error (back.trans rfl))
  have last := tree_of_watched (regenerateWatched_mirrors (Rehearsal.scene 0) none none) toppled
  refine ⟨first.position, first.scale, second.position, second.scale, turns, others, ?_, ?_⟩
  · unfold deedsOf regenerateWatched Act.reached
    rw [whole]
    rfl
  · have after : afterAll (Rehearsal.scene 0) [.regenerate none none] toppled =
        (regenerate (Rehearsal.scene 0) none none).reached toppled := rfl
    rcases orTakenBack_takingBack (Rehearsal.scene 0) run rfl with ⟨_, _, _, _, -, -, emptied⟩
    have unregistered := cleared.trans (Act.bind_of_error emptied)
    rw [after, last]
    unfold regenerateWatched Act.reached
    rw [unregistered]
    rfl

/-- The second object of the tree is neither removed nor was that attempted, and yet its handle is
not registered any longer. -/
theorem toppled_is_forgotten :
    made (courses (Rehearsal.scene 0) [.regenerate none none] toppled).flatten = [0, 1] ∧
    1 ∉ destroyed (courses (Rehearsal.scene 0) [.regenerate none none] toppled).flatten ∧
    (∀ deeds ∈ courses (Rehearsal.scene 0) [.regenerate none none] toppled,
      1 ∉ givenUpIn deeds) ∧
    1 ∉ (afterAll (Rehearsal.scene 0) [.regenerate none none] toppled).tree.branches := by
  rcases toppled_deeds with
      ⟨position, scale, place, size, turns, others, deeds, unregistered⟩
  have course : courses (Rehearsal.scene 0) [.regenerate none none] toppled =
      [deedsOf (regenerateWatched (Rehearsal.scene 0) none none) toppled] := rfl
  rw [course, deeds, unregistered]
  refine ⟨rfl, List.not_mem_nil, ?_, List.not_mem_nil⟩
  rintro _ member ⟨result, attempt⟩
  cases List.mem_singleton.mp member
  cases List.mem_singleton.mp attempt

end Recording
end Arbor
