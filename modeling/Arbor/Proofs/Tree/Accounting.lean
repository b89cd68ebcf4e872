import Arbor.Proofs.Scene.Ledger
import Arbor.Proofs.Tree.Regrowth
import Mathlib.Data.List.Nodup

/-!
# What the deeds of a tree amount to

The descriptions of removing, making and growing are summed up here by the objects that were made,
those that a removal was attempted of, and those that were removed.  Objects are made only while a
tree grows and removed only before or after that.
-/

namespace Arbor

variable {H R J : Type}

/-- The object that was to be removed, whether or not it was. -/
def Deed.attempted? : Deed H R → Option H
  | destroy _ handle _ => some handle
  | _ => none

/-- The objects that were to be removed, in order. -/
def attempted (deeds : List (Deed H R)) : List H := deeds.filterMap Deed.attempted?

theorem attempted_cons_eq_nil {deed : Deed H R} {deeds : List (Deed H R)} :
    attempted (deed :: deeds) = [] ↔ deed.attempted? = none ∧ attempted deeds = [] := by
  cases attempts : deed.attempted? <;> simp [attempted, attempts]

/-- The handles that were passed to the scene, in order. -/
def passed (deeds : List (Deed H R)) : List H := deeds.filterMap Deed.passed?

/-- What a deed has removed was passed to the scene. -/
theorem Deed.passed_of_destroyed {deed : Deed H R} {handle : H}
    (removes : deed.destroyed? = some handle) : deed.passed? = some handle := by
  cases deed with
  | destroy removal other result =>
    cases result with
    | ok value => exact removes
    | error failure => cases removes
  | _ => cases removes

section

variable {first second deeds : List (Deed H R)}

theorem made_append : made (first ++ second) = made first ++ made second := List.filterMap_append

theorem attempted_append : attempted (first ++ second) = attempted first ++ attempted second :=
  List.filterMap_append

theorem destroyed_append : destroyed (first ++ second) = destroyed first ++ destroyed second :=
  List.filterMap_append

theorem takenBack_append : takenBack (first ++ second) = takenBack first ++ takenBack second :=
  List.filterMap_append

theorem passed_append : passed (first ++ second) = passed first ++ passed second :=
  List.filterMap_append

/-- What was removed was passed to the scene. -/
theorem destroyed_subset_passed (deeds : List (Deed H R)) : destroyed deeds ⊆ passed deeds := by
  intro handle member
  rcases List.mem_filterMap.mp member with ⟨deed, done, removes⟩
  exact List.mem_filterMap.mpr ⟨deed, done, Deed.passed_of_destroyed removes⟩

/-- Without an attempt nothing is removed. -/
theorem destroyed_of_attempted_nil (idle : attempted deeds = []) : destroyed deeds = [] := by
  refine List.filterMap_eq_nil_iff.mpr fun deed member => ?_
  have none := List.filterMap_eq_nil_iff.mp idle deed member
  cases deed with
  | destroy removal handle result => cases none
  | _ => rfl

/-- Without an attempt nothing is taken back. -/
theorem takenBack_of_attempted_nil (idle : attempted deeds = []) : takenBack deeds = [] := by
  refine List.filterMap_eq_nil_iff.mpr fun deed member => ?_
  have none := List.filterMap_eq_nil_iff.mp idle deed member
  cases deed with
  | destroy removal handle result => cases none
  | _ => rfl

end

/-! ## Removing -/

namespace Clearing

variable {handles left : List H} {deeds : List (Deed H R)} {failure : Option Failure}

theorem made_nil (clearing : Clearing handles deeds left failure) : made deeds = [] := by
  induction clearing with
  | done => rfl
  | stuck => rfl
  | next _ _ inductionHypothesis => exact inductionHypothesis

theorem takenBack_nil (clearing : Clearing handles deeds left failure) : takenBack deeds = [] := by
  induction clearing with
  | done => rfl
  | stuck => rfl
  | next _ _ inductionHypothesis => exact inductionHypothesis

/-- Clearing passes only what is to be cleared away. -/
theorem passed_subset (clearing : Clearing handles deeds left failure) :
    passed deeds ⊆ handles := by
  induction clearing with
  | done => exact List.Subset.refl []
  | stuck handle handles =>
    intro other member
    exact List.mem_singleton.mp member ▸ List.mem_cons_self
  | next handle _ inductionHypothesis => exact List.cons_subset_cons handle inductionHypothesis

/-- The objects are removed from first to last, and the others are left. -/
theorem destroyed_append_left (clearing : Clearing handles deeds left failure) :
    destroyed deeds ++ left = handles := by
  induction clearing with
  | done => rfl
  | stuck => rfl
  | next handle _ inductionHypothesis => exact congrArg (handle :: ·) inductionHypothesis

/-- What is left was to be cleared away. -/
theorem left_subset (clearing : Clearing handles deeds left failure) : left ⊆ handles := by
  rw [← clearing.destroyed_append_left]
  exact List.subset_append_right _ left

/-- When all goes well, the removal of every object is attempted once. -/
theorem attempted_of_none (clearing : Clearing handles deeds left none) :
    attempted deeds = handles := by
  generalize succeeded : none = failure at clearing
  induction clearing with
  | done => rfl
  | stuck => cases succeeded
  | next handle _ inductionHypothesis =>
    exact congrArg (handle :: ·) (inductionHypothesis succeeded)

end Clearing

namespace TakingBack

variable {handles : List H} {deeds : List (Deed H R)} {losses : List Failure}
  {interruption : Option Failure}

theorem made_nil (back : TakingBack handles deeds losses interruption) : made deeds = [] := by
  induction back with
  | done => rfl
  | interrupted => rfl
  | removed _ _ inductionHypothesis => exact inductionHypothesis
  | lost _ _ _ inductionHypothesis => exact inductionHypothesis

/-- Taking back passes only what is to be taken back. -/
theorem passed_subset (back : TakingBack handles deeds losses interruption) :
    passed deeds ⊆ handles := by
  induction back with
  | done => exact List.Subset.refl []
  | interrupted handle handles =>
    intro other member
    exact List.mem_singleton.mp member ▸ List.mem_cons_self
  | removed handle _ inductionHypothesis => exact List.cons_subset_cons handle inductionHypothesis
  | lost handle _ _ inductionHypothesis => exact List.cons_subset_cons handle inductionHypothesis

theorem attempted_eq (back : TakingBack handles deeds losses interruption) :
    attempted deeds = (takenBack deeds).map Prod.fst := by
  induction back with
  | done => rfl
  | interrupted => rfl
  | removed handle _ inductionHypothesis => exact congrArg (handle :: ·) inductionHypothesis
  | lost handle _ _ inductionHypothesis => exact congrArg (handle :: ·) inductionHypothesis

/-- The objects are taken back from first to last, all of them unless an interruption ends it. -/
theorem takenBack_prefix (back : TakingBack handles deeds losses interruption) :
    (takenBack deeds).map Prod.fst <+: handles := by
  induction back with
  | done => exact List.nil_prefix
  | interrupted handle handles => exact ⟨handles, rfl⟩
  | removed handle _ inductionHypothesis =>
    exact (List.prefix_cons_inj handle).mpr inductionHypothesis
  | lost handle _ _ inductionHypothesis =>
    exact (List.prefix_cons_inj handle).mpr inductionHypothesis

theorem takenBack_of_none (back : TakingBack handles deeds losses none) :
    (takenBack deeds).map Prod.fst = handles := by
  generalize finished : none = interruption at back
  induction back with
  | done => rfl
  | interrupted => cases finished
  | removed handle _ inductionHypothesis =>
    exact congrArg (handle :: ·) (inductionHypothesis finished)
  | lost handle _ _ inductionHypothesis =>
    exact congrArg (handle :: ·) (inductionHypothesis finished)

/-- An object is gone only if it was taken back. -/
theorem mem_destroyed (back : TakingBack handles deeds losses interruption) (handle : H) :
    handle ∈ destroyed deeds ↔ (handle, .ok ()) ∈ takenBack deeds := by
  induction back with
  | done => exact iff_of_false List.not_mem_nil List.not_mem_nil
  | @interrupted first _ failure _ =>
    change handle ∈ [] ↔ (handle, Except.ok ()) ∈ [(first, Except.error failure)]
    simp only [List.not_mem_nil, List.mem_singleton, Prod.mk.injEq, reduceCtorEq, and_false]
  | @removed first _ deeds _ _ _ inductionHypothesis =>
    change handle ∈ first :: destroyed deeds ↔
      (handle, .ok ()) ∈ (first, .ok ()) :: takenBack deeds
    rw [List.mem_cons, List.mem_cons, inductionHypothesis, Prod.mk.injEq, and_iff_left rfl]
  | @lost first _ deeds _ failure _ _ _ inductionHypothesis =>
    change handle ∈ destroyed deeds ↔
      (handle, .ok ()) ∈ (first, .error failure) :: takenBack deeds
    rw [List.mem_cons, inductionHypothesis, Prod.mk.injEq]
    simp only [reduceCtorEq, and_false, false_or]

/-- Without an interruption, the objects that are not gone are those that the scene refused to
remove. -/
theorem lost_iff (back : TakingBack handles deeds losses none) (nodup : handles.Nodup)
    (handle : H) :
    (handle ∈ handles ∧ handle ∉ destroyed deeds) ↔
      ∃ failure, (handle, .error failure) ∈ takenBack deeds := by
  have attempts := back.takenBack_of_none
  rw [back.mem_destroyed]
  constructor
  · rintro ⟨member, stays⟩
    rw [← attempts] at member
    rcases List.mem_map.mp member with ⟨⟨other, result⟩, attempt, same⟩
    subst same
    cases result with
    | ok value => exact absurd attempt stays
    | error failure => exact ⟨failure, attempt⟩
  · rintro ⟨failure, attempt⟩
    refine ⟨attempts ▸ List.mem_map.mpr ⟨_, attempt, rfl⟩, fun gone => ?_⟩
    have same := List.inj_on_of_nodup_map (attempts.symm ▸ nodup) attempt gone rfl
    cases same

/-- The interruption that ends the taking back is that of its last attempt. -/
theorem interruption_mem {failure : Failure}
    (back : TakingBack handles deeds losses (some failure)) :
    ∃ handle, (handle, .error failure) ∈ takenBack deeds := by
  generalize ended : some failure = interruption at back
  induction back with
  | done => cases ended
  | interrupted handle _ =>
    cases ended
    exact ⟨handle, List.mem_singleton_self _⟩
  | removed _ _ inductionHypothesis =>
    rcases inductionHypothesis ended with ⟨handle, member⟩
    exact ⟨handle, List.mem_cons_of_mem _ member⟩
  | lost _ _ _ inductionHypothesis =>
    rcases inductionHypothesis ended with ⟨handle, member⟩
    exact ⟨handle, List.mem_cons_of_mem _ member⟩

end TakingBack

/-! ## Making and growing -/

theorem Placing.made_nil {settings : Settings R} {branch : Branch Float32 Float} {handle : H}
    {deeds : List (Deed H R)} {result : Except Failure H}
    (placing : Placing settings branch handle deeds result) : made deeds = [] := by
  cases placing <;> rfl

theorem Placing.attempted_nil {settings : Settings R} {branch : Branch Float32 Float} {handle : H}
    {deeds : List (Deed H R)} {result : Except Failure H}
    (placing : Placing settings branch handle deeds result) : attempted deeds = [] := by
  cases placing <;> rfl

theorem Placing.passed_subset {settings : Settings R} {branch : Branch Float32 Float} {handle : H}
    {deeds : List (Deed H R)} {result : Except Failure H}
    (placing : Placing settings branch handle deeds result) : passed deeds ⊆ [handle] := by
  cases placing with
  | unturned => exact List.nil_subset _
  | unplaced => exact List.Subset.refl _
  | moved => exact List.cons_subset.mpr ⟨List.mem_cons_self, List.Subset.refl _⟩

namespace Making

variable {settings : Settings R} {branch : Branch Float32 Float} {deeds : List (Deed H R)}
  {handles : List H} {result : Except Failure H}

/-- The objects that come to be registered are those that were made. -/
theorem made_eq (making : Making settings branch deeds handles result) : made deeds = handles := by
  cases making with
  | refused failure => rfl
  | registered placing => exact congrArg (_ :: ·) placing.made_nil

theorem attempted_nil (making : Making settings branch deeds handles result) :
    attempted deeds = [] := by
  cases making with
  | refused failure => rfl
  | registered placing => exact placing.attempted_nil

/-- Only the objects that come to be registered are dealt with. -/
theorem passed_subset (making : Making settings branch deeds handles result) :
    passed deeds ⊆ handles := by
  cases making with
  | refused => exact List.Subset.refl []
  | registered placing => exact placing.passed_subset

end Making

namespace MakingAll

variable {settings : Settings R} {branches : List (Branch Float32 Float)}
  {deeds : List (Deed H R)} {handles : List H} {failure : Option Failure}

theorem made_eq (making : MakingAll settings branches deeds handles failure) :
    made deeds = handles := by
  induction making with
  | done => rfl
  | stopped _ first => exact first.made_eq
  | next first _ inductionHypothesis => rw [made_append, first.made_eq, inductionHypothesis]

theorem attempted_nil (making : MakingAll settings branches deeds handles failure) :
    attempted deeds = [] := by
  induction making with
  | done => rfl
  | stopped _ first => exact first.attempted_nil
  | next first _ inductionHypothesis =>
    rw [attempted_append, first.attempted_nil, inductionHypothesis]
    rfl

theorem passed_subset (making : MakingAll settings branches deeds handles failure) :
    passed deeds ⊆ handles := by
  induction making with
  | done => exact List.Subset.refl []
  | stopped _ first => exact first.passed_subset
  | next first _ inductionHypothesis =>
    rw [passed_append]
    exact List.append_subset.mpr ⟨List.subset_append_of_subset_left _ first.passed_subset,
      List.subset_append_of_subset_right _ inductionHypothesis⟩

end MakingAll

namespace Growing

variable [AngleSource J Float] {tree regrown : Tree H R J} {growth : Growth}
  {deeds : List (Deed H R)} {failure : Option Failure}

/-- A growing tree registers what is made, behind what was registered before. -/
theorem branches_eq (growing : Growing tree growth deeds regrown failure) :
    regrown.branches = tree.branches ++ made deeds := by
  cases growing with
  | lost walk => exact (List.append_nil _).symm
  | built walk among spatial making => rw [making.made_eq]; rfl

theorem attempted_nil (growing : Growing tree growth deeds regrown failure) :
    attempted deeds = [] := by
  cases growing with
  | lost walk => rfl
  | built walk among spatial making => exact making.attempted_nil

/-- A growing tree deals only with what it makes. -/
theorem passed_subset (growing : Growing tree growth deeds regrown failure) :
    passed deeds ⊆ made deeds := by
  cases growing with
  | lost walk => exact List.Subset.refl []
  | built walk among spatial making => exact making.made_eq ▸ making.passed_subset

/-- Nothing is taken back as long as a tree grows. -/
theorem takenBack_nil {handles left : List H} {cleared : List (Deed H R)}
    {stuck : Option Failure} (growing : Growing tree growth deeds regrown failure)
    (clearing : Clearing handles cleared left stuck) : takenBack (cleared ++ deeds) = [] := by
  rw [takenBack_append, clearing.takenBack_nil, takenBack_of_attempted_nil growing.attempted_nil]
  rfl

end Growing
end Arbor
