import Arbor.Proofs.Scene.Watching
import Mathlib.Data.Set.Basic

/-!
# Keeping account of live objects

A scene keeps account of its objects if it makes only objects that were not live, adds every object
that it makes to the live ones, removes every object that it destroys from them, and leaves them
alone in every other call, those that fail included.  A `Ledger` is the evidence that a scene does
so.  The live objects after a sequence of deeds are then settled by the deeds alone.
-/

namespace Arbor

variable {σ H R : Type}

/-- The objects that were removed, in order. -/
def destroyed (deeds : List (Deed H R)) : List H := deeds.filterMap Deed.destroyed?

/-- The live objects after a deed: those that were live, with the one it has made and without the
one it has removed. -/
def Deed.liveAfter (deed : Deed H R) (live : Set H) : Set H :=
  (live ∪ {handle | deed.made? = some handle}) \ {handle | deed.destroyed? = some handle}

theorem Deed.mem_liveAfter {deed : Deed H R} {live : Set H} {handle : H} :
    handle ∈ deed.liveAfter live ↔
      (handle ∈ live ∨ deed.made? = some handle) ∧ ¬ deed.destroyed? = some handle := Iff.rfl

/-- A deed that makes and removes nothing leaves the live objects as they are. -/
theorem Deed.liveAfter_of_idle {deed : Deed H R} (makes : deed.made? = none)
    (removes : deed.destroyed? = none) (live : Set H) : deed.liveAfter live = live := by
  ext handle
  rw [mem_liveAfter, makes, removes]
  simp only [reduceCtorEq, or_false, not_false_eq_true, and_true]

theorem made_cons_eq_nil {deed : Deed H R} {deeds : List (Deed H R)} :
    made (deed :: deeds) = [] ↔ deed.made? = none ∧ made deeds = [] := by
  cases makes : deed.made? <;> simp [made, makes]

theorem destroyed_cons_eq_nil {deed : Deed H R} {deeds : List (Deed H R)} :
    destroyed (deed :: deeds) = [] ↔ deed.destroyed? = none ∧ destroyed deeds = [] := by
  cases removes : deed.destroyed? <;> simp [destroyed, removes]

theorem mem_made_cons {deed : Deed H R} {deeds : List (Deed H R)} {handle : H} :
    handle ∈ made (deed :: deeds) ↔ deed.made? = some handle ∨ handle ∈ made deeds := by
  cases makes : deed.made? <;> simp [made, makes, eq_comm]

theorem mem_destroyed_cons {deed : Deed H R} {deeds : List (Deed H R)} {handle : H} :
    handle ∈ destroyed (deed :: deeds) ↔
      deed.destroyed? = some handle ∨ handle ∈ destroyed deeds := by
  cases removes : deed.destroyed? <;> simp [destroyed, removes, eq_comm]

/-- The deeds lead from some live objects to others, and no deed makes an object that is live. -/
def Accounts : Set H → List (Deed H R) → Set H → Prop
  | live, [], after => live = after
  | live, deed :: deeds, after =>
    (∀ handle, deed.made? = some handle → handle ∉ live) ∧
      Accounts (deed.liveAfter live) deeds after

/-- The evidence that a scene keeps account of its live objects, as long as its state is sound. -/
structure Scene.Ledger (scene : Scene σ H R) where
  sound : σ → Prop
  live : σ → Set H
  fresh : ∀ {prefab parent : Option R} {handle : H} {before after : σ}, sound before →
    scene.instantiate prefab parent before = .ok handle after → handle ∉ live before
  keeps : ∀ {deed : Deed H R} {before after : σ}, sound before →
    deed.Happens scene before after → sound after ∧ live after = deed.liveAfter (live before)

/-- A scene with a ledger accounts for everything that it does. -/
theorem Scene.Ledger.accounts {scene : Scene σ H R} (ledger : scene.Ledger)
    {deeds : List (Deed H R)} {before after : σ} (sound : ledger.sound before)
    (performs : scene.Performs before deeds after) :
    ledger.sound after ∧ Accounts (ledger.live before) deeds (ledger.live after) := by
  induction deeds generalizing before with
  | nil =>
    cases performs
    exact ⟨sound, rfl⟩
  | cons deed deeds inductionHypothesis =>
    rcases performs with ⟨between, happens, later⟩
    rcases ledger.keeps sound happens with ⟨stillSound, lives⟩
    rcases inductionHypothesis stillSound later with ⟨soundAfter, accounts⟩
    refine ⟨soundAfter, fun handle makes => ?_, lives ▸ accounts⟩
    cases deed with
    | instantiate prefab parent result =>
      cases result with
      | error failure => cases makes
      | ok made =>
        cases makes
        exact ledger.fresh sound happens
    | setTransform handle position rotation scale result => cases makes
    | reparent handle parent result => cases makes
    | destroy removal handle result => cases makes

namespace Accounts

variable {first second deeds : List (Deed H R)} {live after : Set H}

theorem split (whole : Accounts live (first ++ second) after) :
    ∃ middle, Accounts live first middle ∧ Accounts middle second after := by
  induction first generalizing live with
  | nil => exact ⟨live, rfl, whole⟩
  | cons deed deeds inductionHypothesis =>
    rcases whole with ⟨fresh, later⟩
    rcases inductionHypothesis later with ⟨middle, begun, done⟩
    exact ⟨middle, ⟨fresh, begun⟩, done⟩

/-- Where nothing is removed, the live objects grow by those that are made, all of them new. -/
theorem of_destroyed_nil (accounts : Accounts live deeds after) (kept : destroyed deeds = []) :
    (∀ handle, handle ∈ after ↔ handle ∈ live ∨ handle ∈ made deeds) ∧ (made deeds).Nodup ∧
      ∀ handle ∈ made deeds, handle ∉ live := by
  induction deeds generalizing live with
  | nil =>
    cases accounts
    refine ⟨fun handle => ?_, List.nodup_nil, fun _ member => absurd member List.not_mem_nil⟩
    simp only [made, List.filterMap_nil, List.not_mem_nil, or_false]
  | cons deed deeds inductionHypothesis =>
    rcases accounts with ⟨fresh, later⟩
    rcases destroyed_cons_eq_nil.mp kept with ⟨keeps, kept⟩
    rcases inductionHypothesis later kept with ⟨members, nodup, others⟩
    have grown : ∀ handle, handle ∈ deed.liveAfter live ↔
        handle ∈ live ∨ deed.made? = some handle := fun handle => by
      rw [Deed.mem_liveAfter, keeps]
      simp only [reduceCtorEq, not_false_eq_true, and_true]
    cases makes : deed.made? with
    | none =>
      have same : made (deed :: deeds) = made deeds := List.filterMap_cons_none makes
      rw [same]
      refine ⟨fun handle => ?_, nodup, fun handle member live => others handle member ?_⟩
      · rw [members, grown, makes]
        simp only [reduceCtorEq, or_false]
      · exact (grown handle).mpr (Or.inl live)
    | some first =>
      have same : made (deed :: deeds) = first :: made deeds := List.filterMap_cons_some makes
      rw [same]
      refine ⟨fun handle => ?_, List.nodup_cons.mpr ⟨fun again => ?_, nodup⟩, ?_⟩
      · rw [members, grown, makes, List.mem_cons, Option.some_inj, eq_comm (a := first), or_assoc]
      · exact others first again ((grown first).mpr (Or.inr makes))
      · intro handle member live
        rcases List.mem_cons.mp member with same | later
        · exact fresh handle (same ▸ makes) live
        · exact others handle later ((grown handle).mpr (Or.inl live))

/-- Where nothing is made, the live objects shrink to those that are not removed. -/
theorem of_made_nil (accounts : Accounts live deeds after) (barren : made deeds = []) :
    ∀ handle, handle ∈ after ↔ handle ∈ live ∧ handle ∉ destroyed deeds := by
  induction deeds generalizing live with
  | nil =>
    cases accounts
    intro handle
    simp only [destroyed, List.filterMap_nil, List.not_mem_nil, not_false_eq_true, and_true]
  | cons deed deeds inductionHypothesis =>
    rcases accounts with ⟨fresh, later⟩
    rcases made_cons_eq_nil.mp barren with ⟨makes, barren⟩
    intro handle
    have shrunk : handle ∈ deed.liveAfter live ↔
        handle ∈ live ∧ ¬ deed.destroyed? = some handle := by
      rw [Deed.mem_liveAfter, makes]
      simp only [reduceCtorEq, or_false]
    rw [inductionHypothesis later barren handle, shrunk, and_assoc, ← not_or,
      ← mem_destroyed_cons]

end Accounts
end Arbor
