import Arbor.Modeller.Renderer
import Arbor.Proofs.Act

/-!
# The calls of a renderer

What a renderer asks of a modeller comes down to one or more actions on the document, which leave
the renderer's own prefab alone.  Only making an object without a given prefab looks at that, and
makes it if need be.  A refusal is raised anew after just as much has been done.
-/

namespace Arbor

variable {δ H R α : Type}

namespace Workshop

section

variable {act : Act δ α} {document after : δ}

theorem onDocument_of_ok {value : α} (done : act document = .ok value after)
    (prefab : Option H) :
    onDocument act ⟨document, prefab⟩ = .ok value ⟨after, prefab⟩ := by
  simp only [onDocument, Act.within, done]

theorem onDocument_of_error {failure : Failure} (failed : act document = .error failure after)
    (prefab : Option H) :
    onDocument act ⟨document, prefab⟩ = .error failure ⟨after, prefab⟩ := by
  simp only [onDocument, Act.within, failed]

/-- An action on the document leaves the renderer's own prefab alone. -/
theorem onDocument_settled {result : Except Failure α}
    (run : act document = Act.settled result after) (prefab : Option H) :
    onDocument act ⟨document, prefab⟩ = Act.settled result ⟨after, prefab⟩ := by
  cases result with
  | ok value => exact onDocument_of_ok run prefab
  | error failure => exact onDocument_of_error run prefab

end

theorem onDocument_run {act : Act δ α} {before after : Workshop δ H} {result : Except Failure α}
    (run : onDocument act before = Act.settled result after) :
    act before.document = Act.settled result after.document ∧ after.prefab = before.prefab := by
  have settled := Act.settled_outcome act before.document
  have same := (onDocument_settled settled before.prefab).symm.trans run
  generalize act.outcome before.document = outcome at settled same
  cases outcome <;> cases result <;> cases same <;> exact ⟨settled, rfl⟩

end Workshop

namespace Modeller

open Space Workshop

variable (modeller : Modeller δ H R)

theorem orRefused_of_ok {act : Act δ α} {value : α} {before after : δ} (action : SceneAction)
    (reference : R) (done : act before = .ok value after) :
    modeller.orRefused action reference act before = .ok value after := by
  simp only [orRefused, done]

/-- What the modeller refuses is refused after just as much has been done. -/
theorem orRefused_of_error {act : Act δ α} {failure : Failure} {before after : δ}
    (action : SceneAction) (reference : R) (failed : act before = .error failure after) :
    ∃ refusal, modeller.orRefused action reference act before = .error refusal after := by
  simp only [orRefused, failed]
  split <;> exact ⟨_, rfl⟩

theorem orRefused_reached (action : SceneAction) (reference : R) (act : Act δ α) (document : δ) :
    (modeller.orRefused action reference act).reached document = act.reached document := by
  cases run : act document with
  | ok value after =>
    rw [Act.reached_of_ok run, Act.reached_of_ok (orRefused_of_ok modeller action reference run)]
  | error failure after =>
    rcases orRefused_of_error modeller action reference run with ⟨refusal, refused⟩
    rw [Act.reached_of_error run, Act.reached_of_error refused]

theorem orRefused_keeps {property : δ → Prop} {act : Act δ α} (kept : Act.Keeps property act)
    (action : SceneAction) (reference : R) :
    Act.Keeps property (modeller.orRefused action reference act) := by
  intro document holds
  rw [orRefused_reached]
  exact kept document holds

theorem scene_setTransform_of_ok {handle : H} {position scale : Vec Float32}
    {rotation : Turns Float32} {before after : δ}
    (done : modeller.setTransform (modeller.object handle) position rotation scale before =
      .ok () after) (prefab : Option H) :
    modeller.scene.setTransform handle position rotation scale ⟨before, prefab⟩ =
      .ok () ⟨after, prefab⟩ := onDocument_of_ok done prefab

theorem scene_reparent_of_ok {handle : H} {parent : Option R} {before after : δ}
    (done : modeller.setParent (modeller.object handle) parent before = .ok () after)
    (prefab : Option H) :
    modeller.scene.reparent handle parent ⟨before, prefab⟩ = .ok () ⟨after, prefab⟩ :=
  onDocument_of_ok (orRefused_of_ok modeller .reparent _ done) prefab

theorem scene_destroy_of_ok {handle : H} {before after : δ}
    (done : modeller.remove (modeller.object handle) before = .ok () after) (prefab : Option H) :
    modeller.scene.destroy handle ⟨before, prefab⟩ = .ok () ⟨after, prefab⟩ :=
  onDocument_of_ok (orRefused_of_ok modeller .destroy _ done) prefab

theorem ownPrefab_of_some {before : Workshop δ H} {handle : H}
    (had : before.prefab = some handle) :
    modeller.ownPrefab before = .ok handle before := by
  refine (Act.bind_get _ _).trans ?_
  rw [had]
  rfl

theorem ownPrefab_of_none {before : Workshop δ H} (missing : before.prefab = none) :
    modeller.ownPrefab before =
      (onDocument (modeller.makePrefab prefabName prefabSegments) >>= fun prefab =>
        (modify fun workshop => { workshop with prefab := some prefab }) >>= fun _ =>
          pure prefab) before := by
  refine (Act.bind_get _ _).trans ?_
  rw [missing]

/-- What is done with a copy: it is listed and put under its parent. -/
def enlist (handle : H) (parent : Option R) : Act δ H := do
  modeller.link (← modeller.homeUnder parent) handle
  modeller.setParent (modeller.object handle) parent
  return handle

/-- If the copy can be listed and put under its parent, its handle is given. -/
theorem enlist_gives {handle other : H} {parent : Option R} {before after : δ}
    (run : modeller.enlist handle parent before = .ok other after) : other = handle := by
  rcases Act.ok_of_bind run with ⟨home, found, -, run⟩
  rcases Act.ok_of_bind run with ⟨⟨⟩, listed, -, run⟩
  rcases Act.ok_of_bind run with ⟨⟨⟩, adopted, -, run⟩
  cases run
  rfl

end Modeller
end Arbor
