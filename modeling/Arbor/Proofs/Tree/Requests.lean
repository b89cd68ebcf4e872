import Arbor.Proofs.Tree.Regrowth

/-!
# Requests to a tree

A tree is used by asking it to grow anew and to clear itself.  A request that fails leaves the tree
in some state from which the next request starts, so a sequence of requests always runs to its end.
`courses` keeps the deeds of each request apart.
-/

namespace Arbor

variable {σ H R J : Type} [AngleSource J Float]

/-- What may be asked of a tree. -/
inductive Request where
  | regenerate (start iterations : Option Value)
  | clear

/-- A request is served by the deeds and leads from one state of a tree to another. -/
inductive Served (tree : Tree H R J) : Request → List (Deed H R) → Tree H R J → Prop
  | regenerated {start iterations : Option Value} {deeds : List (Deed H R)}
    {regrown : Tree H R J} {warnings : List Event} {failure : Option Failure}
    (regeneration : Regeneration tree start iterations deeds regrown warnings failure) :
    Served tree (.regenerate start iterations) deeds regrown
  | cleared {deeds : List (Deed H R)} {left : List H} {failure : Option Failure}
    (clearing : Clearing tree.branches deeds left failure) :
    Served tree .clear deeds (tree.forget.keep left)

namespace Plot

/-- Do what is asked of a tree. -/
def serve (scene : Scene σ H R) : Request → Act (Plot σ H R J) Unit
  | .regenerate start iterations => regenerate scene start iterations
  | .clear => clear scene

/-- Do what is asked of a tree, and note what is done to the scene. -/
def serveWatched (scene : Scene σ H R) : Request → Act (Plot (σ × List (Deed H R)) H R J) Unit
  | .regenerate start iterations => regenerateWatched scene start iterations
  | .clear => clear (scene.watched .clearing)

/-- A request is served as `Served` describes it. -/
theorem serve_served (scene : Scene σ H R) (request : Request) (plot : Plot σ H R J) :
    ∃ deeds failure final, serve scene request plot = Act.ended failure final ∧
      deedsOf (serveWatched scene request) plot = deeds ∧
      scene.Performs plot.scene deeds final.scene ∧ Served plot.tree request deeds final.tree := by
  cases request with
  | regenerate start iterations =>
    rcases regenerate_course scene start iterations plot with
        ⟨events, failure, final, regeneration, performs, -, run⟩
    exact ⟨_, failure, final, run, rfl, performs, .regenerated regeneration⟩
  | clear =>
    rcases clear_course scene plot with ⟨left, failure, after, clearing, performs, run⟩
    exact ⟨_, failure, _, run, rfl, performs, .cleared clearing⟩

/-- What is left after requests have been served one after the other, whether they fail or not. -/
def afterAll (scene : Scene σ H R) : List Request → Plot σ H R J → Plot σ H R J
  | [], plot => plot
  | request :: requests, plot => afterAll scene requests ((serve scene request).reached plot)

/-- The deeds of each request when requests are served one after the other. -/
def courses (scene : Scene σ H R) : List Request → Plot σ H R J → List (List (Deed H R))
  | [], _ => []
  | request :: requests, plot =>
    deedsOf (serveWatched scene request) plot ::
      courses scene requests ((serve scene request).reached plot)

theorem afterAll_append (scene : Scene σ H R) (first second : List Request)
    (plot : Plot σ H R J) :
    afterAll scene (first ++ second) plot = afterAll scene second (afterAll scene first plot) := by
  induction first generalizing plot with
  | nil => rfl
  | cons request first inductionHypothesis => exact inductionHypothesis _

theorem courses_append (scene : Scene σ H R) (first second : List Request)
    (plot : Plot σ H R J) :
    courses scene (first ++ second) plot =
      courses scene first plot ++ courses scene second (afterAll scene first plot) := by
  induction first generalizing plot with
  | nil => rfl
  | cons request first inductionHypothesis =>
    exact congrArg (deedsOf (serveWatched scene request) plot :: ·) (inductionHypothesis _)

end Plot
end Arbor
