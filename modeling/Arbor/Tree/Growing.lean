import Arbor.Tree.Rollback

/-!
# Growing a tree

A tree is grown in four stages: its start word is expanded, the word is walked, branches are built
from the points of the walk, and an object is made for every branch.  `regenerate` checks what it
is asked for before it touches anything, clears away the previous tree, and takes the new one back
if any stage fails.
-/

namespace Arbor

open Rules

variable {σ H R J : Type}

/-- The growth that is asked of a tree.  Where no start word or number of passes is given, that of
its settings is meant. -/
def Tree.request (tree : Tree H R J) (start iterations : Option Value) : Except Failure Growth :=
  checkGrowth (start.getD tree.settings.start) (iterations.getD tree.settings.iterations)

namespace Plot

variable [AngleSource J Float]

/-- Expand the start word. -/
def growWord (growth : Growth) : Act (Plot σ H R J) Unit := do
  change fun tree => { tree with rules := some Table.branching }
  let expanded ← onLog (Table.branching.expandReporting growth.passes growth.start)
  change fun tree => { tree with expanded := expanded }

/-- Walk the expanded word. -/
def growPoints : Act (Plot σ H R J) Unit := do
  let word := (← get).tree.expanded
  let turtle ← onJitter (interpret word)
  onLog (report (turtle.walkEvents word.length))
  change fun tree => { tree with points := turtle.points }

/-- Build the branches among the points. -/
def growBranches : Act (Plot σ H R J) Unit := do
  let points := (← get).tree.points
  let branches ← Act.lift (Branch.ofPoints points Branch.standardRadius)
  onLog (report (Branch.builtEvents branches.length points.size))
  change fun tree => { tree with descriptors := branches }

/-- Grow a tree from nothing. -/
def grow (scene : Scene σ H R) (growth : Growth) : Act (Plot σ H R J) Unit := do
  growWord growth
  growPoints
  growBranches
  createBranches scene (← get).tree.descriptors

/-- What is reported about a tree that has been grown. -/
def grownEvent (tree : Tree H R J) : Event :=
  .grown tree.expanded.length tree.points.size tree.branches.length

/-- Grow a tree anew, from another start word or by another number of passes where one is given. -/
def regenerate (scene : Scene σ H R) (start iterations : Option Value) :
    Act (Plot σ H R J) Unit := do
  let growth ← Act.lift ((← get).tree.request start iterations)
  clear scene
  orTakenBack scene (grow scene growth)
  onLog (report [grownEvent (← get).tree])

end Plot
end Arbor
