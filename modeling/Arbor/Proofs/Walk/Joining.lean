import Arbor.Proofs.Walk.Trail

/-!
# Branches follow the tree

A branch runs from the beginning of a segment to the beginning of the next one.  That is where the
segment that precedes the next one in the tree has ended, so the branch lies on its own segment if
the next segment goes on from it, and it has no extent if the two segments go on from the same one.
-/

namespace Arbor

open Brackets Number Space

/-- If all the steps succeed, each result is that of the step at its place. -/
theorem mapM_getElem? {α β : Type} {f : α → Except Failure β} {values : List α} {results : List β}
    (done : values.mapM f = .ok results) {index : Nat} {value : α}
    (there : values[index]? = some value) :
    ∃ result, results[index]? = some result ∧ f value = .ok result := by
  induction values generalizing index results with
  | nil => simp at there
  | cons first values inductionHypothesis =>
    rw [List.mapM_cons] at done
    cases here : f first with
    | error failure =>
      rw [here] at done
      cases done
    | ok result =>
      rw [here] at done
      change (values.mapM f >>= fun others => pure (result :: others)) = _ at done
      cases later : values.mapM f with
      | error failure =>
        rw [later] at done
        cases done
      | ok others =>
        rw [later] at done
        cases done
        cases index with
        | zero =>
          cases there
          exact ⟨result, rfl, here⟩
        | succ index => exact inductionHypothesis later there

variable {C W J : Type} [Wide W] [Component C W]

namespace Branch

variable {points : Array (Pose C W)} {radiusFactor : W} {branches : List (Branch C W)}
  {branch : Branch C W} {first second : Pose C W} {count index : Nat}

/-- A branch runs from one point to another, with the heading of the second one, and its radius is in
proportion to its length. -/
structure Spans (radiusFactor : W) (first second : Pose C W) (branch : Branch C W) : Prop where
  start : branch.start = first.position
  tip : branch.tip = second.position
  rotation : branch.rotation = second.angle
  length : ∃ along, second.position.sub first.position = .ok along ∧ branch.length = along.length
  radius : branch.radius = radiusFactor * branch.length

theorem spans_of_between (joined : between radiusFactor first second = .ok branch) :
    branch.Spans radiusFactor first second := by
  unfold between at joined
  cases difference : second.position.sub first.position with
  | error failure =>
    rw [difference] at joined
    cases joined
  | ok along =>
    rw [difference] at joined
    cases joined
    exact ⟨rfl, rfl, rfl, ⟨along, difference, rfl⟩, rfl⟩

/-- Among two or more segments, the beginnings are joined one after the other. -/
theorem pairs_of_segments (several : 2 ≤ count) :
    pairs ((2 * count : Nat) : Int) = (List.range (count - 1)).map fun k => (2 * k, 2 * k + 2) := by
  have joins : chain ((2 * count : Nat) : Int) =
      (List.range (count - 1)).map fun k => (2 * k, 2 * k + 2) := by
    have half : (((2 * count : Nat) : Int).toNat - 1) / 2 = count - 1 := by omega
    rw [chain, half]
  have notEmpty : ((List.range (count - 1)).map fun k => (2 * k, 2 * k + 2)).isEmpty = false := by
    simp
    omega
  rw [pairs, joins, notEmpty]
  rfl

/-- A branch joins the two points whose places are paired. -/
theorem ofPoints_getElem? (built : ofPoints points radiusFactor = .ok branches)
    {pair : Nat × Nat} (paired : (pairs points.size)[index]? = some pair) :
    ∃ branch first second, branches[index]? = some branch ∧ points[pair.1]? = some first ∧
      points[pair.2]? = some second ∧ between radiusFactor first second = .ok branch := by
  have member := List.mem_of_getElem? paired
  have attached : (pairs points.size).attach[index]? = some ⟨pair, member⟩ := by
    simp [paired]
  rcases mapM_getElem? built attached with ⟨branch, there, joined⟩
  exact ⟨branch, _, _, there, Array.getElem?_eq_getElem (lt_of_mem_pairs member).1,
    Array.getElem?_eq_getElem (lt_of_mem_pairs member).2, joined⟩

/-- The branch of a segment has its ends where this segment and the next one begin. -/
theorem ends_of_ofPoints {segment : Nat} (several : 2 ≤ count) (size : points.size = 2 * count)
    (built : ofPoints points radiusFactor = .ok branches) (many : branches.length = count - 1)
    (there : branches[segment]? = some branch) :
    segment + 1 < count ∧ ∃ first second, points[2 * segment]? = some first ∧
      points[2 * (segment + 1)]? = some second ∧ branch.start = first.position ∧
      branch.tip = second.position ∧ branch.rotation = second.angle := by
  rcases List.getElem?_eq_some_iff.mp there with ⟨inside, -⟩
  have paired : (pairs points.size)[segment]? = some (2 * segment, 2 * segment + 2) := by
    rw [size, pairs_of_segments several, List.getElem?_map, List.getElem?_range (by omega)]
    rfl
  rcases ofPoints_getElem? built paired with
      ⟨other, first, second, found, begun, ended, joined⟩
  rw [there] at found
  cases found
  have spans := spans_of_between joined
  exact ⟨by omega, first, second, begun, ended, spans.start, spans.tip, spans.rotation⟩

/-- What the branch of a segment is like, among all the branches of the walk of a word. -/
structure FollowsTree (word : List Char) (points : Array (Pose C W)) (branches : List (Branch C W))
    (segment : Nat) (branch : Branch C W) : Prop where
  start : points[2 * segment]?.map Pose.position = some branch.start
  tip : (ending? points (predecessor? word (segment + 1))).map Pose.position = some branch.tip
  rotation : points[2 * segment + 2]?.map Pose.angle = some branch.rotation
  chained : ∀ next, branches[segment + 1]? = some next → next.start = branch.tip
  drawn : predecessor? word (segment + 1) = some segment →
    points[2 * segment + 1]?.map Pose.position = some branch.tip
  degenerate : predecessor? word (segment + 1) = predecessor? word segment →
    branch.tip = branch.start

end Branch

variable [AngleSource J W] {word : List Char} {jitter left : J} {turtle : Turtle C W J}

/-- A segment begins where the one that precedes it in the tree has ended. -/
theorem segment_begins (walked : interpret word jitter = .ok turtle left) {segment : Nat}
    (counted : segment < word.count 'F') :
    ∃ begun ended, turtle.points[2 * segment]? = some begun ∧
      ending? turtle.points (predecessor? word segment) = some ended ∧ begun.Continues ended := by
  rcases interpret_eq_ok_iff.mp walked with ⟨followed, -⟩
  have matched := (Turtle.followAll_saved_length followed).2
  rcases cut_at_segment counted with ⟨done, rest, rfl, rfl⟩
  rcases (Turtle.followAll_trailing followed).begins done rest rfl with
      ⟨begun, there, ended, reached, continues⟩
  refine ⟨begun, ended, there, ?_, continues⟩
  rw [predecessor?_eq_trail (matched.of_prefix (List.prefix_append done _))]
  exact reached

/-- The branch of a segment ends where the segment that precedes the next one in the tree does. -/
theorem branch_follows_tree (walked : interpret word jitter = .ok turtle left)
    (several : 2 ≤ word.count 'F') {radiusFactor : W} {branches : List (Branch C W)}
    (built : Branch.ofPoints turtle.points radiusFactor = .ok branches)
    (many : branches.length = word.count 'F' - 1) {segment : Nat} {branch : Branch C W}
    (there : branches[segment]? = some branch) :
    branch.FollowsTree word turtle.points branches segment := by
  have size := (Turtle.followAll_trailing (interpret_eq_ok_iff.mp walked).1).size
  rcases Branch.ends_of_ofPoints several size built many there with
      ⟨counted, first, second, firstThere, secondThere, start, tip, rotation⟩
  rcases segment_begins walked counted with ⟨begun, ended, nextThere, reached, continues⟩
  rw [secondThere] at nextThere
  cases nextThere
  have atEnd : (ending? turtle.points (predecessor? word (segment + 1))).map Pose.position =
      some branch.tip := by
    rw [reached, tip, continues.position]
    rfl
  constructor
  · rw [firstThere, start]
    rfl
  · exact atEnd
  · rw [rotation]
    exact congrArg (Option.map Pose.angle) secondThere
  · intro next nextBranch
    rcases Branch.ends_of_ofPoints several size built many nextBranch with
        ⟨-, third, -, thirdThere, -, nextStart, -⟩
    rw [secondThere] at thirdThere
    cases thirdThere
    exact nextStart.trans tip.symm
  · intro goesOn
    rw [goesOn] at atEnd
    exact atEnd
  · intro siblings
    rcases segment_begins walked (Nat.lt_of_succ_lt counted) with
        ⟨here, origin, hereThere, originReached, back⟩
    rw [firstThere] at hereThere
    cases hereThere
    rw [siblings, originReached] at reached
    cases reached
    rw [tip, start, continues.position, back.position]

/-- A walk records two points for each segment, and each segment goes on from the end of the one
that precedes it in the tree.  So the branch of a segment runs from the beginning of the segment to
the end of the one that precedes the next segment. -/
theorem branches_follow_tree (walked : interpret word jitter = .ok turtle left) :
    turtle.points.size = 2 * word.count 'F' ∧
      (∀ segment < word.count 'F', ∃ begun ended, turtle.points[2 * segment]? = some begun ∧
        ending? turtle.points (predecessor? word segment) = some ended ∧
          begun.Continues ended) ∧
      (2 ≤ word.count 'F' → ∀ radiusFactor : W, ∃ branches : List (Branch C W),
        Branch.ofPoints turtle.points radiusFactor = .ok branches ∧
          branches.length = word.count 'F' - 1 ∧
          ∀ (segment : Nat) (branch : Branch C W), branches[segment]? = some branch →
            branch.FollowsTree word turtle.points branches segment) := by
  have size := (Turtle.followAll_trailing (interpret_eq_ok_iff.mp walked).1).size
  refine ⟨size, fun segment counted => segment_begins walked counted, ?_⟩
  intro several radiusFactor
  rcases Branch.ofPoints_spatial (interpret_spatial walked).points radiusFactor with
      ⟨branches, built, many, -⟩
  rw [size, Branch.pairs_of_segments several, List.length_map, List.length_range] at many
  exact ⟨branches, built, many, fun segment branch there =>
    branch_follows_tree walked several built many there⟩

/-- Two segments that go on from the same one are joined by a branch without extent. -/
theorem fork_follows_tree :
    ∃ (turtle : Turtle Float32 Float Jitter) (left : Jitter)
      (branches : List (Branch Float32 Float)),
      interpret ['F', '[', '+', 'F', ']', 'F'] (Jitter.constant (.int 5)) = .ok turtle left ∧
        Branch.ofPoints turtle.points Branch.standardRadius = .ok branches ∧
        branches.length = 2 ∧
        ∀ branch, branches[1]? = some branch → branch.tip = branch.start := by
  have enough := Jitter.constant_supplies (rfl : Jitter.summand (.int 5) = _)
    (['F', '[', '+', 'F', ']', 'F'].count 'F')
  rcases interpret_of_matched (C := Float32) (by decide) enough with ⟨turtle, left, walked⟩
  rcases branches_follow_tree walked with ⟨-, -, joined⟩
  rcases joined (by decide) Branch.standardRadius with ⟨branches, built, many, follows⟩
  have siblings : predecessor? ['F', '[', '+', 'F', ']', 'F'] 2 =
      predecessor? ['F', '[', '+', 'F', ']', 'F'] 1 := by decide
  exact ⟨turtle, left, branches, walked, built, many, fun branch there =>
    (follows 1 branch there).degenerate siblings⟩

end Arbor
