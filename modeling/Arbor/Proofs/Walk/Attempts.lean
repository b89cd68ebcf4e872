import Arbor.Proofs.Walk.Descent

/-!
# Steps that fail

A step forward records the pose before it at once and the pose after it at the end.  If no sway can
be drawn in between, or the step cannot be done, then the first point stays without its partner, and
all that is recorded later stands one place off.  What is recorded is therefore settled by the steps
that the turtle has attempted since it was last put back to the start (`points_of_attempts`): two
points for one that was done and a single one for one that has failed.
-/

namespace Arbor

open Brackets Number Space

variable {C W J : Type} [Wide W] [Component C W] [AngleSource J W]

namespace Turtle

variable {turtle reached : Turtle C W J} {failure : Failure} {word : List Char} {index : Nat}
  {tried : List (Turtle C W J)}

/-- Whether a turtle cannot step forward. -/
def stuck (turtle : Turtle C W J) : Bool :=
  match forward turtle with
  | .ok _ _ => false
  | .error _ _ => true

/-- What a turtle records when it steps forward, whether or not it can. -/
def stride (turtle : Turtle C W J) : List (Pose C W) :=
  match forward turtle with
  | .ok _ reached => [turtle.pose, reached.pose]
  | .error _ _ => [turtle.pose]

/-- A turtle as it was before each step forward that it attempts for a word. -/
def attemptsOf : List Char → Nat → Turtle C W J → List (Turtle C W J)
  | [], _, _ => []
  | symbol :: word, index, turtle =>
    (if symbol = 'F' then [turtle] else []) ++
      match follow symbol index turtle with
      | .ok _ reached => attemptsOf word (index + 1) reached
      | .error _ _ => []

/-- The attempts since a turtle was last at the start, given those before the move. -/
def Move.attempts (earlier : List (Turtle C W J)) (turtle : Turtle C W J) :
    Move C W → List (Turtle C W J)
  | .draw word => attemptsOf word 0 turtle.reset
  | .reset => []
  | .forward => earlier ++ [turtle]
  | .place _ => earlier

/-- The attempts since a turtle was last at the start, given those before the moves. -/
def attemptsAfter : List (Move C W) → List (Turtle C W J) → Turtle C W J → List (Turtle C W J)
  | [], earlier, _ => earlier
  | move :: moves, earlier, turtle =>
    attemptsAfter moves (move.attempts earlier turtle) (move.act.reached turtle)

/-! ## Steps forward -/

/-- A step forward that fails has recorded the pose before it, and perhaps changed the source. -/
theorem forward_failed (failed : forward turtle = .error failure reached) :
    reached = { turtle.record with jitter := reached.jitter } := by
  cases drawn : AngleSource.draw (W := W) turtle.jitter with
  | error failure left =>
    simp only [forward, drawn] at failed
    cases failed
    rfl
  | ok sway left =>
    cases advanced : turtle.pose.advance sway with
    | error failure =>
      simp only [forward, drawn, advanced] at failed
      cases failed
      rfl
    | ok pose =>
      simp only [forward, drawn, advanced] at failed
      cases failed

/-- A turtle that is stuck records its pose alone, and any other one records a segment. -/
theorem stride_cases (turtle : Turtle C W J) :
    turtle.stuck = true ∧ turtle.stride = [turtle.pose] ∨
      turtle.stuck = false ∧ ∃ sway left pose, AngleSource.draw turtle.jitter = .ok sway left ∧
        turtle.pose.advance sway = .ok pose ∧ turtle.stride = [turtle.pose, pose] := by
  unfold stuck stride
  rcases forward_cases turtle with
      ⟨failure, reached, failed⟩ | ⟨sway, left, pose, drawn, advanced, done⟩
  · rw [failed]
    exact Or.inl ⟨rfl, rfl⟩
  · rw [done]
    exact Or.inr ⟨rfl, sway, left, pose, drawn, advanced, rfl⟩

theorem stuck_of_ok (done : forward turtle = .ok () reached) : turtle.stuck = false := by
  unfold stuck
  rw [done]

/-- A step forward records its stride. -/
theorem forward_points (turtle : Turtle C W J) :
    (forward.reached turtle).points.toList = turtle.points.toList ++ turtle.stride := by
  unfold stride
  rcases forward_cases turtle with
      ⟨failure, reached, failed⟩ | ⟨sway, left, pose, -, -, done⟩
  · rw [Act.reached_of_error failed, forward_failed failed, failed]
    simp [record]
  · rw [Act.reached_of_ok done, done]
    simp [reach, record]

/-! ## Words and moves -/

/-- No symbol records anything but a step forward. -/
theorem follow_points (symbol : Char) (index : Nat) (turtle : Turtle C W J) :
    ((follow symbol index).reached turtle).points.toList =
      turtle.points.toList ++ (if symbol = 'F' then [turtle] else []).flatMap stride := by
  by_cases forwards : symbol = 'F'
  · subst forwards
    rw [if_pos rfl, List.flatMap_singleton]
    exact forward_points turtle
  · rw [if_neg forwards, List.flatMap_nil, List.append_nil]
    rcases follow_cases symbol index turtle with
        ⟨reached, run, followed⟩ | ⟨same, -⟩ | ⟨-, -, run⟩
    · rw [Act.reached_of_ok run]
      cases followed with
      | stepped => exact absurd rfl forwards
      | turnedUp => rfl
      | turnedDown => rfl
      | saved => rfl
      | restored => rfl
      | skipped => rfl
    · exact absurd same forwards
    · rw [Act.reached_of_error run]

/-- A word records the strides of its attempts, whether or not it is followed to its end. -/
theorem followAll_points (word : List Char) (index : Nat) (turtle : Turtle C W J) :
    ((followAll word index).reached turtle).points.toList =
      turtle.points.toList ++ (attemptsOf word index turtle).flatMap stride := by
  induction word generalizing index turtle with
  | nil => exact (List.append_nil _).symm
  | cons symbol word inductionHypothesis =>
    unfold attemptsOf
    rw [List.flatMap_append, ← List.append_assoc, ← follow_points symbol index]
    cases run : follow symbol index turtle with
    | ok value between =>
      have onward : (followAll (symbol :: word) index).reached turtle =
          (followAll word (index + 1)).reached between := by
        unfold Act.reached
        rw [followAll, Act.bind_of_ok run]
      rw [onward, Act.reached_of_ok run]
      exact inductionHypothesis (index + 1) between
    | error failure between =>
      have stopped : followAll (symbol :: word) index turtle = .error failure between :=
        Act.bind_of_error run
      rw [Act.reached_of_error stopped, Act.reached_of_error run]
      exact (List.append_nil _).symm

/-- A move leaves what has been attempted recorded. -/
theorem move_points (move : Move C W)
    (recorded : turtle.points.toList = tried.flatMap stride) :
    (move.act.reached turtle).points.toList = (move.attempts tried turtle).flatMap stride := by
  cases move with
  | draw word => exact followAll_points word 0 turtle.reset
  | reset => rfl
  | forward =>
    change (forward.reached turtle).points.toList = (tried ++ [turtle]).flatMap stride
    rw [forward_points, recorded, List.flatMap_append, List.flatMap_singleton]
  | place pose => exact recorded

theorem afterAll_points (moves : List (Move C W))
    (recorded : turtle.points.toList = tried.flatMap stride) :
    (afterAll moves turtle).points.toList = (attemptsAfter moves tried turtle).flatMap stride := by
  induction moves generalizing turtle tried with
  | nil => exact recorded
  | cons move moves inductionHypothesis => exact inductionHypothesis (move_points move recorded)

theorem afterAll_draw (moves : List (Move C W)) (word : List Char) (turtle : Turtle C W J) :
    afterAll (moves ++ [.draw word]) turtle = (draw word).reached (afterAll moves turtle) := by
  induction moves generalizing turtle with
  | nil => rfl
  | cons move moves inductionHypothesis => exact inductionHypothesis _

theorem attemptsAfter_draw (moves : List (Move C W)) (word : List Char)
    (earlier : List (Turtle C W J)) (turtle : Turtle C W J) :
    attemptsAfter (moves ++ [.draw word]) earlier turtle =
      attemptsOf word 0 (afterAll moves turtle).reset := by
  induction moves generalizing earlier turtle with
  | nil => rfl
  | cons move moves inductionHypothesis => exact inductionHypothesis _ _

/-! ## Points of attempts -/

/-- Two points are recorded for an attempt, but one for an attempt that fails. -/
theorem length_strides (tried : List (Turtle C W J)) :
    (tried.flatMap stride).length + tried.countP stuck = 2 * tried.length := by
  induction tried with
  | nil => rfl
  | cons turtle tried inductionHypothesis =>
    rw [List.flatMap_cons, List.length_append, List.countP_cons, List.length_cons]
    rcases stride_cases turtle with ⟨halted, one⟩ | ⟨moving, sway, left, pose, -, -, two⟩
    · rw [one, halted, if_pos rfl, List.length_singleton]
      omega
    · rw [two, moving, if_neg Bool.false_ne_true, List.length_cons, List.length_singleton]
      omega

/-- If no attempt has failed then the points come in pairs, the one of each segment at its place. -/
theorem pairs_of_strides (smooth : ∀ turtle ∈ tried, turtle.stuck = false) {segment : Nat}
    (there : tried[segment]? = some turtle) :
    ∃ sway left pose, AngleSource.draw turtle.jitter = .ok sway left ∧
      turtle.pose.advance sway = .ok pose ∧
      (tried.flatMap stride)[2 * segment]? = some turtle.pose ∧
      (tried.flatMap stride)[2 * segment + 1]? = some pose := by
  induction tried generalizing segment with
  | nil => cases there
  | cons first tried inductionHypothesis =>
    rcases stride_cases first with ⟨halted, -⟩ | ⟨-, sway, left, pose, drawn, advanced, two⟩
    · rw [smooth first List.mem_cons_self] at halted
      cases halted
    · rw [List.flatMap_cons, two]
      cases segment with
      | zero =>
        cases there
        exact ⟨sway, left, pose, drawn, advanced, rfl, rfl⟩
      | succ segment =>
        exact inductionHypothesis (fun other member => smooth other (List.mem_cons_of_mem _ member))
          there

/-- A word is given up at the first step that fails. -/
theorem followAll_of_stuck {earlier later : List (Turtle C W J)} {last : Turtle C W J}
    (cut : attemptsOf word index turtle = earlier ++ last :: later) (halted : last.stuck = true) :
    later = [] ∧ followAll word index turtle = forward last := by
  induction word generalizing index turtle earlier with
  | nil => exact absurd cut (by simp [attemptsOf])
  | cons symbol word inductionHypothesis =>
    unfold attemptsOf at cut
    cases run : follow symbol index turtle with
    | ok value between =>
      rw [run] at cut
      have onward : followAll (symbol :: word) index turtle = followAll word (index + 1) between :=
        Act.bind_of_ok run
      rw [onward]
      by_cases forwards : symbol = 'F'
      · subst forwards
        rw [if_pos rfl] at cut
        -- A step that is done is not the failed one, so that one is among the later attempts.
        cases earlier with
        | nil =>
          rcases List.cons.inj cut with ⟨rfl, -⟩
          rw [stuck_of_ok run] at halted
          cases halted
        | cons first earlier => exact inductionHypothesis (List.cons.inj cut).2
      · rw [if_neg forwards] at cut
        exact inductionHypothesis cut
    | error failure between =>
      -- Nothing is attempted behind a symbol that fails, be it a step or a stray bracket.
      rw [run, List.append_nil] at cut
      have stopped : followAll (symbol :: word) index turtle = .error failure between :=
        Act.bind_of_error run
      by_cases forwards : symbol = 'F'
      · subst forwards
        rw [if_pos rfl] at cut
        rcases List.singleton_eq_append_iff.mp cut with ⟨-, same⟩ | ⟨-, none⟩
        · rcases List.cons.inj same with ⟨rfl, rfl⟩
          exact ⟨rfl, stopped.trans run.symm⟩
        · cases none
      · rw [if_neg forwards] at cut
        exact absurd cut (by simp)

/-- What a turtle has recorded after any moves, failed ones included, are the strides of its attempts
since it was last put back to the start.  So it has two points for each attempt but the failed ones,
and one for each of these.  As long as none has failed, the points come in pairs, with the segment
of each attempt at its place.  A step forward that fails leaves the turtle as it was, but for a
single point and the source, and a walk is given up at the first such step. -/
theorem points_of_attempts (moves : List (Move C W)) (jitter : J) :
    let used : Turtle C W J := afterAll moves (start jitter)
    let tried := attemptsAfter moves [] (start jitter)
    used.points.toList = tried.flatMap stride ∧
      used.points.size + tried.countP stuck = 2 * tried.length ∧
      ((∀ turtle ∈ tried, turtle.stuck = false) → used.points.size = 2 * tried.length ∧
        ∀ segment turtle, tried[segment]? = some turtle → ∃ sway left pose,
          AngleSource.draw turtle.jitter = .ok sway left ∧ turtle.pose.advance sway = .ok pose ∧
          used.points[2 * segment]? = some turtle.pose ∧
          used.points[2 * segment + 1]? = some pose) ∧
      (∀ failure reached, forward used = .error failure reached →
        reached = { used with jitter := reached.jitter, points := used.points.push used.pose }) ∧
      ∀ word earlier last later,
        attemptsAfter (moves ++ [.draw word]) [] (start jitter) = earlier ++ last :: later →
          last.stuck = true → later = [] ∧ draw word used = forward last := by
  intro used tried
  have recorded : used.points.toList = tried.flatMap stride := afterAll_points moves rfl
  have size : used.points.size + tried.countP stuck = 2 * tried.length := by
    rw [← Array.length_toList, recorded]
    exact length_strides tried
  refine ⟨recorded, size, fun smooth => ⟨?_, fun segment turtle there => ?_⟩,
    fun failure reached => forward_failed, fun word earlier last later cut => ?_⟩
  · have none : tried.countP stuck = 0 := by
      rw [List.countP_eq_zero]
      intro turtle member halted
      rw [smooth turtle member] at halted
      cases halted
    omega
  · rw [← Array.getElem?_toList, ← Array.getElem?_toList, recorded]
    exact pairs_of_strides smooth there
  · rw [attemptsAfter_draw] at cut
    exact followAll_of_stuck cut

/-- A turtle whose first step has failed walks a word afterwards and has two complete pairs. -/
theorem halted_turtle_walks :
    let fresh : Turtle Float32 Float Jitter := start (.listed [.text "x", .int 5, .int 7])
    let word := ['F', '+', 'F']
    let walked := afterAll ([.forward] ++ [.draw word]) fresh
    fresh.stuck = true ∧ walked.points.size = 4 ∧ ∀ segment < 2, ∃ sway before after,
      walked.points[2 * segment]? = some before ∧ before.advance sway = .ok after ∧
      walked.points[2 * segment + 1]? = some after := by
  intro fresh word walked
  rcases @points_of_attempts Float32 Float Jitter _ _ _ [.forward]
      (.listed [.text "x", .int 5, .int 7]) with ⟨-, -, -, -, givesUp⟩
  rcases @points_of_attempts Float32 Float Jitter _ _ _ ([.forward] ++ [.draw word])
      (.listed [.text "x", .int 5, .int 7]) with ⟨-, -, pairs, -⟩
  have left : (afterAll [.forward] fresh).jitter = .listed [.int 5, .int 7] := rfl
  have enough : AngleSource.Supplies (word.count 'F') (afterAll [.forward] fresh).jitter := by
    rw [left]
    exact ⟨_, _, rfl, _, _, rfl, trivial⟩
  rcases followAll_of_matched (C := Float32) (by decide : Matched word) enough with
      ⟨reached, complete⟩
  rw [← draw_eq] at complete
  have same : walked = (draw word).reached (afterAll [.forward] fresh) := afterAll_draw _ _ _
  have size : walked.points.size = 4 := by
    rw [same, Act.reached_of_ok complete]
    exact (sizes_of_draw complete).2
  have smooth : ∀ turtle ∈ attemptsAfter ([.forward] ++ [.draw word]) [] fresh,
      turtle.stuck = false := by
    intro turtle member
    cases halted : turtle.stuck with
    | false => rfl
    | true =>
      rcases List.append_of_mem member with ⟨earlier, later, cut⟩
      have lost := complete.symm.trans (givesUp word earlier turtle later cut halted).2
      rw [stuck_of_ok lost.symm] at halted
      cases halted
  rcases pairs smooth with ⟨many, each⟩
  have twice : 2 * (attemptsAfter ([.forward] ++ [.draw word]) [] fresh).length = 4 :=
    many.symm.trans size
  refine ⟨rfl, size, fun segment within => ?_⟩
  have inside : segment < (attemptsAfter ([.forward] ++ [.draw word]) [] fresh).length := by
    omega
  rcases each segment _ (List.getElem?_eq_getElem inside) with
      ⟨sway, later, pose, -, advanced, first, second⟩
  exact ⟨sway, _, pose, first, advanced, second⟩

/-- A step that is stopped by a sway which is no number leaves one point, so the points of the next
step are the second and the third. -/
theorem stopped_step_leaves_point :
    let fresh : Turtle Float32 Float Jitter := start (.listed [.text "x", .int 5])
    let halted := afterAll [.forward] fresh
    let moved := afterAll [.forward, .forward] fresh
    (∃ failure, forward fresh = .error failure halted) ∧ fresh.points.size = 0 ∧
      halted.points.size = 1 ∧ forward halted = .ok () moved ∧ moved.points.size = 3 ∧
      moved.points[1]? = some halted.pose ∧ moved.points[2]? = some moved.pose := by
  intro fresh halted moved
  have failed : forward fresh = .error ⟨.swayNotNumber "str", [], []⟩ halted := rfl
  have spatial : halted.Spatial := by
    have kept := forward_keeps_spatial fresh (start_spatial _)
    rwa [Act.reached_of_error failed] at kept
  obtain ⟨angle, drawn⟩ : ∃ angle, AngleSource.draw halted.jitter = .ok angle (.listed []) :=
    ⟨_, rfl⟩
  rcases Pose.advance_spatial spatial.pose angle with ⟨pose, advanced, -⟩
  have done : forward halted = .ok () (reach pose { halted.record with jitter := .listed [] }) := by
    simp only [forward, drawn, advanced]
  have same : moved = reach pose { halted.record with jitter := .listed [] } :=
    Act.reached_of_ok done
  rw [same]
  exact ⟨⟨_, failed⟩, rfl, rfl, done, rfl, rfl, rfl⟩

end Turtle
end Arbor
