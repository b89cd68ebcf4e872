import Arbor.Proofs.Walk.Descent
import Mathlib.Order.Nat

/-!
# How segments taper

In doubles the length of a segment falls for fifty segments and then stays what it is.  The last
fall is the one to the least length; it is a fall too, since what is left before it is rounded to a
little less than what a segment is shortened by.  So lengths never grow along a path, and they stay
between the least and the first one.

The length of a pose is decided by the segments on its open path, so all this holds of every pose
that a turtle holds at any moment of a walk (`lengths_taper`).
-/

namespace Arbor

open Brackets Number Space

namespace Pose

/-! ## Lengths in doubles -/

/-- After fifty segments the least length is reached. -/
theorem segmentLength_fifty : (segmentLength 50 : Float) = leastLength := by decide +kernel

theorem nextLength_least : (nextLength leastLength : Float) = leastLength := by decide +kernel

theorem segmentLength_of_fifty_le {segments : Nat} (many : 50 ≤ segments) :
    (segmentLength segments : Float) = leastLength := by
  induction segments, many using Nat.le_induction with
  | base => exact segmentLength_fifty
  | succ segments many inductionHypothesis =>
    rw [segmentLength_succ, inductionHypothesis, nextLength_least]

theorem segmentLength_min (segments : Nat) :
    (segmentLength (min segments 50) : Float) = segmentLength segments := by
  rcases Nat.le_total segments 50 with few | many
  · rw [Nat.min_eq_left few]
  · rw [Nat.min_eq_right many, segmentLength_fifty, segmentLength_of_fifty_le many]

/-- The fifty lengths before the least one, each compared with the next. -/
theorem segmentLength_falls :
    ∀ segments < 50, (segmentLength (segments + 1) : Float) < segmentLength segments ∧
      (segmentLength segments : Float) ≠ leastLength := by decide +kernel

/-- All lengths up to the least one, each compared with those before it. -/
theorem segmentLength_sorted :
    ∀ more ≤ 50, ∀ fewer ≤ more, (segmentLength more : Float) ≤ segmentLength fewer := by
  decide +kernel

theorem segmentLength_antitone {fewer more : Nat} (ordered : fewer ≤ more) :
    (segmentLength more : Float) ≤ segmentLength fewer := by
  have bounded : min fewer 50 ≤ min more 50 := by omega
  have sorted := segmentLength_sorted _ (Nat.min_le_right more 50) _ bounded
  rwa [segmentLength_min, segmentLength_min] at sorted

theorem leastLength_le (segments : Nat) : leastLength ≤ (segmentLength segments : Float) := by
  have sorted := segmentLength_antitone (Nat.le_max_left segments 50)
  rwa [segmentLength_of_fifty_le (Nat.le_max_right segments 50)] at sorted

/-- A segment makes the next one shorter, unless it has the least length already. -/
structure Shortens (length next : Float) : Prop where
  shorter : length ≠ leastLength → next < length
  least : length = leastLength → next = leastLength

theorem segmentLength_shortens (segments : Nat) :
    Shortens (segmentLength segments) (nextLength (segmentLength segments)) where
  shorter other := by
    rw [← segmentLength_succ]
    rcases Nat.lt_or_ge segments 50 with few | many
    · exact (segmentLength_falls segments few).1
    · exact absurd (segmentLength_of_fifty_le many) other
  least same := by rw [same, nextLength_least]

/-- The length of a pose is that of its path: it depends on the number of segments there alone, lies
within the bounds, and is not greater than it was anywhere before on the path. -/
structure Tapers {C : Type} (path : List Char) (pose : Pose C Float) : Prop where
  length : pose.length = segmentLength (path.count 'F')
  least : leastLength ≤ pose.length
  initial : pose.length ≤ initialLength
  since : ∀ begun, begun <+: path → pose.length ≤ segmentLength (begun.count 'F')

theorem tapers_of_length {C : Type} {path : List Char} {pose : Pose C Float}
    (length : pose.length = segmentLength (path.count 'F')) : pose.Tapers path where
  length := length
  least := by
    rw [length]
    exact leastLength_le _
  initial := by
    rw [length, ← segmentLength_zero]
    exact segmentLength_antitone (Nat.zero_le _)
  since begun beginning := by
    rw [length]
    exact segmentLength_antitone (beginning.sublist.count_le 'F')

end Pose

variable {C J : Type} [Component C Float] [AngleSource J Float]

theorem AngleSource.Supplies.of_le {count more : Nat} {jitter : J}
    (supplies : AngleSource.Supplies more jitter) (fewer : count ≤ more) :
    AngleSource.Supplies count jitter := by
  induction count generalizing more jitter with
  | zero => trivial
  | succ count inductionHypothesis =>
    cases more with
    | zero => exact absurd fewer (Nat.not_succ_le_zero count)
    | succ more =>
      rcases supplies with ⟨sway, left, drawn, later⟩
      exact ⟨sway, left, drawn, inductionHypothesis later (Nat.le_of_succ_le_succ fewer)⟩

namespace Turtle

variable {done rest begun : List Char} {jitter : J} {turtle next : Turtle C Float J} {depth : Nat}
  {pose : Pose C Float}

theorem followAll_tapers (walked : followAll done 0 (start jitter) = .ok () turtle) :
    turtle.pose.Tapers (openPath done) :=
  Pose.tapers_of_length (followAll_length walked)

/-- A saved pose tapers with the word before the bracket that has saved it. -/
theorem saved_tapers (walked : followAll done 0 (start jitter) = .ok () turtle)
    (there : turtle.saved[depth]? = some pose) :
    ∃ begun, (begun = [] ∧ (depth : Int) = level done ∨
        ∃ inner, done = begun ++ '[' :: inner ∧ Matched inner ∧ level inner = depth) ∧
      pose.Tapers (openPath begun) :=
  (followAll_holds (fun _ walked => followAll_tapers walked) walked).saved depth pose there

theorem length_of_forward (followed : Followed turtle 'F' next) :
    next.pose.length = Pose.nextLength turtle.pose.length := by
  cases followed with
  | stepped drawn advanced => exact (Pose.angle_length_of_advance advanced).2
  | skipped other => exact absurd rfl (other .forward)

theorem followAll_shortens (walked : followAll done 0 (start jitter) = .ok () turtle)
    (followed : Followed turtle 'F' next) :
    Pose.Shortens turtle.pose.length next.pose.length := by
  rw [length_of_forward followed, followAll_length walked]
  exact Pose.segmentLength_shortens _

/-- The points of a segment taper with the words before and after its symbol. -/
theorem points_taper (walked : followAll (begun ++ 'F' :: rest) 0 (start jitter) = .ok () turtle) :
    ∃ before after, turtle.points[2 * begun.count 'F']? = some before ∧
      turtle.points[2 * begun.count 'F' + 1]? = some after ∧
      before.Tapers (openPath begun) ∧ after.Tapers (openPath (begun ++ ['F'])) ∧
      Pose.Shortens before.length after.length := by
  rcases points_of_segment walked with ⟨before, after, first, followed, second, here, there⟩
  exact ⟨before.pose, after.pose, here, there, followAll_tapers first, followAll_tapers second,
    followAll_shortens first followed⟩

/-- At any moment of a walk, the pose of the turtle has the length that is due to its open path, and
so have the poses that it has saved, each with the word before the bracket that begins its group,
and the poses that it has recorded, two for each segment.  These lengths lie between the least and
the first one and are not greater than any before on the path; a segment makes the next one shorter
unless the least length is reached, and then it stays. -/
theorem lengths_taper (matched : Matched done)
    (enough : AngleSource.Supplies ((done ++ rest).count 'F') jitter) :
    ∃ turtle : Turtle C Float J, followAll done 0 (start jitter) = .ok () turtle ∧
      followAll (done ++ rest) 0 (start jitter) = followAll rest done.length turtle ∧
      turtle.pose.Tapers (openPath done) ∧
      (∀ (depth : Nat) (pose : Pose C Float), turtle.saved[depth]? = some pose →
        ∃ begun, (begun = [] ∧ (depth : Int) = level done ∨
            ∃ inner, done = begun ++ '[' :: inner ∧ Matched inner ∧ level inner = depth) ∧
          pose.Tapers (openPath begun)) ∧
      turtle.points.size = 2 * done.count 'F' ∧
      (∀ begun inner, done = begun ++ 'F' :: inner →
        ∃ before after, turtle.points[2 * begun.count 'F']? = some before ∧
          turtle.points[2 * begun.count 'F' + 1]? = some after ∧
          before.Tapers (openPath begun) ∧ after.Tapers (openPath (begun ++ ['F'])) ∧
          Pose.Shortens before.length after.length) ∧
      ∀ later, rest = 'F' :: later → ∃ next, follow 'F' done.length turtle = .ok () next ∧
        next.pose.Tapers (openPath (done ++ ['F'])) ∧
        Pose.Shortens turtle.pose.length next.pose.length := by
  have upTo : done.count 'F' ≤ (done ++ rest).count 'F' :=
    (List.sublist_append_left done rest).count_le 'F'
  rcases followAll_of_matched (C := C) matched (enough.of_le upTo) with ⟨turtle, walked⟩
  refine ⟨turtle, walked, ?_, followAll_tapers walked, fun depth pose => saved_tapers walked,
    (followAll_trailing walked).size, ?_, ?_⟩
  · rw [followAll_append, Act.bind_of_ok walked, Nat.zero_add]
  · rintro begun inner rfl
    exact points_taper walked
  · rintro later rfl
    have more : (done ++ ['F']).count 'F' ≤ (done ++ 'F' :: later).count 'F' := by simp
    have onward : Matched (done ++ ['F']) :=
      matched.append (balanced_plain (by decide) (by decide)).matched
    rcases followAll_of_matched (C := C) onward (enough.of_le more) with ⟨next, further⟩
    rcases followAll_append_ok further with ⟨same, first, step⟩
    rw [walked] at first
    cases first
    rcases followAll_cons_ok step with ⟨after, followed, ended⟩
    cases ended
    exact ⟨next, follow_of_followed followed _, followAll_tapers further,
      followAll_shortens walked followed⟩

/-- In a group after a segment the length is the second one, and the pose that is saved below it has
the same length. -/
theorem budding_lengths_taper :
    let done := ['F', '[', '+']
    Matched done ∧ AngleSource.Supplies 3 (Jitter.constant (.int 5)) ∧
      ∃ turtle next : Turtle Float32 Float Jitter,
        followAll done 0 (start (.constant (.int 5))) = .ok () turtle ∧
        follow 'F' 3 turtle = .ok () next ∧ turtle.pose.length = Pose.segmentLength 1 ∧
        next.pose.length = Pose.segmentLength 2 ∧ next.pose.length < turtle.pose.length := by
  intro done
  have matched : Matched done := by decide
  have enough : ∀ count, AngleSource.Supplies count (Jitter.constant (.int 5)) :=
    Jitter.constant_supplies (rfl : Jitter.summand (.int 5) = _)
  rcases @lengths_taper Float32 Jitter _ _ done ['F', ']', 'F'] (.constant (.int 5)) matched
      (enough _) with ⟨turtle, walked, -, tapers, -, -, -, steps⟩
  rcases steps [']', 'F'] rfl with ⟨next, stepped, further, shortens⟩
  have one : (openPath done).count 'F' = 1 := by decide +kernel
  have two : (openPath (done ++ ['F'])).count 'F' = 2 := by decide +kernel
  have before := tapers.length
  have after := further.length
  rw [one] at before
  rw [two] at after
  have above : turtle.pose.length ≠ Pose.leastLength := by
    rw [before]
    exact (Pose.segmentLength_falls 1 (by decide)).2
  exact ⟨matched, enough 3, turtle, next, walked, stepped, before, after, shortens.shorter above⟩

end Turtle
end Arbor
