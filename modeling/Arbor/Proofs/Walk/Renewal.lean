import Arbor.Proofs.Walk.Trail

/-!
# Turtles with a past

A turtle may walk words, take single steps, go back to the start and be put into any pose, in any
order, and whatever fails on the way is left where it stopped.  Nothing of this touches the pose at
the bottom of the saved ones, which stays the one in which every walk starts.

A walk puts the turtle back to the start before it follows its word.  So of all that the turtle has
done before, only the sways that are left have a part in what the walk comes to, and with enough of
them that is settled by the brackets of the word.
-/

namespace Arbor

open Brackets Number Space

variable {C W J : Type} [Wide W] [Component C W] [AngleSource J W]

namespace Turtle

/-- What may be asked of a turtle. -/
inductive Move (C W : Type) where
  | draw (word : List Char)
  | reset
  | forward
  | place (pose : Pose C W)

/-- Do what is asked of a turtle. -/
def Move.act : Move C W → Act (Turtle C W J) Unit
  | .draw word => Turtle.draw word
  | .reset => modify Turtle.reset
  | .forward => Turtle.forward
  | .place pose => modify fun turtle => { turtle with pose := pose }

/-- What has become of a turtle after moves one after the other, whether they fail or not. -/
def afterAll : List (Move C W) → Turtle C W J → Turtle C W J
  | [], turtle => turtle
  | move :: moves, turtle => afterAll moves (move.act.reached turtle)

/-! ## The bottom of the saved poses -/

/-- At the bottom of the saved poses lies the one in which every walk starts. -/
def Rooted (turtle : Turtle C W J) : Prop := turtle.saved.getLast? = some .origin

omit [AngleSource J W] in
theorem start_rooted (jitter : J) : (start jitter : Turtle C W J).Rooted := rfl

/-- A step forward saves no pose and takes none, even if it cannot be done. -/
theorem forward_saved (turtle : Turtle C W J) : (forward.reached turtle).saved = turtle.saved := by
  unfold Act.reached
  cases drawn : AngleSource.draw (W := W) turtle.jitter with
  | error failure left => simp only [forward, drawn, record]
  | ok sway left =>
    cases advanced : turtle.pose.advance sway with
    | error failure => simp only [forward, drawn, advanced, record]
    | ok pose => simp only [forward, drawn, advanced, reach, record]

omit [AngleSource J W] in
/-- A bracket never takes the pose at the bottom. -/
theorem restore_keeps_rooted (symbol : Char) (index : Nat) :
    Act.Keeps (Rooted (C := C) (W := W) (J := J)) (restore symbol index) := by
  intro turtle rooted
  unfold Act.reached restore
  match above : turtle.saved with
  | [] => exact rooted
  | [_] => exact rooted
  | pose :: below :: rest =>
    unfold Rooted at rooted ⊢
    rwa [above, List.getLast?_cons_cons] at rooted

theorem forward_keeps_rooted : Act.Keeps (Rooted (C := C) (W := W) (J := J)) forward := by
  intro turtle rooted
  unfold Rooted
  rwa [forward_saved]

theorem follow_keeps_rooted (symbol : Char) (index : Nat) :
    Act.Keeps (Rooted (C := C) (W := W) (J := J)) (follow symbol index) := by
  unfold follow
  cases Command.ofSymbol? symbol with
  | none => exact Act.Keeps.pure ()
  | some command =>
    cases command with
    | forward => exact forward_keeps_rooted
    | turnUp => exact Act.Keeps.modify fun _ rooted => rooted
    | turnDown => exact Act.Keeps.modify fun _ rooted => rooted
    | save =>
      refine Act.Keeps.modify fun turtle rooted => ?_
      change (turtle.pose :: turtle.saved).getLast? = some .origin
      rw [List.getLast?_cons, rooted, Option.getD_some]
    | restore => exact restore_keeps_rooted symbol index

theorem followAll_keeps_rooted (word : List Char) (index : Nat) :
    Act.Keeps (Rooted (C := C) (W := W) (J := J)) (followAll word index) := by
  induction word generalizing index with
  | nil => exact Act.Keeps.pure ()
  | cons symbol word inductionHypothesis =>
    exact Act.Keeps.bind (follow_keeps_rooted symbol index) fun _ =>
      inductionHypothesis (index + 1)

theorem move_keeps_rooted (move : Move C W) :
    Act.Keeps (Rooted (C := C) (W := W) (J := J)) move.act := by
  cases move with
  | draw word =>
    exact Act.Keeps.bind (Act.Keeps.modify fun turtle _ => start_rooted turtle.jitter) fun _ =>
      followAll_keeps_rooted word 0
  | reset => exact Act.Keeps.modify fun turtle _ => start_rooted turtle.jitter
  | forward => exact forward_keeps_rooted
  | place pose => exact Act.Keeps.modify fun _ rooted => rooted

theorem afterAll_rooted (moves : List (Move C W)) {turtle : Turtle C W J}
    (rooted : turtle.Rooted) : (afterAll moves turtle).Rooted := by
  induction moves generalizing turtle with
  | nil => exact rooted
  | cons move moves inductionHypothesis =>
    exact inductionHypothesis (move_keeps_rooted move turtle rooted)

/-! ## Walks of a used turtle -/

/-- A walk is that of a new turtle with the sways that are left. -/
theorem draw_eq (word : List Char) (turtle : Turtle C W J) :
    draw word turtle = followAll word 0 (start turtle.jitter) := rfl

/-- How a walk ends for which there are enough sways, whatever the turtle has done before. -/
theorem draw_outcome {word : List Char} {turtle : Turtle C W J}
    (enough : AngleSource.Supplies (word.count 'F') turtle.jitter) :
    (Matched word ∧ ∃ reached, draw word turtle = .ok () reached) ∨
      ∃ closed rest reached, word = closed ++ ']' :: rest ∧ Balanced closed ∧
        draw closed turtle = .ok () reached ∧
        draw word turtle = .error ⟨.unmatched "]" closed.length, [], []⟩ reached :=
  followAll_outcome enough

/-- What a completed walk has recorded and left open. -/
theorem sizes_of_draw {word : List Char} {turtle reached : Turtle C W J}
    (walked : draw word turtle = .ok () reached) :
    (reached.saved.length : Int) = 1 + word.count '[' - word.count ']' ∧
      reached.points.size = 2 * word.count 'F' := by
  have size := (followAll_saved_length walked).1
  unfold level at size
  exact ⟨by omega, (followAll_trailing walked).size⟩

/-- After a walk whose groups are all closed only the starting pose is saved. -/
theorem saved_of_balanced {word : List Char} (balanced : Balanced word)
    {turtle reached : Turtle C W J} (walked : draw word turtle = .ok () reached) :
    reached.saved = [.origin] := by
  rw [draw_eq] at walked
  have size := (followAll_saved_length walked).1
  rw [balanced.level_eq] at size
  have rooted := followAll_keeps_rooted word 0 _ (start_rooted (C := C) turtle.jitter)
  rw [Act.reached_of_ok walked] at rooted
  rcases List.length_eq_one_iff.mp (by omega : reached.saved.length = 1) with ⟨pose, single⟩
  unfold Rooted at rooted
  rw [single, List.getLast?_singleton] at rooted
  rw [single, Option.some.inj rooted]

/-- Whatever has been asked of a turtle since it was new, the pose at the bottom of its saved ones is
the one in which every walk starts.  A walk comes to what it comes to with any other turtle that has
the same sways left.  With enough sways it fails exactly if the word is not matched, and then at the
first place up to which more groups are ended than begun, as a turtle that has walked the word up to
there and has only the starting pose saved; otherwise one pose is saved for every group left open,
and there are two points for each segment. -/
theorem walk_begins_anew (moves : List (Move C W)) (jitter : J) :
    let used : Turtle C W J := afterAll moves (start jitter)
    (used.saved.getLast? = some .origin ∧
      (Pose.origin : Pose C W).length = Pose.initialLength) ∧
    ∀ word : List Char,
      (∀ other : Turtle C W J, other.jitter = used.jitter → draw word other = draw word used) ∧
      (AngleSource.Supplies (word.count 'F') used.jitter →
        ((∃ index reached, draw word used = .error ⟨.unmatched "]" index, [], []⟩ reached) ↔
          ¬ Matched word) ∧
        (∀ failure reached, draw word used = .error failure reached →
          ∃ index : Nat, failure = ⟨.unmatched "]" index, [], []⟩ ∧ word[index]? = some ']' ∧
            Matched (word.take index) ∧
            (word.take (index + 1)).count '[' < (word.take (index + 1)).count ']' ∧
            draw (word.take index) used = .ok () reached ∧ reached.saved = [.origin] ∧
            reached.points.size = 2 * (word.take index).count 'F') ∧
        ∀ reached, draw word used = .ok () reached →
          (reached.saved.length : Int) = 1 + word.count '[' - word.count ']' ∧
            reached.points.size = 2 * word.count 'F') := by
  intro used
  refine ⟨⟨afterAll_rooted moves (start_rooted jitter), rfl⟩, fun word => ⟨fun other same => ?_,
    fun enough => ⟨?_, fun failure reached stopped => ?_, fun reached => sizes_of_draw⟩⟩⟩
  · rw [draw_eq, draw_eq, same]
  · rcases draw_outcome enough with
        ⟨matched, reached, walked⟩ | ⟨closed, rest, reached, rfl, balanced, -, stopped⟩
    · refine iff_of_false ?_ (not_not_intro matched)
      rintro ⟨index, other, stopped⟩
      cases walked.symm.trans stopped
    · exact iff_of_true ⟨closed.length, reached, stopped⟩ (balanced.not_matched rest)
  · rcases draw_outcome enough with
        ⟨-, other, walked⟩ | ⟨closed, rest, other, rfl, balanced, walked, failed⟩
    · cases walked.symm.trans stopped
    · cases stopped.symm.trans failed
      have before : (closed ++ ']' :: rest).take closed.length = closed := List.take_left
      have upTo : (closed ++ ']' :: rest).take (closed.length + 1) = closed ++ [']'] := by
        simp [List.take_append]
      have even := balanced.closed
      have more : (closed ++ [']']).count '[' < (closed ++ [']']).count ']' := by
        rw [List.count_append, List.count_append]
        simp [even]
      refine ⟨closed.length, rfl, by simp, ?_⟩
      rw [before, upTo]
      exact ⟨balanced.matched, more, walked, saved_of_balanced balanced walked,
        (sizes_of_draw walked).2⟩

/-- A turtle has failed at a stray bracket, been put elsewhere and taken a step there.  When it walks
again, it fails at the second of two closing brackets, with the two points of the segment before. -/
theorem used_turtle_stops :
    let word := ['[', 'F', ']', ']', 'F']
    let used : Turtle Float32 Float Jitter := afterAll
      [.draw ['F', ']'], .place ⟨.spatial 1 2 3, .spatial 4 5 6, 7⟩, .forward, .draw ['[', '[']]
      (start (.constant (.int 5)))
    used.saved.length = 3 ∧
      ∃ reached, draw word used = .error ⟨.unmatched "]" 3, [], []⟩ reached ∧
        reached.saved = [.origin] ∧ reached.points.size = 2 := by
  intro word used
  rcases walk_begins_anew (C := Float32)
      [.draw ['F', ']'], .place ⟨.spatial 1 2 3, .spatial 4 5 6, 7⟩, .forward, .draw ['[', '[']]
      (Jitter.constant (.int 5)) with ⟨-, walks⟩
  have enough := Jitter.constant_supplies (rfl : Jitter.summand (.int 5) = _) (word.count 'F')
  rcases (walks word).2 enough with ⟨fails, places, -⟩
  rcases fails.mpr (by decide) with ⟨index, reached, stopped⟩
  rcases places _ _ stopped with ⟨place, same, there, -, stray, -, saved, points⟩
  have within : place < 5 := (List.getElem?_eq_some_iff.mp there).1
  have only : ∀ place < 5, word[place]? = some ']' →
      (word.take (place + 1)).count '[' < (word.take (place + 1)).count ']' → place = 3 := by
    decide
  rw [same, only place within there stray] at stopped
  rw [only place within there stray] at points
  exact ⟨rfl, reached, stopped, saved, points⟩

end Turtle
end Arbor
