import Arbor.Proofs.Walk.Groups
import Arbor.Proofs.Walk.OpenPath
import Arbor.Proofs.Walk.Renewal
import Mathlib.Logic.Function.Iterate

/-!
# Where poses come from

A whole group brings a turtle back to the pose with which it was begun, so the pose at the end of a
word comes of the open path of the word alone (`followAll_openPath`).  The segments on the path
decide the length of the pose, and the turns on it the heading about the first axis.  This says
something of every pose that a turtle holds, because each of them has been its present pose: a saved
pose before the bracket that has saved it (`saved_cases`), and the two points of a segment before
and after its symbol (`points_of_segment`).

What has been recorded has no part in how a turtle goes on.  New points are put behind it
(`followAll_behind`).
-/

namespace Arbor

open Brackets Number Space

variable {C W J : Type} [Wide W] [Component C W]

namespace Pose

/-- The length of a segment that comes after so many others. -/
def segmentLength (segments : Nat) : W := nextLength^[segments] initialLength

/-- What a symbol makes of the heading about the first axis. -/
def pitched (heading : C) : Char → C
  | '+' => Component.store (Component.read heading + turnAngle)
  | '-' => Component.store (Component.read heading - turnAngle)
  | _ => heading

/-- The heading about the first axis at the end of a path without brackets. -/
def pitchAlong (path : List Char) : C := path.foldl pitched (Component.store 0)

/-- What a symbol that is no bracket can make of a pose. -/
inductive Moved (pose : Pose C W) : Char → Pose C W → Prop
  | advanced {sway : W} {next : Pose C W} (advanced : pose.advance sway = .ok next) :
    Moved pose 'F' next
  | turnedUp : Moved pose '+' pose.turnUp
  | turnedDown : Moved pose '-' pose.turnDown
  | unmoved {symbol : Char} (other : ∀ command : Command, symbol ≠ command.symbol) :
    Moved pose symbol pose

omit [Component C W] in
theorem segmentLength_zero : (segmentLength 0 : W) = initialLength := rfl

omit [Component C W] in
theorem segmentLength_succ (segments : Nat) :
    (segmentLength (segments + 1) : W) = nextLength (segmentLength segments) :=
  Function.iterate_succ_apply' nextLength segments initialLength

theorem pitchAlong_concat (path : List Char) (symbol : Char) :
    (pitchAlong (path ++ [symbol]) : C) = pitched (pitchAlong path) symbol :=
  List.foldl_concat pitched (Component.store 0) symbol path

theorem pitched_of_ne {symbol : Char} (notUp : symbol ≠ '+') (notDown : symbol ≠ '-')
    (heading : C) : pitched heading symbol = heading := by
  unfold pitched
  split
  · exact absurd rfl notUp
  · exact absurd rfl notDown
  · rfl

/-- A step forward sways the heading about the second axis, and shortens. -/
theorem angle_length_of_advance {pose next : Pose C W} {sway : W}
    (advanced : pose.advance sway = .ok next) :
    next.angle = swayed pose.angle sway ∧ next.length = nextLength pose.length := by
  unfold advance at advanced
  dsimp only at advanced
  cases ended : segmentEnd pose.position (swayed pose.angle sway) pose.length with
  | error failure =>
    rw [ended] at advanced
    cases advanced
  | ok position =>
    rw [ended] at advanced
    cases advanced
    exact ⟨rfl, rfl⟩

theorem Moved.length {path : List Char} {symbol : Char} {pose next : Pose C W}
    (known : pose.length = segmentLength (path.count 'F')) (moved : pose.Moved symbol next) :
    next.length = segmentLength ((path ++ [symbol]).count 'F') := by
  have plain : ∀ {symbol : Char}, symbol ≠ 'F' →
      pose.length = segmentLength ((path ++ [symbol]).count 'F') := by
    intro symbol other
    simpa [other] using known
  cases moved with
  | advanced advanced =>
    have more : (path ++ ['F']).count 'F' = path.count 'F' + 1 := by simp
    rw [(angle_length_of_advance advanced).2, known, more, segmentLength_succ]
  | turnedUp => exact plain (by decide)
  | turnedDown => exact plain (by decide)
  | unmoved other => exact plain (other .forward)

theorem Moved.pitch {path : List Char} {symbol : Char} {pose next : Pose C W}
    (known : pose.angle.x = pitchAlong path) (moved : pose.Moved symbol next) :
    next.angle.x = pitchAlong (path ++ [symbol]) := by
  rw [pitchAlong_concat, ← known]
  cases moved with
  | advanced advanced =>
    rw [(angle_length_of_advance advanced).1, pitched_of_ne (by decide) (by decide)]
    rfl
  | turnedUp => rfl
  | turnedDown => rfl
  | unmoved other => exact (pitched_of_ne (other .turnUp) (other .turnDown) _).symm

end Pose

namespace Turtle

variable [AngleSource J W]
variable {turtle between reached : Turtle C W J} {symbol : Char} {word closed begun rest : List Char}
  {index depth : Nat} {pose : Pose C W} {jitter : J}

/-! ## Recording -/

theorem follow_of_followed (followed : Followed turtle symbol reached) (index : Nat) :
    follow symbol index turtle = .ok () reached := by
  cases followed with
  | stepped drawn advanced =>
    change forward turtle = _
    simp only [forward, drawn, advanced]
  | turnedUp => rfl
  | turnedDown => rfl
  | saved => rfl
  | restored above => exact restore_of_cons above
  | skipped other =>
    have none : Command.ofSymbol? symbol = none := by
      cases stands : Command.ofSymbol? symbol with
      | none => rfl
      | some command => exact absurd (Command.symbol_of_ofSymbol? stands) (other command)
    unfold follow
    rw [none]
    rfl

theorem followAll_cons_of_followed (followed : Followed turtle symbol between) (index : Nat) :
    followAll (symbol :: word) index turtle = followAll word (index + 1) between := by
  rw [followAll, Act.bind_of_ok (follow_of_followed followed index)]

/-- A symbol that is no bracket does to the pose of a turtle what it does to poses. -/
theorem Followed.moved (followed : Followed turtle symbol reached) (notOpening : symbol ≠ '[')
    (notClosing : symbol ≠ ']') : turtle.pose.Moved symbol reached.pose := by
  cases followed with
  | stepped drawn advanced => exact .advanced advanced
  | turnedUp => exact .turnedUp
  | turnedDown => exact .turnedDown
  | saved => exact absurd rfl notOpening
  | restored above => exact absurd rfl notClosing
  | skipped other => exact .unmoved other

/-- A segment puts its two points behind what is recorded, and no other symbol records anything. -/
theorem Followed.behind (followed : Followed turtle symbol reached) :
    ∃ more : List (Pose C W), reached.points = turtle.points ++ more.toArray ∧
      more.length = 2 * [symbol].count 'F' ∧
      ∀ points : Array (Pose C W), Followed { turtle with points := points } symbol
        { reached with points := points ++ more.toArray } := by
  have silent : ∀ {symbol : Char}, symbol ≠ 'F' →
      ([] : List (Pose C W)).length = 2 * [symbol].count 'F' := by
    intro symbol other
    simp [other]
  cases followed with
  | @stepped sway left pose drawn advanced =>
    have pushed : ∀ points : Array (Pose C W), points ++ [turtle.pose, pose].toArray =
        (points.push turtle.pose).push pose := fun points => Array.ext' (by simp)
    refine ⟨[turtle.pose, pose], (pushed _).symm, by simp, fun points => ?_⟩
    rw [pushed]
    exact .stepped drawn advanced
  | turnedUp => exact ⟨[], by simp, silent (by decide), fun points => by simpa using .turnedUp⟩
  | turnedDown => exact ⟨[], by simp, silent (by decide), fun points => by simpa using .turnedDown⟩
  | saved => exact ⟨[], by simp [save], silent (by decide), fun points => by simpa using .saved⟩
  | restored above =>
    exact ⟨[], by simp, silent (by decide), fun points => by simpa using .restored above⟩
  | skipped other =>
    exact ⟨[], by simp, silent (other .forward), fun points => by simpa using .skipped other⟩

/-- Neither the points that are recorded already nor the place of a word have a part in how the word
is followed.  There are two new points for each segment. -/
theorem followAll_behind (walked : followAll word index turtle = .ok () reached) :
    ∃ more : List (Pose C W), reached.points = turtle.points ++ more.toArray ∧
      more.length = 2 * word.count 'F' ∧
      ∀ (points : Array (Pose C W)) (place : Nat),
        followAll word place { turtle with points := points } =
          .ok () { reached with points := points ++ more.toArray } := by
  induction word generalizing index turtle with
  | nil =>
    cases walked
    refine ⟨[], by simp, rfl, fun points place => ?_⟩
    simp [followAll]
    rfl
  | cons symbol word inductionHypothesis =>
    rcases followAll_cons_ok walked with ⟨between, followed, walked⟩
    rcases followed.behind with ⟨first, here, one, again⟩
    rcases inductionHypothesis walked with ⟨later, onward, others, anew⟩
    refine ⟨first ++ later, ?_, ?_, fun points place => ?_⟩
    · rw [onward, here]
      simp
    · have parts : (symbol :: word).count 'F' = [symbol].count 'F' + word.count 'F' := by
        rw [← List.count_append]
        rfl
      rw [List.length_append, one, others, parts]
      omega
    · rw [followAll_cons_of_followed (again points), anew]
      simp

/-- A matched word is followed to its end, as long as there are enough sways. -/
theorem followAll_of_matched (matched : Matched word)
    (enough : AngleSource.Supplies (word.count 'F') jitter) :
    ∃ turtle : Turtle C W J, followAll word 0 (start jitter) = .ok () turtle := by
  rcases followAll_outcome (C := C) enough with
      ⟨-, walked⟩ | ⟨closed, rest, turtle, rfl, balanced, -⟩
  · exact walked
  · exact absurd matched (balanced.not_matched rest)

/-! ## Present poses -/

/-- A whole group takes a turtle back to the pose with which the group was begun, and to the poses
that were saved before. -/
theorem followAll_group (balanced : Balanced closed)
    (walked : followAll ('[' :: (closed ++ [']'])) index turtle = .ok () reached) :
    reached.pose = turtle.pose ∧ reached.saved = turtle.saved := by
  rcases followAll_cons_ok walked with ⟨opened, followed, walked⟩
  cases followed with
  | skipped other => exact absurd rfl (other .save)
  | saved =>
    rcases followAll_append_ok walked with ⟨between, inner, walked⟩
    rcases followAll_onward balanced.matched (List.cons_ne_nil _ _) inner with ⟨poses, onward⟩
    rcases followAll_cons_ok walked with ⟨after, followed, ended⟩
    cases ended
    rw [onward.restored balanced followed]
    exact ⟨rfl, rfl⟩

/-- What holds of the pose with which a matched word is begun holds of the pose at its end, if it is
kept by every symbol that is no bracket, and passed on by a bracket that begins a group and by a
whole group, which leave the pose as it was. -/
theorem followAll_matched {motive : List Char → Pose C W → Prop} (begun : motive [] turtle.pose)
    (plain : ∀ {word : List Char} {symbol : Char} {between after : Turtle C W J}, symbol ≠ '[' →
      symbol ≠ ']' → Matched word → followAll word index turtle = .ok () between →
        motive word between.pose → Followed between symbol after →
          motive (word ++ [symbol]) after.pose)
    (opened : ∀ {word : List Char} {pose : Pose C W}, Matched word → motive word pose →
      motive (word ++ ['[']) pose)
    (group : ∀ {word closed : List Char} {pose : Pose C W}, Balanced closed → Matched word →
      motive word pose → motive (word ++ '[' :: (closed ++ [']'])) pose)
    (matched : Matched word) (walked : followAll word index turtle = .ok () reached) :
    motive word reached.pose := by
  induction matched using Matched.induction generalizing reached with
  | nil =>
    cases walked
    exact begun
  | plain notOpening notClosing matched _ inductionHypothesis =>
    rcases followAll_append_ok walked with ⟨between, before, walked⟩
    rcases followAll_cons_ok walked with ⟨after, followed, ended⟩
    cases ended
    exact plain notOpening notClosing matched before (inductionHypothesis before) followed
  | opened matched _ inductionHypothesis =>
    rcases followAll_append_ok walked with ⟨between, before, walked⟩
    rcases followAll_cons_ok walked with ⟨after, followed, ended⟩
    cases ended
    have known := inductionHypothesis before
    cases followed with
    | saved => exact opened matched known
    | skipped other => exact absurd rfl (other .save)
  | group balanced matched _ inductionHypothesis =>
    rcases followAll_append_ok walked with ⟨between, before, walked⟩
    rw [(followAll_group balanced walked).1]
    exact group balanced matched (inductionHypothesis before)

/-- What holds of the pose in which walks start, and is kept by every symbol that is no bracket,
holds of the pose at the end of a word.  The property may speak of the open path of the word. -/
theorem followAll_openPath {motive : List Char → Pose C W → Prop} (origin : motive [] .origin)
    (step : ∀ {path : List Char} {symbol : Char} {pose next : Pose C W}, motive path pose →
      pose.Moved symbol next → motive (path ++ [symbol]) next)
    (walked : followAll word 0 (start jitter) = .ok () turtle) :
    motive (openPath word) turtle.pose := by
  have begun : motive (openPath []) (start jitter : Turtle C W J).pose := origin
  refine followAll_matched (motive := fun word pose => motive (openPath word) pose) begun ?_ ?_ ?_
    (followAll_saved_length walked).2 walked
  · intro word symbol between after notOpening notClosing matched _ known followed
    rw [openPath_append_plain matched notOpening notClosing]
    exact step known (followed.moved notOpening notClosing)
  · intro word pose matched known
    rwa [openPath_append_opening matched]
  · intro word closed pose balanced matched known
    rwa [openPath_append_group balanced matched]

theorem followAll_length (walked : followAll word 0 (start jitter) = .ok () turtle) :
    turtle.pose.length = Pose.segmentLength ((openPath word).count 'F') := by
  have begun : (Pose.origin : Pose C W).length = Pose.segmentLength (([] : List Char).count 'F') :=
    rfl
  exact followAll_openPath (motive := fun path pose =>
    pose.length = Pose.segmentLength (path.count 'F')) begun Pose.Moved.length walked

theorem followAll_pitch (walked : followAll word 0 (start jitter) = .ok () turtle) :
    turtle.pose.angle.x = Pose.pitchAlong (openPath word) :=
  followAll_openPath (motive := fun path pose => pose.angle.x = Pose.pitchAlong path) rfl
    Pose.Moved.pitch walked

/-! ## Saved and recorded poses -/

/-- A pose that is saved for a group was the present one at the bracket that begins the group. -/
theorem saved_of_opening
    (walked : followAll (begun ++ '[' :: rest) 0 (start jitter) = .ok () turtle)
    (matched : Matched rest) (height : level rest = depth) :
    ∃ between, followAll begun 0 (start jitter) = .ok () between ∧
      turtle.saved[depth]? = some between.pose := by
  rcases followAll_append_ok walked with ⟨between, before, walked⟩
  rcases followAll_cons_ok walked with ⟨after, followed, walked⟩
  cases followed with
  | skipped other => exact absurd rfl (other .save)
  | saved =>
    rcases followAll_onward matched (List.cons_ne_nil _ _) walked with ⟨poses, onward⟩
    rcases onward.saved with ⟨opened, saved, many⟩
    have size : opened.length = depth := by omega
    refine ⟨between, before, ?_⟩
    rw [saved, List.getElem?_append_right (Nat.le_of_eq size), size, Nat.sub_self]
    rfl

/-- The pose at the bottom of the saved ones is that in which walks start.  Each of the others was
the present one at a bracket of the word that begins a group which is still open. -/
theorem saved_cases (walked : followAll word 0 (start jitter) = .ok () turtle)
    (there : turtle.saved[depth]? = some pose) :
    ((depth : Int) = level word ∧ pose = .origin) ∨
      ∃ begun rest between, word = begun ++ '[' :: rest ∧ Matched rest ∧ level rest = depth ∧
        followAll begun 0 (start jitter) = .ok () between ∧ between.pose = pose := by
  have size := (followAll_saved_length walked).1
  rcases List.getElem?_eq_some_iff.mp there with ⟨within, -⟩
  by_cases deep : (depth : Int) < level word
  · rcases open_bracket deep with ⟨begun, rest, rfl, matched, height⟩
    rcases saved_of_opening walked matched height with ⟨between, before, here⟩
    rw [there] at here
    exact Or.inr ⟨begun, rest, between, rfl, matched, height, before, (Option.some.inj here).symm⟩
  · have rooted := followAll_keeps_rooted word 0 _ (start_rooted (C := C) jitter)
    rw [Act.reached_of_ok walked] at rooted
    unfold Rooted at rooted
    have last : turtle.saved.length - 1 = depth := by omega
    rw [List.getLast?_eq_getElem?, last, there] at rooted
    exact Or.inl ⟨by omega, Option.some.inj rooted⟩

/-- The points of a segment are the poses before and after its symbol. -/
theorem points_of_segment
    (walked : followAll (begun ++ 'F' :: rest) 0 (start jitter) = .ok () turtle) :
    ∃ before after, followAll begun 0 (start jitter) = .ok () before ∧
      Followed before 'F' after ∧ followAll (begun ++ ['F']) 0 (start jitter) = .ok () after ∧
      turtle.points[2 * begun.count 'F']? = some before.pose ∧
      turtle.points[2 * begun.count 'F' + 1]? = some after.pose := by
  rcases followAll_append_ok walked with ⟨before, first, walked⟩
  rcases followAll_cons_ok walked with ⟨after, followed, walked⟩
  rcases followAll_behind walked with ⟨more, onward, -⟩
  have second : followAll (begun ++ ['F']) 0 (start jitter) = .ok () after := by
    rw [followAll_append, Act.bind_of_ok first, followAll_cons_of_followed followed]
    rfl
  cases followed with
  | skipped other => exact absurd rfl (other .forward)
  | @stepped sway left pose drawn advanced =>
    have size := (followAll_trailing first).size
    have points : turtle.points = before.points ++ (before.pose :: pose :: more).toArray := by
      rw [onward]
      exact Array.ext' (by simp [reach, record])
    refine ⟨before, _, first, .stepped drawn advanced, second, ?_, ?_⟩
    · rw [points, ← size]
      simp
    · rw [points, ← size]
      simp [reach, record]

/-- What is known of every pose that a turtle holds, each with the word at the end of which it was
the present one. -/
structure Holds (known : List Char → Pose C W → Prop) (done : List Char) (turtle : Turtle C W J) :
    Prop where
  pose : known done turtle.pose
  saved : ∀ (depth : Nat) (pose : Pose C W), turtle.saved[depth]? = some pose →
    ∃ begun, (begun = [] ∧ (depth : Int) = level done ∨
        ∃ inner, done = begun ++ '[' :: inner ∧ Matched inner ∧ level inner = depth) ∧
      known begun pose
  size : turtle.points.size = 2 * done.count 'F'
  points : ∀ begun inner, done = begun ++ 'F' :: inner →
    ∃ before after, turtle.points[2 * begun.count 'F']? = some before ∧
      turtle.points[2 * begun.count 'F' + 1]? = some after ∧
      known begun before ∧ known (begun ++ ['F']) after

/-- What is always known of present poses is known of all poses. -/
theorem followAll_holds {known : List Char → Pose C W → Prop} {done : List Char}
    (always : ∀ {begun : List Char} {between : Turtle C W J}, begun <+: done →
      followAll begun 0 (start jitter) = .ok () between → known begun between.pose)
    (walked : followAll done 0 (start jitter) = .ok () turtle) : Holds known done turtle where
  pose := always (List.prefix_refl done) walked
  saved depth pose there := by
    rcases saved_cases walked there with
        ⟨bottom, rfl⟩ | ⟨begun, inner, between, same, matched, height, before, rfl⟩
    · exact ⟨[], Or.inl ⟨rfl, bottom⟩, always List.nil_prefix rfl⟩
    · exact ⟨begun, Or.inr ⟨inner, same, matched, height⟩, always ⟨_, same.symm⟩ before⟩
  size := (followAll_trailing walked).size
  points begun inner same := by
    subst same
    rcases points_of_segment walked with ⟨before, after, first, -, second, here, there⟩
    exact ⟨before.pose, after.pose, here, there, always (List.prefix_append begun _) first,
      always ⟨inner, by simp⟩ second⟩

end Turtle
end Arbor
