import Arbor.Proofs.Walk.Brackets
import Arbor.Proofs.Walk.Spatial

/-!
# How a turtle follows a word

`Followed` says all that following one symbol can make of a turtle.  A property of turtles that
every single symbol keeps holds at the end of every word that is followed without a failure
(`followAll_induction`), and a word that is not followed to its end is followed up to the symbol
that fails (`followAll_stopped`).

From this it follows how a walk ends.  The poses saved are one for each group that is open, and the
one at the bottom, so a walk for which there are enough sways fails only at a closing bracket that
ends no group, and then at the first such bracket (`followAll_outcome`, `interpret_outcome`).
-/

namespace Arbor

open Brackets Number Space

namespace Command

/-- The symbol that stands for a command. -/
def symbol : Command → Char
  | forward => 'F'
  | turnUp => '+'
  | turnDown => '-'
  | save => '['
  | restore => ']'

theorem ofSymbol?_symbol (command : Command) : ofSymbol? command.symbol = some command := by
  cases command <;> rfl

theorem symbol_of_ofSymbol? {symbol : Char} {command : Command}
    (stands : ofSymbol? symbol = some command) : symbol = command.symbol := by
  unfold ofSymbol? at stands
  split at stands <;> cases stands <;> rfl

theorem ne_symbol_of_ofSymbol? {symbol : Char} (stands : ofSymbol? symbol = none)
    (command : Command) : symbol ≠ command.symbol := by
  intro same
  rw [same, ofSymbol?_symbol] at stands
  cases stands

end Command

variable {C W J : Type}

/-- A source gives at least so many sways, one after the other. -/
def AngleSource.Supplies [AngleSource J W] : Nat → J → Prop
  | 0, _ => True
  | count + 1, jitter =>
    ∃ sway left, AngleSource.draw jitter = .ok sway left ∧ AngleSource.Supplies count left

theorem AngleSource.Supplies.after [AngleSource J W] {count : Nat} {jitter left : J} {sway : W}
    (supplies : AngleSource.Supplies count jitter)
    (drawn : AngleSource.draw jitter = .ok sway left) : AngleSource.Supplies (count - 1) left := by
  cases count with
  | zero => trivial
  | succ count =>
    rcases supplies with ⟨sway, left, first, later⟩
    rw [drawn] at first
    cases first
    exact later

/-- A constant sway that is a number can be drawn for ever. -/
theorem Jitter.constant_supplies {sway : Value} {angle : Float}
    (number : Jitter.summand sway = .ok angle) (count : Nat) :
    AngleSource.Supplies count (Jitter.constant sway) := by
  induction count with
  | zero => trivial
  | succ count inductionHypothesis =>
    refine ⟨angle, .constant sway, ?_, inductionHypothesis⟩
    change Act.lift (Jitter.summand sway) (Jitter.constant sway) = _
    rw [number]
    rfl

namespace Turtle

variable [Wide W] [Component C W] [AngleSource J W]
variable {turtle reached : Turtle C W J} {symbol : Char} {word : List Char} {index : Nat}
  {failure : Failure}

/-- What following a symbol makes of a turtle if nothing goes wrong. -/
inductive Followed (turtle : Turtle C W J) : Char → Turtle C W J → Prop
  | stepped {sway : W} {left : J} {pose : Pose C W}
    (drawn : AngleSource.draw turtle.jitter = .ok sway left)
    (advanced : turtle.pose.advance sway = .ok pose) :
    Followed turtle 'F' (reach pose { turtle.record with jitter := left })
  | turnedUp : Followed turtle '+' { turtle with pose := turtle.pose.turnUp }
  | turnedDown : Followed turtle '-' { turtle with pose := turtle.pose.turnDown }
  | saved : Followed turtle '[' turtle.save
  | restored {pose below : Pose C W} {rest : List (Pose C W)}
    (above : turtle.saved = pose :: below :: rest) :
    Followed turtle ']' { turtle with pose := pose, saved := below :: rest }
  | skipped {symbol : Char} (other : ∀ command : Command, symbol ≠ command.symbol) :
    Followed turtle symbol turtle

/-- A step forward fails for want of a sway or of room, or has been done. -/
theorem forward_cases (turtle : Turtle C W J) :
    (∃ failure reached, forward turtle = .error failure reached) ∨
      ∃ sway left pose, AngleSource.draw turtle.jitter = .ok sway left ∧
        turtle.pose.advance sway = .ok pose ∧
        forward turtle = .ok () (reach pose { turtle.record with jitter := left }) := by
  cases drawn : AngleSource.draw (W := W) turtle.jitter with
  | error failure left =>
    refine Or.inl ⟨failure, { turtle.record with jitter := left }, ?_⟩
    simp only [forward, drawn]
  | ok sway left =>
    cases advanced : turtle.pose.advance sway with
    | error failure =>
      refine Or.inl ⟨failure, { turtle.record with jitter := left }, ?_⟩
      simp only [forward, drawn, advanced]
    | ok pose =>
      refine Or.inr ⟨sway, left, pose, rfl, advanced, ?_⟩
      simp only [forward, drawn, advanced]

omit [Wide W] [Component C W] [AngleSource J W] in
theorem restore_of_bottom (few : turtle.saved.length ≤ 1) :
    restore symbol index turtle = .error ⟨.unmatched symbol.toString index, [], []⟩ turtle := by
  unfold restore
  match saved : turtle.saved with
  | [] => rfl
  | [_] => rfl
  | _ :: _ :: _ => simp [saved] at few

omit [Wide W] [Component C W] [AngleSource J W] in
theorem restore_of_cons {pose below : Pose C W} {rest : List (Pose C W)}
    (above : turtle.saved = pose :: below :: rest) :
    restore symbol index turtle = .ok () { turtle with pose := pose, saved := below :: rest } := by
  unfold restore
  rw [above]

/-- A symbol is followed, or it is a step forward that cannot be done, or a closing bracket with
only the bottom pose left. -/
theorem follow_cases (symbol : Char) (index : Nat) (turtle : Turtle C W J) :
    (∃ reached, follow symbol index turtle = .ok () reached ∧ Followed turtle symbol reached) ∨
      (symbol = 'F' ∧ ∃ failure reached, follow symbol index turtle = .error failure reached ∧
        forward turtle = .error failure reached) ∨
      symbol = ']' ∧ turtle.saved.length ≤ 1 ∧
        follow symbol index turtle = .error ⟨.unmatched "]" index, [], []⟩ turtle := by
  unfold follow
  cases stands : Command.ofSymbol? symbol with
  | none => exact Or.inl ⟨turtle, rfl, .skipped (Command.ne_symbol_of_ofSymbol? stands)⟩
  | some command =>
    have same := Command.symbol_of_ofSymbol? stands
    subst same
    cases command with
    | forward =>
      rcases forward_cases turtle with
          ⟨failure, reached, run⟩ | ⟨sway, left, pose, drawn, advanced, run⟩
      · exact Or.inr (Or.inl ⟨rfl, failure, reached, run, run⟩)
      · exact Or.inl ⟨_, run, .stepped drawn advanced⟩
    | turnUp => exact Or.inl ⟨_, rfl, .turnedUp⟩
    | turnDown => exact Or.inl ⟨_, rfl, .turnedDown⟩
    | save => exact Or.inl ⟨_, rfl, .saved⟩
    | restore =>
      match above : turtle.saved with
      | [] => exact Or.inr (Or.inr ⟨rfl, by simp, restore_of_bottom (by simp [above])⟩)
      | [_] => exact Or.inr (Or.inr ⟨rfl, by simp, restore_of_bottom (by simp [above])⟩)
      | pose :: below :: rest => exact Or.inl ⟨_, restore_of_cons above, .restored above⟩

theorem followed_of_follow (done : follow symbol index turtle = .ok () reached) :
    Followed turtle symbol reached := by
  rcases follow_cases symbol index turtle with
      ⟨other, run, followed⟩ | ⟨-, failure, other, run, -⟩ | ⟨-, -, run⟩
  · rw [done] at run
    cases run
    exact followed
  · rw [done] at run
    cases run
  · rw [done] at run
    cases run

/-! ## Words -/

theorem followAll_append (first second : List Char) (index : Nat) :
    (followAll (first ++ second) index : Act (Turtle C W J) Unit) =
      followAll first index >>= fun _ => followAll second (index + first.length) := by
  induction first generalizing index with
  | nil => rfl
  | cons symbol first inductionHypothesis =>
    have place : index + 1 + first.length = index + (first.length + 1) := by omega
    simp only [List.cons_append, followAll, inductionHypothesis, bind_assoc, List.length_cons,
      place]

/-- A word that is followed to its end is followed part by part. -/
theorem followAll_append_ok {first second : List Char}
    (walked : followAll (first ++ second) index turtle = .ok () reached) :
    ∃ between, followAll first index turtle = .ok () between ∧
      followAll second (index + first.length) between = .ok () reached := by
  rw [followAll_append] at walked
  cases run : followAll first index turtle with
  | ok value between =>
    rw [Act.bind_of_ok run] at walked
    exact ⟨between, rfl, walked⟩
  | error failure between =>
    rw [Act.bind_of_error run] at walked
    cases walked

theorem followAll_cons_ok (walked : followAll (symbol :: word) index turtle = .ok () reached) :
    ∃ between, Followed turtle symbol between ∧
      followAll word (index + 1) between = .ok () reached := by
  cases run : follow symbol index turtle with
  | ok value between =>
    rw [followAll, Act.bind_of_ok run] at walked
    exact ⟨between, followed_of_follow run, walked⟩
  | error failure between =>
    rw [followAll, Act.bind_of_error run] at walked
    cases walked

/-- What holds at the start of a word and is kept by every symbol holds at its end.  The property
may speak of the symbols that have been followed. -/
theorem followAll_induction {motive : List Char → Turtle C W J → Prop}
    (begun : motive [] turtle)
    (step : ∀ {done : List Char} {symbol : Char} {before after : Turtle C W J},
      motive done before → Followed before symbol after → motive (done ++ [symbol]) after)
    (walked : followAll word index turtle = .ok () reached) : motive word reached := by
  suffices onward : ∀ {done : List Char} {index : Nat} {before : Turtle C W J},
      motive done before → followAll word index before = .ok () reached →
        motive (done ++ word) reached from onward begun walked
  clear begun walked
  induction word with
  | nil =>
    intro done index before holds finished
    cases finished
    rwa [List.append_nil]
  | cons symbol word inductionHypothesis =>
    intro done index before holds walked
    rcases followAll_cons_ok walked with ⟨between, followed, later⟩
    have further := inductionHypothesis (step holds followed) later
    rwa [List.append_assoc] at further

/-- A word that is not followed to its end is followed up to a symbol that fails. -/
theorem followAll_stopped (stopped : followAll word index turtle = .error failure reached) :
    ∃ done symbol rest between, word = done ++ symbol :: rest ∧
      followAll done index turtle = .ok () between ∧
      follow symbol (index + done.length) between = .error failure reached := by
  induction word generalizing index turtle with
  | nil => cases stopped
  | cons symbol word inductionHypothesis =>
    cases run : follow symbol index turtle with
    | error other between =>
      rw [followAll, Act.bind_of_error run] at stopped
      exact ⟨[], symbol, word, turtle, rfl, rfl, run.trans stopped⟩
    | ok value between =>
      rw [followAll, Act.bind_of_ok run] at stopped
      rcases inductionHypothesis stopped with ⟨done, last, rest, later, rfl, walked, failed⟩
      refine ⟨symbol :: done, last, rest, later, rfl, ?_, ?_⟩
      · rw [followAll, Act.bind_of_ok run]
        exact walked
      · rw [List.length_cons, ← Nat.add_assoc, Nat.add_right_comm]
        exact failed

/-! ## Open groups -/

/-- One pose is saved for every open group, on top of those that were saved before, as long as the
bottom one is never taken. -/
theorem saved_length_of_followed {before after : Turtle C W J} {done : List Char}
    (known : (before.saved.length : Int) = level done + 1 ∧ Matched done)
    (followed : Followed before symbol after) :
    (after.saved.length : Int) = level (done ++ [symbol]) + 1 ∧ Matched (done ++ [symbol]) := by
  rcases known with ⟨size, matched⟩
  have least := matched.level_nonneg
  have plain : ∀ {symbol : Char}, symbol ≠ '[' → symbol ≠ ']' →
      (before.saved.length : Int) = level (done ++ [symbol]) + 1 ∧ Matched (done ++ [symbol]) := by
    intro symbol notOpening notClosing
    have balanced := balanced_plain notOpening notClosing
    rw [level_append, balanced.level_eq, balanced.append_matched]
    exact ⟨by omega, matched⟩
  cases followed with
  | stepped => exact plain (by decide) (by decide)
  | turnedUp => exact plain (by decide) (by decide)
  | turnedDown => exact plain (by decide) (by decide)
  | skipped other => exact plain (other .save) (other .restore)
  | saved =>
    rw [matched_concat, level_append, level_opening]
    exact ⟨by simp only [save, List.length_cons]; omega, matched, by omega⟩
  | restored above =>
    rw [above] at size
    simp only [List.length_cons] at size
    rw [matched_concat, level_append, level_closing]
    exact ⟨by simp only [List.length_cons]; omega, matched, by omega⟩

theorem followAll_saved_length {jitter : J}
    (walked : followAll word index (start jitter) = .ok () reached) :
    (reached.saved.length : Int) = level word + 1 ∧ Matched word :=
  followAll_induction (motive := fun done turtle =>
      (turtle.saved.length : Int) = level done + 1 ∧ Matched done)
    ⟨rfl, matched_nil⟩ saved_length_of_followed walked

/-! ## Sways -/

/-- The sways that are left are enough for the segments that are left. -/
theorem followAll_supplies {count : Nat} (enough : AngleSource.Supplies count turtle.jitter)
    (walked : followAll word index turtle = .ok () reached) :
    AngleSource.Supplies (count - word.count 'F') reached.jitter := by
  refine followAll_induction (motive := fun done turtle =>
    AngleSource.Supplies (count - done.count 'F') turtle.jitter) enough ?_ walked
  intro done symbol before after supplies followed
  have plain : ∀ {symbol : Char}, symbol ≠ 'F' →
      AngleSource.Supplies (count - (done ++ [symbol]).count 'F') before.jitter := by
    intro symbol other
    simpa [other] using supplies
  cases followed with
  | @stepped sway left pose drawn advanced =>
    change AngleSource.Supplies (count - (done ++ ['F']).count 'F') left
    simpa [Nat.sub_sub] using supplies.after drawn
  | turnedUp => exact plain (by decide)
  | turnedDown => exact plain (by decide)
  | saved => exact plain (by decide)
  | restored => exact plain (by decide)
  | skipped other => exact plain (other .forward)

/-- With a sway at hand and in space, a step forward can be done. -/
theorem forward_ne_error {count : Nat} (spatial : turtle.Spatial)
    (supplies : AngleSource.Supplies (count + 1) turtle.jitter) :
    forward turtle ≠ .error failure reached := by
  intro failed
  rcases supplies with ⟨sway, left, drawn, -⟩
  rcases forward_eq spatial with
      ⟨other, jitter, lost, -⟩ | ⟨other, jitter, pose, -, -, -, run⟩
  · rw [drawn] at lost
    cases lost
  · rw [run] at failed
    cases failed

/-- With enough sways a word is followed to its end if it is matched, and otherwise up to the first
closing bracket that ends no group, which leaves the turtle as the word before it does. -/
theorem followAll_outcome {jitter : J} (enough : AngleSource.Supplies (word.count 'F') jitter) :
    (Matched word ∧ ∃ turtle : Turtle C W J, followAll word 0 (start jitter) = .ok () turtle) ∨
      ∃ (closed rest : List Char) (turtle : Turtle C W J), word = closed ++ ']' :: rest ∧
        Balanced closed ∧ followAll closed 0 (start jitter) = .ok () turtle ∧
        followAll word 0 (start jitter) =
          .error ⟨.unmatched "]" closed.length, [], []⟩ turtle := by
  cases run : followAll word 0 (start jitter : Turtle C W J) with
  | ok value turtle => exact Or.inl ⟨(followAll_saved_length run).2, turtle, rfl⟩
  | error failure reached =>
    right
    rcases followAll_stopped run with ⟨done, symbol, rest, between, rfl, walked, failed⟩
    rcases followAll_saved_length walked with ⟨size, matched⟩
    have supplies := followAll_supplies enough walked
    have kept := followAll_keeps_spatial done 0 _ (start_spatial (C := C) jitter)
    rw [Act.reached_of_ok walked] at kept
    rcases follow_cases symbol (0 + done.length) between with
        ⟨other, followed, -⟩ | ⟨rfl, other, later, stuck, lost⟩ | ⟨rfl, few, stray⟩
    · rw [failed] at followed
      cases followed
    · have left : (done ++ 'F' :: rest).count 'F' - done.count 'F' = rest.count 'F' + 1 := by
        simp
      rw [left] at supplies
      exact absurd lost (forward_ne_error kept supplies)
    · rw [failed, Nat.zero_add] at stray
      cases stray
      have least := matched.level_nonneg
      exact ⟨done, rest, _, rfl, balanced_of_level matched (by omega), walked, rfl⟩

end Turtle

variable [Wide W] [Component C W] [AngleSource J W] {word : List Char}

open Turtle

theorem interpret_eq_ok_iff {jitter left : J} {turtle : Turtle C W J} :
    interpret word jitter = .ok turtle left ↔
      followAll word 0 (start jitter) = .ok () turtle ∧ turtle.jitter = left := by
  have drawn : Turtle.draw word (start jitter : Turtle C W J) =
    followAll word 0 (start jitter) := rfl
  unfold interpret
  rw [drawn]
  cases followAll word 0 (start jitter : Turtle C W J) with
  | ok value reached =>
    constructor
    · intro same
      cases same
      exact ⟨rfl, rfl⟩
    · rintro ⟨same, rfl⟩
      cases same
      rfl
  | error failure reached =>
    constructor
    · intro same
      cases same
    · rintro ⟨same, -⟩
      cases same

theorem interpret_of_error {jitter : J} {turtle : Turtle C W J} {failure : Failure}
    (stopped : followAll word 0 (start jitter) = .error failure turtle) :
    (interpret word : Act J (Turtle C W J)) jitter = .error failure turtle.jitter := by
  have drawn : Turtle.draw word (start jitter : Turtle C W J) =
    followAll word 0 (start jitter) := rfl
  unfold interpret
  rw [drawn, stopped]

/-- A walk fails for what a draw fails for, or at a closing bracket that ends no group. -/
theorem interpret_raises {property : Failure → Prop}
    (drawing : Act.Raises property (AngleSource.draw : Act J W))
    (stray : ∀ index : Nat, property ⟨.unmatched "]" index, [], []⟩) (word : List Char) :
    Act.Raises property (interpret word : Act J (Turtle C W J)) := by
  intro jitter failure left failed
  cases run : followAll word 0 (start jitter : Turtle C W J) with
  | ok value reached =>
    have walked : interpret word jitter = .ok reached reached.jitter :=
      interpret_eq_ok_iff.mpr ⟨run, rfl⟩
    cases walked.symm.trans failed
  | error other reached =>
    cases (interpret_of_error run).symm.trans failed
    rcases followAll_stopped run with ⟨done, symbol, rest, between, rfl, walked, stopped⟩
    have spatial := followAll_keeps_spatial done 0 _ (start_spatial (C := C) jitter)
    rw [Act.reached_of_ok walked] at spatial
    rcases follow_cases symbol (0 + done.length) between with
        ⟨other, followed, -⟩ | ⟨-, other, later, stuck, lost⟩ | ⟨-, -, unmatched⟩
    · cases followed.symm.trans stopped
    · cases stuck.symm.trans stopped
      rcases forward_eq spatial with
          ⟨refusal, jitter, drawn, unswayed⟩ | ⟨sway, jitter, pose, -, -, -, stepped⟩
      · cases unswayed.symm.trans lost
        exact drawing _ _ _ drawn
      · cases stepped.symm.trans lost
    · cases unmatched.symm.trans stopped
      exact stray _

/-- How a walk ends for which there are enough sways: a matched word is walked to its end, and any
other word up to the first closing bracket that ends no group. -/
theorem interpret_outcome {jitter : J} (enough : AngleSource.Supplies (word.count 'F') jitter) :
    (Matched word ∧ ∃ (turtle : Turtle C W J) (left : J),
        interpret word jitter = .ok turtle left) ∨
      ∃ closed rest left, word = closed ++ ']' :: rest ∧ Balanced closed ∧
        (interpret word : Act J (Turtle C W J)) jitter =
          .error ⟨.unmatched "]" closed.length, [], []⟩ left := by
  rcases followAll_outcome (C := C) enough with
      ⟨matched, turtle, walked⟩ | ⟨closed, rest, turtle, same, balanced, -, stopped⟩
  · exact Or.inl ⟨matched, turtle, turtle.jitter, interpret_eq_ok_iff.mpr ⟨walked, rfl⟩⟩
  · exact Or.inr ⟨closed, rest, turtle.jitter, same, balanced, interpret_of_error stopped⟩

theorem interpret_of_matched (matched : Matched word) {jitter : J}
    (enough : AngleSource.Supplies (word.count 'F') jitter) :
    ∃ (turtle : Turtle C W J) (left : J), interpret word jitter = .ok turtle left := by
  rcases interpret_outcome (C := C) enough with
      ⟨-, walked⟩ | ⟨closed, rest, left, rfl, balanced, -⟩
  · exact walked
  · exact absurd matched (balanced.not_matched rest)

theorem interpret_of_stray {closed : List Char} (balanced : Balanced closed) (rest : List Char)
    {jitter : J} (enough : AngleSource.Supplies ((closed ++ ']' :: rest).count 'F') jitter) :
    ∃ left : J, (interpret (closed ++ ']' :: rest) : Act J (Turtle C W J)) jitter =
      .error ⟨.unmatched "]" closed.length, [], []⟩ left := by
  rcases interpret_outcome (C := C) enough with
      ⟨matched, -⟩ | ⟨other, others, left, same, alike, failed⟩
  · exact absurd matched (balanced.not_matched rest)
  · have first := stray_unique balanced alike same
    subst first
    exact ⟨left, failed⟩

end Arbor
