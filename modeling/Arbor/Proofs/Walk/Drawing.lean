import Arbor.Proofs.Walk.Following

/-!
# The sways that a walk draws

A walk draws one sway for each segment that it comes to, and nothing else touches their source.  So
a complete walk draws as many sways as its word has segments, and a walk that fails at a stray
bracket as many as there are segments before the bracket.  Whatever drawing keeps of a source, every
walk keeps, even one that fails.
-/

namespace Arbor

open Brackets Number Space

variable {C W J : Type}

namespace AngleSource

variable [AngleSource J W]

/-- Drawing so many sways, one after the other, leads from one state of a source to another. -/
def Drawn : Nat → J → J → Prop
  | 0, jitter, left => jitter = left
  | count + 1, jitter, left =>
    ∃ sway between, AngleSource.draw jitter = .ok sway between ∧ Drawn count between left

theorem Drawn.concat {count : Nat} {jitter between left : J} {sway : W}
    (drawn : Drawn count jitter between) (last : AngleSource.draw between = .ok sway left) :
    Drawn (count + 1) jitter left := by
  induction count generalizing jitter with
  | zero =>
    cases drawn
    exact ⟨sway, left, last, rfl⟩
  | succ count inductionHypothesis =>
    rcases drawn with ⟨first, next, here, later⟩
    exact ⟨first, next, here, inductionHypothesis later⟩

/-- A source that drawing leaves as it is. -/
def Steady (jitter : J) : Prop := (AngleSource.draw : Act J W).reached jitter = jitter

end AngleSource

namespace Jitter

/-- A constant source never changes. -/
theorem constant_steady (sway : Value) : AngleSource.Steady (constant sway) := by
  change (Act.lift (summand sway)).reached (constant sway) = constant sway
  cases summand sway <;> rfl

end Jitter

variable [Wide W] [Component C W] [AngleSource J W]

namespace Turtle

variable {turtle reached : Turtle C W J} {word : List Char} {index : Nat}

theorem followAll_drawn {jitter : J}
    (walked : followAll word index (start jitter) = .ok () reached) :
    AngleSource.Drawn (word.count 'F') jitter reached.jitter := by
  have begun : AngleSource.Drawn 0 jitter (start jitter : Turtle C W J).jitter := rfl
  refine followAll_induction (motive := fun done turtle =>
    AngleSource.Drawn (done.count 'F') jitter turtle.jitter) begun ?_ walked
  intro done symbol before after drawn followed
  have plain : ∀ {symbol : Char}, symbol ≠ 'F' →
      AngleSource.Drawn ((done ++ [symbol]).count 'F') jitter before.jitter := by
    intro symbol other
    simpa [other] using drawn
  cases followed with
  | @stepped sway left pose sways advanced =>
    change AngleSource.Drawn ((done ++ ['F']).count 'F') jitter left
    simpa using drawn.concat sways
  | turnedUp => exact plain (by decide)
  | turnedDown => exact plain (by decide)
  | saved => exact plain (by decide)
  | restored => exact plain (by decide)
  | skipped other => exact plain (other .forward)

omit [Wide W] [Component C W] [AngleSource J W] in
theorem restore_keeps_jitter {property : J → Prop} (symbol : Char) (index : Nat) :
    Act.Keeps (fun turtle : Turtle C W J => property turtle.jitter) (restore symbol index) := by
  intro turtle holds
  unfold Act.reached restore
  match turtle.saved with
  | [] => exact holds
  | [_] => exact holds
  | _ :: _ :: _ => exact holds

section

variable {property : J → Prop} (kept : Act.Keeps property (AngleSource.draw : Act J W))
include kept

theorem forward_keeps_jitter :
    Act.Keeps (fun turtle : Turtle C W J => property turtle.jitter) forward := by
  intro turtle holds
  have after := kept turtle.jitter holds
  unfold Act.reached at after ⊢
  cases drawn : AngleSource.draw (W := W) turtle.jitter with
  | error failure left =>
    rw [drawn] at after
    simp only [forward, drawn]
    exact after
  | ok sway left =>
    rw [drawn] at after
    cases advanced : turtle.pose.advance sway with
    | error failure =>
      simp only [forward, drawn, advanced]
      exact after
    | ok pose =>
      simp only [forward, drawn, advanced]
      exact after

theorem follow_keeps_jitter (symbol : Char) (index : Nat) :
    Act.Keeps (fun turtle : Turtle C W J => property turtle.jitter) (follow symbol index) := by
  unfold follow
  cases Command.ofSymbol? symbol with
  | none => exact Act.Keeps.pure ()
  | some command =>
    cases command with
    | forward => exact forward_keeps_jitter kept
    | turnUp => exact Act.Keeps.modify fun _ holds => holds
    | turnDown => exact Act.Keeps.modify fun _ holds => holds
    | save => exact Act.Keeps.modify fun _ holds => holds
    | restore => exact restore_keeps_jitter symbol index

theorem followAll_keeps_jitter (word : List Char) (index : Nat) :
    Act.Keeps (fun turtle : Turtle C W J => property turtle.jitter) (followAll word index) := by
  induction word generalizing index with
  | nil => exact Act.Keeps.pure ()
  | cons symbol word inductionHypothesis =>
    exact Act.Keeps.bind (follow_keeps_jitter kept symbol index)
      fun _ => inductionHypothesis (index + 1)

end

end Turtle

open Turtle

/-- A complete walk draws one sway for each segment of its word. -/
theorem interpret_drawn {word : List Char} {jitter left : J} {turtle : Turtle C W J}
    (walked : interpret word jitter = .ok turtle left) :
    AngleSource.Drawn (word.count 'F') jitter left := by
  rcases interpret_eq_ok_iff.mp walked with ⟨followed, rfl⟩
  exact followAll_drawn followed

/-- A walk up to a stray bracket draws one sway for each segment before it. -/
theorem interpret_drawn_of_stray {closed : List Char} (balanced : Balanced closed)
    (rest : List Char) {jitter : J} (enough : AngleSource.Supplies (closed.count 'F') jitter) :
    ∃ left, (interpret (closed ++ ']' :: rest) : Act J (Turtle C W J)) jitter =
        .error ⟨.unmatched "]" closed.length, [], []⟩ left ∧
      AngleSource.Drawn (closed.count 'F') jitter left := by
  rcases interpret_of_matched (C := C) balanced.matched enough with ⟨turtle, left, walked⟩
  rcases interpret_eq_ok_iff.mp walked with ⟨followed, rfl⟩
  have bottom : turtle.saved.length ≤ 1 := by
    have size := (followAll_saved_length followed).1
    rw [balanced.level_eq] at size
    omega
  have stray : follow ']' (0 + closed.length) turtle =
      .error ⟨.unmatched "]" closed.length, [], []⟩ turtle := by
    rw [Nat.zero_add]
    exact restore_of_bottom bottom
  have stopped : followAll (closed ++ ']' :: rest) 0 (start jitter) =
      .error ⟨.unmatched "]" closed.length, [], []⟩ turtle := by
    rw [followAll_append]
    exact (Act.bind_of_ok followed).trans (Act.bind_of_error stray)
  exact ⟨turtle.jitter, interpret_of_error stopped, followAll_drawn followed⟩

/-- A walk keeps what drawing keeps, whether or not it comes to its end. -/
theorem interpret_keeps {property : J → Prop}
    (kept : Act.Keeps property (AngleSource.draw : Act J W)) (word : List Char) :
    Act.Keeps property (interpret word : Act J (Turtle C W J)) := by
  intro jitter holds
  have after := followAll_keeps_jitter (C := C) kept word 0 (start jitter) holds
  unfold Act.reached at after ⊢
  have drawn : Turtle.draw word (start jitter : Turtle C W J) =
    followAll word 0 (start jitter) := rfl
  unfold interpret
  rw [drawn]
  cases run : followAll word 0 (start jitter : Turtle C W J) with
  | ok value turtle =>
    rw [run] at after
    exact after
  | error failure turtle =>
    rw [run] at after
    exact after

/-- A walk leaves a steady source as it is. -/
theorem interpret_steady {jitter : J} (steady : AngleSource.Steady jitter) (word : List Char) :
    (interpret word : Act J (Turtle C W J)).reached jitter = jitter := by
  have kept : Act.Keeps (· = jitter) (AngleSource.draw : Act J W) := fun _ same => same ▸ steady
  exact interpret_keeps kept word jitter rfl

end Arbor
