import Arbor.Proofs.Jitter.Sways
import Arbor.Proofs.Walk.Descent

/-!
# Headings add up

A turn adds thirty degrees to a heading, and a sway of whole degrees adds these.  Either sum is
taken in doubles and stored as a single.  Whole numbers of degrees are singles as long as they stay
below the precision of singles, so nothing is rounded on walks that are not too long: headings are
the plain sums over the open path (`followAll_heading`).  Two opposite turns next to each other
therefore leave everything as it is.
-/

namespace Arbor

open Brackets Number Space

/-! ## Sums of degrees -/

/-- The degrees of the turns on a path. -/
def pitchOf (path : List Char) : Int := 30 * (path.count '+' - path.count '-')

/-- The degrees of the sways of some segments. -/
def yawOf (sways : List Int) (segments : List Nat) : Int :=
  (segments.map fun segment => sways.getD segment 0).sum

/-- The number of symbols up to which headings are sums. -/
def longest : Nat := 500000

variable {path word : List Char} {sways : List Int} {segments : List Nat} {symbol : Char}
  {pitch yaw : Int}

theorem pitchOf_append (path more : List Char) :
    pitchOf (path ++ more) = pitchOf path + pitchOf more := by
  unfold pitchOf
  rw [List.count_append, List.count_append]
  omega

/-- Other symbols do not turn. -/
theorem pitchOf_plain (notUp : symbol ≠ '+') (notDown : symbol ≠ '-') : pitchOf [symbol] = 0 := by
  have up : [symbol].count '+' = 0 := List.count_eq_zero.mpr (by simpa using notUp.symm)
  have down : [symbol].count '-' = 0 := List.count_eq_zero.mpr (by simpa using notDown.symm)
  unfold pitchOf
  rw [up, down]
  rfl

theorem yawOf_concat (sways : List Int) (segments : List Nat) (segment : Nat) :
    yawOf sways (segments ++ [segment]) = yawOf sways segments + sways.getD segment 0 := by
  simp [yawOf]

theorem natAbs_pitchOf_le (path : List Char) : (pitchOf path).natAbs ≤ 30 * path.length := by
  have up := List.count_le_length (a := '+') (l := path)
  have down := List.count_le_length (a := '-') (l := path)
  unfold pitchOf
  omega

theorem Jitter.Mild.natAbs_le (mild : Jitter.Mild sways) (segment : Nat) :
    (sways.getD segment 0).natAbs ≤ 30 := by
  rw [List.getD_eq_getElem?_getD]
  cases there : sways[segment]? with
  | none => exact Nat.zero_le 30
  | some sway =>
    have bounds := mild sway (List.mem_of_getElem? there)
    have least : Jitter.leastSway = -30 := rfl
    have greatest : Jitter.greatestSway = 30 := rfl
    change sway.natAbs ≤ 30
    omega

theorem natAbs_yawOf_le (mild : Jitter.Mild sways) (segments : List Nat) :
    (yawOf sways segments).natAbs ≤ 30 * segments.length := by
  induction segments using List.reverseRecOn with
  | nil => exact Nat.zero_le _
  | append_singleton segments segment inductionHypothesis =>
    have last := mild.natAbs_le segment
    rw [yawOf_concat, List.length_append, List.length_singleton]
    omega

/-- The degrees along the open path of a word that is not too long are far from being rounded. -/
theorem natAbs_pitchOf_lt (short : word.length ≤ longest) :
    (pitchOf (openPath word)).natAbs + 30 < 2 ^ 24 := by
  have sum := natAbs_pitchOf_le (openPath word)
  have path := length_openPath_le word
  have limit : longest = 500000 := rfl
  omega

theorem natAbs_yawOf_lt (mild : Jitter.Mild sways) (short : word.length ≤ longest) :
    (yawOf sways (openSegments word)).natAbs < 2 ^ 24 := by
  have sum := natAbs_yawOf_le mild (openSegments word)
  have segments := length_openSegments_le word
  have limit : longest = 500000 := rfl
  omega

namespace Pose

/-- A heading of whole degrees, without an angle about the third axis. -/
def wholeHeading (pitch yaw : Int) : Vec Float32 :=
  .spatial (wholeSingle pitch) (wholeSingle yaw) (wholeSingle 0)

/-- The angles of a pose are exactly these numbers of degrees, and zero about the third axis. -/
structure Heads (pose : Pose Float32 Float) (pitch yaw : Int) : Prop where
  first : (readSingle pose.angle.x).amount? = some (pitch : ℚ)
  second : (readSingle pose.angle.y).amount? = some (yaw : ℚ)
  third : ∃ z, pose.angle.rest = [z] ∧ (readSingle z).amount? = some 0

variable {pose : Pose Float32 Float}

theorem heads_of_wholeHeading (heading : pose.angle = wholeHeading pitch yaw)
    (pitchSmall : pitch.natAbs < 2 ^ 24) (yawSmall : yaw.natAbs < 2 ^ 24) :
    pose.Heads pitch yaw := by
  constructor
  · rw [heading]
    exact amount_wholeSingle pitchSmall
  · rw [heading]
    exact amount_wholeSingle yawSmall
  · have none : (0 : Int).natAbs < 2 ^ 24 := by decide
    rw [heading]
    exact ⟨wholeSingle 0, rfl, amount_wholeSingle none⟩

theorem turnAngle_eq : (turnAngle : Float) = wholeDouble 30 := by decide +kernel

theorem store_zero : (Component.store (0 : Float) : Float32) = wholeSingle 0 := by decide +kernel

/-- Whole degrees are added without rounding. -/
theorem store_add {heading more : Int} (small : heading.natAbs < 2 ^ 24) (less : more.natAbs ≤ 30)
    (still : (heading + more).natAbs < 2 ^ 24) :
    (Component.store (Component.read (wholeSingle heading) + wholeDouble more) : Float32) =
      wholeSingle (heading + more) := by
  change narrow (widen (wholeSingle heading) + wholeDouble more) = _
  rw [widen_wholeSingle small, wholeDouble_add (small.trans (by decide)) (by omega)
    (still.trans (by decide)), narrow_wholeDouble still]

theorem store_sub {heading : Int} (small : heading.natAbs < 2 ^ 24)
    (still : (heading - 30).natAbs < 2 ^ 24) :
    (Component.store (Component.read (wholeSingle heading) - wholeDouble 30) : Float32) =
      wholeSingle (heading - 30) := by
  change narrow (widen (wholeSingle heading) - wholeDouble 30) = _
  rw [widen_wholeSingle small, wholeDouble_sub (by decide) (small.trans (by decide)) (by decide)
    (still.trans (by decide)), narrow_wholeDouble still]

theorem turnUp_angle (heading : pose.angle = wholeHeading pitch yaw)
    (small : pitch.natAbs + 30 < 2 ^ 24) : pose.turnUp.angle = wholeHeading (pitch + 30) yaw := by
  unfold turnUp
  rw [heading, turnAngle_eq]
  change Vec.spatial (Component.store (Component.read (wholeSingle pitch) + wholeDouble 30))
    (wholeSingle yaw) (wholeSingle 0) = _
  rw [store_add (by omega) (by decide) (by omega)]
  rfl

theorem turnDown_angle (heading : pose.angle = wholeHeading pitch yaw)
    (small : pitch.natAbs + 30 < 2 ^ 24) : pose.turnDown.angle = wholeHeading (pitch - 30) yaw := by
  unfold turnDown
  rw [heading, turnAngle_eq]
  change Vec.spatial (Component.store (Component.read (wholeSingle pitch) - wholeDouble 30))
    (wholeSingle yaw) (wholeSingle 0) = _
  rw [store_sub (by omega) (by omega)]
  rfl

/-- Opposite turns cancel each other. -/
theorem turnUp_turnDown (heading : pose.angle = wholeHeading pitch yaw)
    (small : pitch.natAbs + 60 < 2 ^ 24) : pose.turnUp.turnDown = pose := by
  have up := turnUp_angle heading (by omega)
  have down := turnDown_angle up (by omega)
  rw [Int.add_sub_cancel, ← heading] at down
  exact congrArg (fun angle => ({ pose with angle := angle } : Pose Float32 Float)) down

theorem turnDown_turnUp (heading : pose.angle = wholeHeading pitch yaw)
    (small : pitch.natAbs + 60 < 2 ^ 24) : pose.turnDown.turnUp = pose := by
  have down := turnDown_angle heading (by omega)
  have up := turnUp_angle down (by omega)
  rw [Int.sub_add_cancel, ← heading] at up
  exact congrArg (fun angle => ({ pose with angle := angle } : Pose Float32 Float)) up

/-- A step forward turns the heading by its sway. -/
theorem advance_angle {next : Pose Float32 Float} {sway : Int}
    (heading : pose.angle = wholeHeading pitch yaw) (small : yaw.natAbs < 2 ^ 24)
    (mild : sway.natAbs ≤ 30) (still : (yaw + sway).natAbs < 2 ^ 24)
    (advanced : pose.advance (wholeDouble sway) = .ok next) :
    next.angle = wholeHeading pitch (yaw + sway) := by
  rw [(angle_length_of_advance advanced).1, heading]
  change Vec.spatial (wholeSingle pitch)
    (Component.store (Component.read (wholeSingle yaw) + wholeDouble sway)) (wholeSingle 0) = _
  rw [store_add small mild still]
  rfl

end Pose

/-! ## Walks -/

namespace Turtle

variable {C W J : Type} [Wide W] [Component C W] [AngleSource J W]

/-- After a word, a source still gives the sways behind those of its segments. -/
theorem followAll_gives {sways : List W} {index : Nat} {turtle reached : Turtle C W J}
    (gives : AngleSource.Gives sways turtle.jitter)
    (walked : followAll word index turtle = .ok () reached) :
    AngleSource.Gives (sways.drop (word.count 'F')) reached.jitter := by
  refine followAll_induction (motive := fun done turtle =>
    AngleSource.Gives (sways.drop (done.count 'F')) turtle.jitter) gives ?_ walked
  intro done symbol before after given followed
  have plain : ∀ {symbol : Char}, symbol ≠ 'F' →
      AngleSource.Gives (sways.drop ((done ++ [symbol]).count 'F')) before.jitter := by
    intro symbol other
    simpa [other] using given
  cases followed with
  | @stepped sway left pose drawn advanced =>
    have more : (done ++ ['F']).count 'F' = done.count 'F' + 1 := by simp
    rw [more, ← List.drop_drop]
    cases later : sways.drop (done.count 'F') with
    | nil => trivial
    | cons first others =>
      rw [later] at given
      rcases given with ⟨rest, here, onward⟩
      cases drawn.symm.trans here
      exact onward
  | turnedUp => exact plain (by decide)
  | turnedDown => exact plain (by decide)
  | saved => exact plain (by decide)
  | restored => exact plain (by decide)
  | skipped other => exact plain (other .forward)

end Turtle

namespace Turtle

variable {J : Type} [AngleSource J Float] {jitter left : J} {turtle : Turtle Float32 Float J}
  {before after : List Char}

/-- The sway that is drawn for a segment is the one with its number. -/
theorem sway_of_gives {sway : Float} {between : Turtle Float32 Float J}
    (gives : AngleSource.Gives (sways.map wholeDouble) jitter)
    (more : word.count 'F' < sways.length)
    (walked : followAll word 0 (start jitter) = .ok () between)
    (drawn : AngleSource.draw between.jitter = .ok sway left) :
    sway = wholeDouble (sways.getD (word.count 'F') 0) := by
  have given : AngleSource.Gives ((sways.map wholeDouble).drop (word.count 'F')) between.jitter :=
    followAll_gives gives walked
  have inside : word.count 'F' < (sways.map wholeDouble).length := by rwa [List.length_map]
  rw [List.drop_eq_getElem_cons inside] at given
  rcases given with ⟨rest, here, -⟩
  cases drawn.symm.trans here
  rw [List.getElem_map, List.getD_eq_getElem?_getD, List.getElem?_eq_getElem more,
    Option.getD_some]

/-- The heading that the turns and the sways on the open path of a word add up to. -/
def headingAlong (sways : List Int) (word : List Char) : Vec Float32 :=
  Pose.wholeHeading (pitchOf (openPath word)) (yawOf sways (openSegments word))

omit [AngleSource J Float] in
theorem start_heading (sways : List Int) (jitter : J) :
    (start jitter : Turtle Float32 Float J).pose.angle = headingAlong sways [] := by
  change Vec.spatial (Component.store (0 : Float)) (Component.store (0 : Float))
    (Component.store (0 : Float)) = Pose.wholeHeading 0 0
  rw [Pose.store_zero]
  rfl

/-- A symbol that is no bracket adds its turn or its sway to the heading. -/
theorem heading_of_followed {symbol : Char} {turtle reached : Turtle Float32 Float J}
    (mild : Jitter.Mild sways) (short : (word ++ [symbol]).length ≤ longest)
    (notOpening : symbol ≠ '[') (notClosing : symbol ≠ ']') (matched : Matched word)
    (heading : turtle.pose.angle = headingAlong sways word)
    (given : ∀ {sway : Float} {left : J}, symbol = 'F' →
      AngleSource.draw turtle.jitter = .ok sway left →
        sway = wholeDouble (sways.getD (word.count 'F') 0))
    (followed : Followed turtle symbol reached) :
    reached.pose.angle = headingAlong sways (word ++ [symbol]) := by
  have shorter : word.length ≤ longest := by
    rw [List.length_append] at short
    omega
  have pitchSmall := natAbs_pitchOf_lt shorter
  have still := natAbs_yawOf_lt mild short
  have path := openPath_append_plain matched notOpening notClosing
  have unswayed : symbol ≠ 'F' → openSegments (word ++ [symbol]) = openSegments word :=
    openSegments_append_plain matched notOpening notClosing
  unfold headingAlong
  cases followed with
  | stepped drawn advanced =>
    rw [openSegments_append_forward matched, yawOf_concat] at still ⊢
    rw [given rfl drawn] at advanced
    rw [path, pitchOf_append, pitchOf_plain (by decide) (by decide), Int.add_zero]
    exact Pose.advance_angle heading (natAbs_yawOf_lt mild shorter) (mild.natAbs_le _) still
      advanced
  | turnedUp =>
    rw [path, pitchOf_append, unswayed (by decide)]
    exact Pose.turnUp_angle heading pitchSmall
  | turnedDown =>
    rw [path, pitchOf_append, unswayed (by decide)]
    exact Pose.turnDown_angle heading pitchSmall
  | saved => exact absurd rfl notOpening
  | restored above => exact absurd rfl notClosing
  | skipped other =>
    rw [path, pitchOf_append, pitchOf_plain (other .turnUp) (other .turnDown), Int.add_zero,
      unswayed (other .forward)]
    exact heading

/-- As long as a word is not too long, the heading at its end is made of the turns and the sways on
its open path. -/
theorem followAll_heading (mild : Jitter.Mild sways)
    (gives : AngleSource.Gives (sways.map wholeDouble) jitter) (short : word.length ≤ longest)
    (enough : word.count 'F' ≤ sways.length)
    (walked : followAll word 0 (start jitter) = .ok () turtle) :
    turtle.pose.angle = headingAlong sways word := by
  -- The bounds have to hold of every beginning of the word, so they are part of what is kept.
  refine followAll_matched (motive := fun word pose => word.length ≤ longest →
    word.count 'F' ≤ sways.length → pose.angle = headingAlong sways word)
    (fun _ _ => start_heading sways jitter) ?_ ?_ ?_ (followAll_saved_length walked).2 walked
    short enough
  · intro word symbol between after notOpening notClosing matched reached known followed short enough
    have shorter : word.length ≤ longest := by
      rw [List.length_append] at short
      omega
    rw [List.count_append] at enough
    refine heading_of_followed mild short notOpening notClosing matched
      (known shorter (by omega)) ?_ followed
    rintro sway left rfl drawn
    have more : word.count 'F' < sways.length := enough
    exact sway_of_gives gives more reached drawn
  · intro word pose matched known short enough
    rw [List.length_append] at short
    rw [List.count_append] at enough
    unfold headingAlong
    rw [openSegments_append_opening matched, openPath_append_opening matched]
    exact known (by omega) (by omega)
  · intro word closed pose balanced matched known short enough
    rw [List.length_append] at short
    rw [List.count_append] at enough
    unfold headingAlong
    rw [openSegments_append_group balanced matched, openPath_append_group balanced matched]
    exact known (by omega) (by omega)

/-- What is known of the heading of a pose at the end of a word. -/
def HeadsAlong (sways : List Int) (done : List Char) (pose : Pose Float32 Float) : Prop :=
  pose.Heads (pitchOf (openPath done)) (yawOf sways (openSegments done))

theorem followAll_heads (mild : Jitter.Mild sways)
    (gives : AngleSource.Gives (sways.map wholeDouble) jitter) (short : word.length ≤ longest)
    (enough : word.count 'F' ≤ sways.length)
    (walked : followAll word 0 (start jitter) = .ok () turtle) :
    Holds (HeadsAlong sways) word turtle := by
  refine followAll_holds ?_ walked
  intro begun between beginning walked
  have shorter : begun.length ≤ longest := beginning.length_le.trans short
  have fewer : begun.count 'F' ≤ sways.length := (beginning.sublist.count_le 'F').trans enough
  have pitchSmall := natAbs_pitchOf_lt shorter
  exact Pose.heads_of_wholeHeading (followAll_heading mild gives shorter fewer walked) (by omega)
    (natAbs_yawOf_lt mild shorter)

/-- Two opposite turns at the end of a word leave the turtle as it is. -/
theorem followAll_turns {turns : List Char} {index : Nat} (mild : Jitter.Mild sways)
    (gives : AngleSource.Gives (sways.map wholeDouble) jitter)
    (short : (before ++ turns).length ≤ longest) (enough : before.count 'F' ≤ sways.length)
    (opposite : turns = ['+', '-'] ∨ turns = ['-', '+'])
    (walked : followAll before 0 (start jitter) = .ok () turtle) :
    followAll turns index turtle = .ok () turtle := by
  have two : turns.length = 2 := by
    rcases opposite with rfl | rfl <;> rfl
  rw [List.length_append, two] at short
  have heading := followAll_heading mild gives (by omega) enough walked
  have sum := natAbs_pitchOf_le (openPath before)
  have path := length_openPath_le before
  have limit : longest = 500000 := rfl
  have small : (pitchOf (openPath before)).natAbs + 60 < 2 ^ 24 := by omega
  rcases opposite with rfl | rfl
  · change EStateM.Result.ok () { turtle with pose := turtle.pose.turnUp.turnDown } = _
    rw [Pose.turnUp_turnDown heading small]
  · change EStateM.Result.ok () { turtle with pose := turtle.pose.turnDown.turnUp } = _
    rw [Pose.turnDown_turnUp heading small]

/-- A word does not care for its place. -/
theorem followAll_place {index : Nat} {turtle reached : Turtle Float32 Float J}
    (walked : followAll word index turtle = .ok () reached) (place : Nat) :
    followAll word place turtle = .ok () reached := by
  rcases followAll_behind walked with ⟨more, points, -, anew⟩
  have again := anew turtle.points place
  rwa [← points] at again

end Turtle

open Turtle

variable {J : Type} [AngleSource J Float] {jitter left : J} {turtle : Turtle Float32 Float J}
  {before after turns : List Char}

/-- Two opposite turns next to each other make no difference to a walk. -/
theorem interpret_turns (mild : Jitter.Mild sways)
    (gives : AngleSource.Gives (sways.map wholeDouble) jitter)
    (short : (before ++ turns ++ after).length ≤ longest)
    (enough : (before ++ after).count 'F' ≤ sways.length)
    (opposite : turns = ['+', '-'] ∨ turns = ['-', '+']) :
    interpret (before ++ turns ++ after) jitter = .ok turtle left ↔
      interpret (before ++ after) jitter = .ok turtle left := by
  have within : (before ++ turns).length ≤ longest := by
    rw [List.length_append] at short
    omega
  have fewer : before.count 'F' ≤ sways.length := by
    rw [List.count_append] at enough
    omega
  rw [interpret_eq_ok_iff, interpret_eq_ok_iff]
  refine and_congr_left fun _ => ?_
  constructor
  · intro walked
    rcases followAll_append_ok walked with ⟨between, first, later⟩
    rcases followAll_append_ok first with ⟨same, begun, turned⟩
    rw [followAll_turns mild gives within fewer opposite begun] at turned
    cases turned
    rw [followAll_append, Act.bind_of_ok begun]
    exact followAll_place later _
  · intro walked
    rcases followAll_append_ok walked with ⟨between, begun, later⟩
    have turned : followAll turns (0 + before.length) between = .ok () between :=
      followAll_turns mild gives within fewer opposite begun
    have first : followAll (before ++ turns) 0 (start jitter) = .ok () between := by
      rw [followAll_append, Act.bind_of_ok begun, turned]
    rw [followAll_append, Act.bind_of_ok first]
    exact followAll_place later _

/-- Constant and seeded sources of whole degrees give as many sways as are asked for, all within the
allowed angles.  With sways like these, at any moment of a walk that is not too long, every pose
that the turtle holds heads exactly by the sum of the turns and by the sum of the sways on its open
path, and not at all about the third axis.  Two opposite turns next to each other make no
difference. -/
theorem headings_add_up :
    (∀ (whole : Int) (jitter : Jitter), Jitter.ofConstant (.int whole) = .ok jitter →
      ∀ count : Nat, Jitter.Mild (List.replicate count whole) ∧
        AngleSource.Gives ((List.replicate count whole).map wholeDouble) jitter) ∧
    (∀ (seed : Int) (count : Nat), ∃ sways : List Int, sways.length = count ∧ Jitter.Mild sways ∧
      AngleSource.Gives (sways.map wholeDouble) (Jitter.ofSeed seed)) ∧
    ∀ (sways : List Int) (jitter : J), Jitter.Mild sways →
      AngleSource.Gives (sways.map wholeDouble) jitter →
        (∀ (word : List Char) (turtle : Turtle Float32 Float J) (left : J),
          word.length ≤ longest → word.count 'F' ≤ sways.length →
          interpret word jitter = .ok turtle left → ∀ done rest, word = done ++ rest →
            ∃ between, followAll done 0 (start jitter) = .ok () between ∧
              followAll rest done.length between = .ok () turtle ∧
              Holds (HeadsAlong sways) done between) ∧
        ∀ (before turns after : List Char), (before ++ turns ++ after).length ≤ longest →
          (before ++ after).count 'F' ≤ sways.length → turns = ['+', '-'] ∨ turns = ['-', '+'] →
            ∀ (turtle : Turtle Float32 Float J) (left : J),
              interpret (before ++ turns ++ after) jitter = .ok turtle left ↔
                interpret (before ++ after) jitter = .ok turtle left := by
  refine ⟨?_, ?_, ?_⟩
  · intro whole jitter accepted count
    rcases Jitter.ofConstant_int accepted with ⟨rfl, least, greatest⟩
    have lowest : Jitter.leastSway = -30 := rfl
    have highest : Jitter.greatestSway = 30 := rfl
    refine ⟨fun sway member => ?_, Jitter.constant_gives (by omega) count⟩
    rw [List.eq_of_mem_replicate member]
    exact ⟨least, greatest⟩
  · intro seed count
    exact Jitter.seeded_gives count _
  · intro sways jitter mild gives
    refine ⟨?_, fun before turns after short enough opposite turtle left =>
      interpret_turns mild gives short enough opposite⟩
    rintro word turtle left short enough walked done rest rfl
    rcases followAll_append_ok (interpret_eq_ok_iff.mp walked).1 with ⟨between, first, later⟩
    rw [Nat.zero_add] at later
    have beginning := List.prefix_append done rest
    exact ⟨between, first, later, followAll_heads mild gives (beginning.length_le.trans short)
      ((beginning.sublist.count_le 'F').trans enough) first⟩

/-- Behind a group with a turn, two of the three sways count and only the turn behind the group. -/
theorem forked_headings_add_up :
    ∃ (turtle : Turtle Float32 Float Jitter) (left : Jitter),
      interpret ['F', '[', '+', 'F', ']', '-', 'F'] (Jitter.constant (.int 5)) = .ok turtle left ∧
        turtle.pose.Heads (-30) 10 ∧
        interpret (['F', '[', '+'] ++ ['-', '+'] ++ ['F', ']', '-', 'F'])
          (Jitter.constant (.int 5)) = .ok turtle left := by
  let word := ['F', '[', '+', 'F', ']', '-', 'F']
  have accepted : Jitter.ofConstant (.int 5) = .ok (Jitter.constant (.int 5)) := rfl
  rcases headings_add_up (J := Jitter) with ⟨constants, -, sums⟩
  rcases constants 5 _ accepted 3 with ⟨mild, gives⟩
  rcases sums _ _ mild gives with ⟨heads, turns⟩
  have enough := Jitter.constant_supplies (rfl : Jitter.summand (.int 5) = _) (word.count 'F')
  have matched : Matched word := by decide
  rcases interpret_of_matched (C := Float32) matched enough with ⟨turtle, left, walked⟩
  rcases heads word turtle left (by decide) (by decide) walked word [] (by simp) with
      ⟨between, first, last, holds⟩
  cases last
  have pitch : pitchOf (openPath word) = -30 := by decide +kernel
  have yaw : yawOf (List.replicate 3 5) (openSegments word) = 10 := by decide +kernel
  have heading := holds.pose
  unfold HeadsAlong at heading
  rw [pitch, yaw] at heading
  refine ⟨turtle, left, walked, heading, ?_⟩
  exact (turns ['F', '[', '+'] ['-', '+'] ['F', ']', '-', 'F'] (by decide) (by decide)
    (Or.inr rfl) turtle left).mpr walked

end Arbor
