import Arbor.Jitter
import Arbor.Proofs.Act
import Arbor.Proofs.Number.Wholes

/-!
# Sways of whole degrees

A constant jitter gives the same whole number of degrees for ever, and a seeded one draws whole
numbers of degrees from a fixed range.  Either way the sways are doubles that have exactly these
values.
-/

namespace Arbor

open Number

variable {J W : Type} {jitter : J} {whole : Int}

/-- A source gives these sways, one after the other. -/
def AngleSource.Gives [AngleSource J W] : List W → J → Prop
  | [], _ => True
  | sway :: sways, jitter =>
    ∃ left, AngleSource.draw jitter = .ok sway left ∧ AngleSource.Gives sways left

/-- Whole degrees that a constant or seeded source may give. -/
def Jitter.Mild (sways : List Int) : Prop :=
  ∀ sway ∈ sways, Jitter.leastSway ≤ sway ∧ sway ≤ Jitter.greatestSway

namespace Jitter

/-- Not too large whole numbers are summands as they are. -/
theorem summand_int (small : whole.natAbs < 2 ^ 53) :
    summand (.int whole) = .ok (wholeDouble whole) := by
  have finite : double.roundMagnitude whole.natAbs 0 ≠ double.infinity := by
    have pattern := roundMagnitude_scaled binary64_roomy small 0
    rw [Nat.pow_zero, Nat.mul_one] at pattern
    exact Nat.ne_of_lt (pattern ▸ wholePattern_lt_infinity binary64_roomy small)
  unfold summand realOfWhole
  simp only [if_neg finite, ofBits_roundMagnitude small]
  by_cases negative : whole < 0
  · have flip : (whole.natAbs : Int) = -whole := Int.ofNat_natAbs_of_nonpos negative.le
    have nonzero : -whole ≠ 0 := by omega
    rw [if_pos negative, flip, wholeDouble_neg nonzero (by rwa [Int.natAbs_neg]), Int.neg_neg]
  · rw [if_neg negative, Int.natAbs_of_nonneg (Int.not_lt.mp negative)]

/-- A constant source of whole degrees gives them as often as they are asked for. -/
theorem constant_gives (small : whole.natAbs < 2 ^ 53) (count : Nat) :
    AngleSource.Gives ((List.replicate count whole).map wholeDouble)
      (constant (.int whole)) := by
  induction count with
  | zero => trivial
  | succ count inductionHypothesis =>
    refine ⟨constant (.int whole), ?_, inductionHypothesis⟩
    change Act.lift (summand (.int whole)) (constant (.int whole)) = _
    rw [summand_int small]
    rfl

/-- A whole constant is accepted only within the allowed angles. -/
theorem ofConstant_int {jitter : Jitter} (accepted : ofConstant (.int whole) = .ok jitter) :
    jitter = constant (.int whole) ∧ leastSway ≤ whole ∧ whole ≤ greatestSway := by
  change (if (decide (leastSway ≤ whole) && decide (whole ≤ greatestSway)) = true then
    Except.ok (constant (.int whole)) else refuse (.swayOutOfRange _ _ _)) = _ at accepted
  by_cases within : leastSway ≤ whole ∧ whole ≤ greatestSway
  · rw [if_pos (by simpa using within)] at accepted
    cases accepted
    exact ⟨rfl, within⟩
  · rw [if_neg (by simpa using within)] at accepted
    cases accepted

/-- A draw stays below its bound, however many attempts it takes. -/
theorem Twister.below_lt {count : Nat} (pos : 0 < count) (attempts : Nat) (twister : Twister) :
    (twister.below count attempts).1 < count := by
  induction attempts generalizing twister with
  | zero => exact Nat.mod_lt _ pos
  | succ attempts inductionHypothesis =>
    unfold Twister.below
    dsimp only
    split
    · assumption
    · exact inductionHypothesis _

/-- A seeded source draws whole degrees within the allowed angles. -/
theorem seeded_draw (twister : Twister) :
    ∃ (sway : Int) (left : Twister), leastSway ≤ sway ∧ sway ≤ greatestSway ∧
      draw (seeded twister) = .ok (wholeDouble sway) (seeded left) := by
  have pos : 0 < (greatestSway - leastSway + 1).toNat := by decide
  have bound := Twister.below_lt pos attempts twister
  rcases drawn : twister.below (greatestSway - leastSway + 1).toNat attempts with ⟨steps, left⟩
  rw [drawn] at bound
  have upTo : (steps : Int) < greatestSway - leastSway + 1 := Int.lt_toNat.mp bound
  have lowest : leastSway = -30 := rfl
  have highest : greatestSway = 30 := rfl
  have taken : next (seeded twister) = .ok (.int (leastSway + steps)) (seeded left) := by
    simp only [next, drawn]
  refine ⟨leastSway + steps, left, by omega, by omega, ?_⟩
  unfold draw
  rw [Act.bind_of_ok taken, summand_int (by omega)]
  rfl

theorem seeded_gives (count : Nat) (twister : Twister) :
    ∃ sways : List Int, sways.length = count ∧ Mild sways ∧
      AngleSource.Gives (sways.map wholeDouble) (seeded twister) := by
  induction count generalizing twister with
  | zero => exact ⟨[], rfl, fun _ member => absurd member List.not_mem_nil, trivial⟩
  | succ count inductionHypothesis =>
    rcases seeded_draw twister with ⟨sway, left, least, greatest, drawn⟩
    rcases inductionHypothesis left with ⟨sways, many, mild, gives⟩
    refine ⟨sway :: sways, congrArg Nat.succ many, ?_, seeded left, drawn, gives⟩
    intro other member
    rcases List.mem_cons.mp member with same | later
    · exact same ▸ ⟨least, greatest⟩
    · exact mild other later

end Jitter
end Arbor
