import Arbor.Proofs.Walk.Expansion
import Arbor.Proofs.Walk.Joining
import Mathlib.Tactic.Ring

/-!
# How large a tree gets

Under the branching rule every segment of a word becomes five, and twelve symbols are added, while
all other symbols stay as they are.  So the segments of an expanded word grow by powers of five and
its length by a multiple of these.  A walk records two points for each segment, and the branches
join one segment to the next, so there is one branch less than there are segments; only a single
segment has a branch of its own.
-/

namespace Arbor

open Brackets Number Space

namespace Rules
namespace Table

theorem branching_replacement_of_ne {symbol : Char} (other : symbol ≠ 'F') :
    branching.replacement symbol = [symbol] := by
  apply replacement_of_not_mem
  intro known
  exact other (List.mem_singleton.mp known)

theorem branching_pass_cons (symbol : Char) (word : List Char) :
    branching.pass (symbol :: word) = branching.replacement symbol ++ branching.pass word :=
  List.flatMap_cons

/-- A pass makes five segments of each. -/
theorem branching_pass_count (word : List Char) :
    (branching.pass word).count 'F' = word.count 'F' * 5 := by
  induction word with
  | nil => rfl
  | cons symbol word inductionHypothesis =>
    rw [branching_pass_cons, List.count_append, inductionHypothesis]
    by_cases forward : symbol = 'F'
    · subst forward
      have five : (branching.replacement 'F').count 'F' = 5 := by decide
      rw [five, List.count_cons_self]
      omega
    · rw [branching_replacement_of_ne forward, List.count_cons_of_ne forward,
        List.count_cons_of_ne forward, List.count_nil, Nat.zero_add]

/-- A pass adds twelve symbols for each segment. -/
theorem branching_pass_length (word : List Char) :
    (branching.pass word).length = word.length + 12 * word.count 'F' := by
  induction word with
  | nil => rfl
  | cons symbol word inductionHypothesis =>
    rw [branching_pass_cons, List.length_append, inductionHypothesis, List.length_cons]
    by_cases forward : symbol = 'F'
    · subst forward
      have thirteen : (branching.replacement 'F').length = 13 := by decide
      rw [thirteen, List.count_cons_self]
      omega
    · rw [branching_replacement_of_ne forward, List.count_cons_of_ne forward, List.length_singleton]
      omega

theorem branching_expand_count (passes : Nat) (word : List Char) :
    (branching.expand passes word).count 'F' = word.count 'F' * 5 ^ passes := by
  induction passes generalizing word with
  | zero => rw [expand_zero, Nat.pow_zero, Nat.mul_one]
  | succ passes inductionHypothesis =>
    calc (branching.expand (passes + 1) word).count 'F'
        = (branching.pass word).count 'F' * 5 ^ passes := by rw [expand_succ, inductionHypothesis]
      _ = word.count 'F' * 5 ^ (passes + 1) := by
        rw [branching_pass_count, Nat.mul_assoc, Nat.pow_succ, Nat.mul_comm 5]

/-- The twelve symbols that are added for a segment are three for each of the four new ones. -/
theorem branching_expand_length (passes : Nat) (word : List Char) :
    (branching.expand passes word).length =
      word.length + 3 * word.count 'F' * (5 ^ passes - 1) := by
  induction passes generalizing word with
  | zero => rw [expand_zero, Nat.pow_zero, Nat.sub_self, Nat.mul_zero, Nat.add_zero]
  | succ passes inductionHypothesis =>
    rw [expand_succ, inductionHypothesis, branching_pass_length, branching_pass_count]
    obtain ⟨more, power⟩ : ∃ more, 5 ^ passes = more + 1 :=
      ⟨5 ^ passes - 1, (Nat.sub_add_cancel (Nat.pow_pos (by decide))).symm⟩
    rw [Nat.pow_succ, power]
    have whole : (more + 1) * 5 - 1 = 5 * more + 4 := by omega
    rw [whole, Nat.add_sub_cancel]
    ring

end Table
end Rules

namespace Branch

/-- How many branches join so many segments. -/
theorem length_pairs (segments : Nat) :
    (pairs ((2 * segments : Nat) : Int)).length =
      if segments = 0 then 0 else if segments = 1 then 1 else segments - 1 := by
  match segments with
  | 0 => rfl
  | 1 => rfl
  | segments + 2 =>
    rw [pairs_of_segments (Nat.le_add_left 2 segments), List.length_map, List.length_range]
    rfl

end Branch

variable {C W J : Type} [Wide W] [Component C W] [AngleSource J W]

/-- The points and branches of a complete walk are counted by its segments. -/
theorem sizes_of_walk {word : List Char} {jitter left : J} {turtle : Turtle C W J}
    (walked : interpret word jitter = .ok turtle left) {radiusFactor : W}
    {branches : List (Branch C W)}
    (built : Branch.ofPoints turtle.points radiusFactor = .ok branches) :
    turtle.points.size = 2 * word.count 'F' ∧ branches.length =
      if word.count 'F' = 0 then 0 else if word.count 'F' = 1 then 1 else word.count 'F' - 1 := by
  have size := (Turtle.followAll_trailing (interpret_eq_ok_iff.mp walked).1).size
  rcases Branch.ofPoints_spatial (interpret_spatial walked).points radiusFactor with
      ⟨others, again, many, -⟩
  cases built.symm.trans again
  rw [size, Branch.length_pairs] at many
  exact ⟨size, many⟩

end Arbor
