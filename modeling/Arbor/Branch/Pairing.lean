/-!
# Which points a branch joins

A walk records two points for every segment, so a segment starts at every even place.  Branches
join each segment's start to the next segment's start, which chains them together; the last start
has no partner.  A walk of a single segment has one branch, from its start to its end.
-/

namespace Arbor
namespace Branch

/-- The pairs of consecutive even places below a number. -/
def chain (count : Int) : List (Nat × Nat) :=
  (List.range ((count.toNat - 1) / 2)).map fun k => (2 * k, 2 * k + 2)

/-- The pairs of places that are joined among a number of points. -/
def pairs (count : Int) : List (Nat × Nat) :=
  if (chain count).isEmpty && 2 ≤ count then [(0, 1)] else chain count

theorem lt_of_mem_chain {count : Int} {pair : Nat × Nat} (member : pair ∈ chain count) :
    pair.1 < count.toNat ∧ pair.2 < count.toNat := by
  obtain ⟨k, below, rfl⟩ := List.mem_map.1 member
  rw [List.mem_range] at below
  constructor <;> dsimp only <;> omega

/-- Only places of points are joined. -/
theorem lt_of_mem_pairs {count : Int} {pair : Nat × Nat} (member : pair ∈ pairs count) :
    pair.1 < count.toNat ∧ pair.2 < count.toNat := by
  unfold pairs at member
  split at member
  · rename_i single
    rw [Bool.and_eq_true, decide_eq_true_eq] at single
    rw [List.mem_singleton] at member
    subst member
    constructor <;> dsimp only <;> omega
  · exact lt_of_mem_chain member

end Branch
end Arbor
