import Arbor.Proofs.Walk.Joining
import Mathlib.Data.List.Sort

/-!
# Which points are joined

Any number of points can be joined, also an odd one, of which the last point has no partner.  The
places that begin a pair are the even ones with another even place after them, so the pairs form one
chain through all even places, and the last of these begins none.  Only two points make an
exception: they have no chain, and are joined to each other.  Points in space always have their
branches, one for each pair.
-/

namespace Arbor

open Number Space

namespace Branch

variable {count : Int} {place index : Nat}

/-- The even places below a number that are followed by another one, in ascending order. -/
def starts (count : Int) : List Nat :=
  (List.range count.toNat).filter fun place => place % 2 = 0 ∧ (place : Int) + 2 < count

theorem mem_starts : place ∈ starts count ↔ place % 2 = 0 ∧ (place : Int) + 2 < count := by
  rw [starts, List.mem_filter, List.mem_range, decide_eq_true_eq, and_iff_right_iff_imp]
  omega

theorem starts_ascend (count : Int) : (starts count).Pairwise (· < ·) :=
  List.pairwise_lt_range.filter _

/-- Every second place is even. -/
theorem starts_eq (count : Int) :
    starts count = (List.range ((count.toNat - 1) / 2)).map fun k => 2 * k := by
  have ascend : ((List.range ((count.toNat - 1) / 2)).map fun k => 2 * k).Pairwise (· < ·) :=
    List.pairwise_lt_range.map _ fun _ _ order => Nat.mul_lt_mul_of_pos_left order (by decide)
  refine (starts_ascend count).eq_of_mem_iff ascend fun place => ?_
  rw [mem_starts, List.mem_map]
  constructor
  · intro start
    exact ⟨place / 2, List.mem_range.mpr (by omega), by omega⟩
  · rintro ⟨k, below, rfl⟩
    rw [List.mem_range] at below
    omega

theorem chain_eq (count : Int) :
    chain count = (starts count).map fun place => (place, place + 2) := by
  rw [starts_eq, List.map_map]
  rfl

/-- Only two points are not joined by the chain. -/
theorem pairs_of_ne (other : count ≠ 2) : pairs count = chain count := by
  by_cases none : chain count = []
  · have few : ¬ 2 ≤ count := by
      rw [chain, List.map_eq_nil_iff, List.range_eq_nil] at none
      omega
    simp only [pairs, few, decide_false, Bool.and_false, Bool.false_eq_true, if_false]
  · have some : (chain count).isEmpty = false := by simpa using none
    simp only [pairs, some, Bool.false_and, Bool.false_eq_true, if_false]

theorem pairs_two : pairs 2 = [(0, 1)] := rfl

theorem starts_ne_nil_iff : (∃ place, place ∈ starts count) ↔ 2 < count := by
  constructor
  · rintro ⟨place, start⟩
    have after := (mem_starts.mp start).2
    omega
  · intro several
    exact ⟨0, mem_starts.mpr ⟨rfl, by omega⟩⟩

theorem pairs_length (count : Int) :
    ((pairs count).length : Int) = if count = 2 then 1 else max ((count - 1) / 2) 0 := by
  by_cases two : count = 2
  · rw [two, pairs_two]
    rfl
  · rw [pairs_of_ne two, if_neg two, chain, List.length_map, List.length_range]
    omega

/-- The second place of a pair is the first one of the next. -/
theorem pairs_chained {first second : Nat × Nat} (here : (pairs count)[index]? = some first)
    (next : (pairs count)[index + 1]? = some second) : first.2 = second.1 := by
  by_cases two : count = 2
  · rw [two, pairs_two] at next
    cases next
  · rw [pairs_of_ne two, chain, List.getElem?_map, Option.map_eq_some_iff] at here next
    rcases here with ⟨k, found, rfl⟩
    rcases next with ⟨l, later, rfl⟩
    rw [List.getElem?_eq_some_iff] at found later
    rcases found with ⟨-, rfl⟩
    rcases later with ⟨-, rfl⟩
    simp only [List.getElem_range]
    omega

/-- How many pairs a place begins, unless there are two points. -/
theorem countP_pairs (other : count ≠ 2) (place : Nat) :
    (pairs count).countP (fun pair => pair.1 = place) = if place ∈ starts count then 1 else 0 := by
  have begins : (pairs count).countP (fun pair => pair.1 = place) = (starts count).count place := by
    rw [pairs_of_ne other, chain_eq, List.countP_map, List.count]
    rfl
  rw [begins]
  have distinct : (starts count).Nodup := (starts_ascend count).imp Nat.ne_of_lt
  by_cases start : place ∈ starts count
  · rw [if_pos start]
    exact List.count_eq_one_of_mem distinct start
  · rw [if_neg start]
    exact List.count_eq_zero_of_not_mem start

variable {C W : Type} [Wide W] [Component C W]

/-- How the branches among recorded points join them. -/
structure JoinAll (points : Array (Pose C W)) (radiusFactor : W) (branches : List (Branch C W)) :
    Prop where
  inside : ∀ pair ∈ pairs points.size, pair.1 < points.size ∧ pair.2 < points.size
  many : (branches.length : Int) =
    if points.size = 2 then 1 else max (((points.size : Int) - 1) / 2) 0
  chained : ∀ (index : Nat) (first second : Nat × Nat), (pairs points.size)[index]? = some first →
    (pairs points.size)[index + 1]? = some second → first.2 = second.1
  begun : ∀ place, place % 2 = 0 → place + 2 < points.size →
    (pairs points.size).countP (fun pair => pair.1 = place) = 1
  last : ∀ place, place % 2 = 0 → place < points.size → points.size ≤ place + 2 →
    (pairs points.size).countP (fun pair => pair.1 = place) = if points.size = 2 then 1 else 0
  each : ∀ (index : Nat) (pair : Nat × Nat), (pairs points.size)[index]? = some pair →
    ∃ branch first second, branches[index]? = some branch ∧ points[pair.1]? = some first ∧
      points[pair.2]? = some second ∧ branch.Spans radiusFactor first second

/-- Branches that have been built join the points in this way. -/
theorem joinAll_of_ofPoints {points : Array (Pose C W)} {radiusFactor : W}
    {branches : List (Branch C W)} (built : ofPoints points radiusFactor = .ok branches)
    (many : branches.length = (pairs points.size).length) :
    JoinAll points radiusFactor branches where
  inside pair member := lt_of_mem_pairs member
  many := by
    rw [many, pairs_length]
    norm_cast
  chained index first second here next := pairs_chained here next
  begun place even after := by
    have other : (points.size : Int) ≠ 2 := by omega
    rw [countP_pairs other, if_pos (mem_starts.mpr ⟨even, by omega⟩)]
  last place even below after := by
    by_cases two : points.size = 2
    · have first : place = 0 := by omega
      rw [two, first]
      rfl
    · have other : (points.size : Int) ≠ 2 := by omega
      rw [countP_pairs other, if_neg two, if_neg]
      intro start
      have further := (mem_starts.mp start).2
      omega
  each index pair paired := by
    rcases ofPoints_getElem? built paired with
        ⟨branch, first, second, there, begun, ended, joined⟩
    exact ⟨branch, first, second, there, begun, ended, spans_of_between joined⟩

/-- Of however many points, the pairs are those of an even place and the even place after it, from
first to last.  Two points are joined to each other, and fewer are not joined at all.

So points in space always have branches, whatever the radius is to be: only places of points are
joined, each pair begins where the one before it has ended, every even place but the last begins one
pair, and each branch joins the points of its pair. -/
theorem points_are_joined :
    (∀ count : Int,
      ((∃ place, place ∈ starts count) →
        pairs count = (starts count).map fun place => (place, place + 2)) ∧
      (count = 2 → pairs count = [(0, 1)]) ∧ (count < 2 → pairs count = [])) ∧
    ∀ points : Array (Pose C W), (∀ pose ∈ points, pose.Spatial) → ∀ radiusFactor : W,
      ∃ branches, ofPoints points radiusFactor = .ok branches ∧
        JoinAll points radiusFactor branches := by
  constructor
  · intro count
    refine ⟨fun some => ?_, fun two => ?_, fun few => ?_⟩
    · have several := starts_ne_nil_iff.mp some
      rw [pairs_of_ne (by omega), chain_eq]
    · rw [two, pairs_two]
    · have none : (count.toNat - 1) / 2 = 0 := by omega
      rw [pairs_of_ne (by omega), chain, none]
      rfl
  · intro points spatial radiusFactor
    rcases ofPoints_spatial spatial radiusFactor with ⟨branches, built, many, -⟩
    exact ⟨branches, built, joinAll_of_ofPoints built many⟩

/-- Five points have two branches, and the last point belongs to none; the second branch begins at
the third point. -/
theorem five_points_are_joined :
    ∃ branches : List (Branch Float32 Float),
      ofPoints (Array.replicate 5 Pose.origin) 0.25 = .ok branches ∧ branches.length = 2 ∧
      (pairs 5).countP (fun pair => pair.1 = 2) = 1 ∧
      (pairs 5).countP (fun pair => pair.1 = 4) = 0 ∧
      ∃ branch, branches[1]? = some branch ∧ branch.radius = 0.25 * branch.length := by
  have spatial : ∀ pose ∈ Array.replicate 5 (Pose.origin : Pose Float32 Float), pose.Spatial := by
    intro pose member
    rw [Array.eq_of_mem_replicate member]
    exact Pose.origin_spatial
  rcases points_are_joined.2 _ spatial 0.25 with ⟨branches, built, joins⟩
  have many := joins.many
  rcases joins.each 1 (2, 4) rfl with ⟨branch, first, second, there, -, -, joined⟩
  exact ⟨branches, built, Int.ofNat.inj many, joins.begun 2 rfl (by decide),
    joins.last 4 rfl (by decide) (by decide), branch, there, joined.radius⟩

end Branch
end Arbor
