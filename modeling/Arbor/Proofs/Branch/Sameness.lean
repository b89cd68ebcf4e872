import Arbor.Branch
import Mathlib

/-!
# Which branches are the same

Finite components stand in order on one line, those with a sign below the others, and two of them
agree if they are at most one place apart (`neighbours_iff`).  Going from one branch to a second that
is the same, and on to a third, a component can move by two places.  So every finite branch is the
same as itself, and two of them are the same in both directions or in none, but two that are the same
as a third one need not be the same as each other (`sameness_is_tolerance`).
-/

namespace Arbor

open Number

namespace Space

variable {C : Type} [Patterned C] {c d : C} {v w u : Vec C} {steps more : Nat}

/-- The pattern of a component stands for a finite number. -/
def ReadsFinite (c : C) : Prop :=
  ∃ negative mantissa exponent,
    single.read (Patterned.pattern c).toNat = .finite negative mantissa exponent

/-- The place of a component on the line of all numbers: patterns without a sign count upwards from
zero, and those with a sign downwards from the place below. -/
def rank (c : C) : Int :=
  let bits := (Patterned.pattern c).toNat
  if bits < single.signWeight then bits else single.signWeight - 1 - bits

/-- Finite patterns are those below the pattern of infinity, but for the sign. -/
theorem readsFinite_iff :
    ReadsFinite c ↔ (Patterned.pattern c).toNat % single.signWeight < single.infinity := by
  unfold ReadsFinite Format.read
  dsimp only
  constructor
  · rintro ⟨negative, mantissa, exponent, reads⟩
    by_contra beyond
    rcases Nat.lt_or_eq_of_le (Nat.not_lt.mp beyond) with above | same
    · rw [if_pos above] at reads
      cases reads
    · rw [if_neg (Nat.not_lt.mpr same.ge), if_pos same] at reads
      cases reads
  · intro below
    rw [if_neg (Nat.not_lt.mpr (Nat.le_of_lt below)), if_neg (Nat.ne_of_gt below)]
    split <;> exact ⟨_, _, _, rfl⟩

instance (c : C) : Decidable (ReadsFinite c) := decidable_of_iff _ readsFinite_iff.symm

/-! ## Neighbours -/

/-- Turning all bits but the sign of a pattern round counts its magnitude from the other end. -/
theorem toNat_turned (bits : UInt32) :
    (bits ^^^ 0x7fffffff).toNat =
      bits.toNat / 2 ^ 31 * 2 ^ 31 + (2 ^ 31 - (bits.toNat % 2 ^ 31 + 1)) := by
  have low : bits.toNat % 2 ^ 31 < 2 ^ 31 := Nat.mod_lt _ (by decide)
  have high : (bits ^^^ 0x7fffffff).toNat / 2 ^ 31 = bits.toNat / 2 ^ 31 := by
    rw [UInt32.toNat_xor, Nat.xor_div_two_pow]
    exact Nat.xor_zero _
  have turned : (bits ^^^ 0x7fffffff).toNat % 2 ^ 31 = 2 ^ 31 - (bits.toNat % 2 ^ 31 + 1) := by
    rw [UInt32.toNat_xor, Nat.xor_mod_two_pow]
    refine Nat.eq_of_testBit_eq fun place => ?_
    have ones : (0x7fffffff : UInt32).toNat % 2 ^ 31 = 2 ^ 31 - 1 := rfl
    rw [ones, Nat.testBit_two_pow_sub_succ low, Nat.testBit_xor, Nat.testBit_two_pow_sub_one,
      Nat.testBit_mod_two_pow]
    cases decide (place < 31) <;> simp
  have parts := Nat.div_add_mod' (bits ^^^ 0x7fffffff).toNat (2 ^ 31)
  rw [high, turned] at parts
  exact parts.symm

theorem sign_eq_iff (first second : UInt32) :
    first >>> 31 = second >>> 31 ↔ first.toNat / 2 ^ 31 = second.toNat / 2 ^ 31 := by
  have shifted : ∀ bits : UInt32, (bits >>> 31).toNat = bits.toNat / 2 ^ 31 := fun bits => by
    rw [UInt32.toNat_shiftRight, Nat.shiftRight_eq_div_pow]
    rfl
  rw [← UInt32.toNat_inj, shifted, shifted]

/-- Two patterns are one apart, or equal, as words that wrap around. -/
theorem distance_iff (first second : UInt32) :
    (first - second = 0 || first - second = 1 || first - second = 0xffffffff) = true ↔
      first.toNat = second.toNat ∨ first.toNat = (second.toNat + 1) % 2 ^ 32 ∨
        second.toNat = (first.toNat + 1) % 2 ^ 32 := by
  have firstBound := first.toNat_lt
  have secondBound := second.toNat_lt
  have zero : (0 : UInt32).toNat = 0 := rfl
  have one : (1 : UInt32).toNat = 1 := rfl
  have last : (0xffffffff : UInt32).toNat = 2 ^ 32 - 1 := rfl
  simp only [Bool.or_eq_true, decide_eq_true_eq, ← UInt32.toNat_inj, UInt32.toNat_sub, zero, one,
    last]
  omega

/-- Finite components agree exactly if they are at most one place apart. -/
theorem neighbours_iff (left : ReadsFinite c) (right : ReadsFinite d) :
    neighbours c d = true ↔ (rank c - rank d).natAbs ≤ 1 := by
  have leftBelow := readsFinite_iff.mp left
  have rightBelow := readsFinite_iff.mp right
  have weight : single.signWeight = 2 ^ 31 := rfl
  have infinity : single.infinity = 2 ^ 31 - 2 ^ 23 := rfl
  unfold neighbours rank
  dsimp only
  rw [distance_iff, weight]
  rw [weight, infinity] at leftBelow rightBelow
  have leftBound := (Patterned.pattern c).toNat_lt
  have rightBound := (Patterned.pattern d).toNat_lt
  by_cases same : Patterned.pattern c >>> 31 = Patterned.pattern d >>> 31
  · rw [if_pos same]
    rw [sign_eq_iff] at same
    split <;> split <;> omega
  · rw [if_neg same, toNat_turned]
    rw [sign_eq_iff] at same
    split <;> split <;> omega

/-! ## Vectors -/

/-- Vectors of one size whose components are at most so many places apart. -/
def Vec.Within (steps : Nat) (v w : Vec C) : Prop :=
  List.Forall₂ (fun c d => (rank c - rank d).natAbs ≤ steps) v.toList w.toList

/-- All components of a vector are finite. -/
def Vec.ReadsFinite (v : Vec C) : Prop := ∀ c ∈ v.toList, Space.ReadsFinite c

instance (v : Vec C) : Decidable v.ReadsFinite :=
  inferInstanceAs (Decidable (∀ c ∈ v.toList, Space.ReadsFinite c))

namespace Vec

theorem within_self (steps : Nat) (v : Vec C) : v.Within steps v :=
  List.forall₂_same.mpr fun c _ => by
    rw [Int.sub_self]
    exact Nat.zero_le steps

theorem Within.symm (within : v.Within steps w) : w.Within steps v := by
  refine (List.Forall₂.imp (fun c d near => ?_) within).flip
  rwa [flip, ← Int.natAbs_neg, Int.neg_sub]

/-- Steps along the line add up. -/
theorem Within.trans (first : v.Within steps w) (second : w.Within more u) :
    v.Within (steps + more) u := by
  unfold Within at first second ⊢
  generalize v.toList = vs at first
  generalize w.toList = ws at first second
  generalize u.toList = us at second
  induction first generalizing us with
  | nil =>
    cases second
    exact .nil
  | cons near _ inductionHypothesis =>
    cases second with
    | cons onward rest => exact .cons (by omega) (inductionHypothesis _ rest)

/-- Finite vectors agree exactly if their components are at most one place apart. -/
theorem agrees_iff (left : v.ReadsFinite) (right : w.ReadsFinite) :
    v.agrees w = true ↔ v.Within 1 w := by
  have sizes : v.toList.length = w.toList.length ↔ v.rest.length = w.rest.length := by
    simp only [toList, List.length_cons, Nat.add_right_cancel_iff]
  unfold agrees Within
  rw [Bool.and_eq_true, beq_iff_eq, List.forall₂_iff_zip, sizes, List.all_eq_true]
  refine and_congr_right fun _ => ⟨fun all c d member => ?_, fun all pair member => ?_⟩
  · exact (neighbours_iff (left c (List.of_mem_zip member).1)
      (right d (List.of_mem_zip member).2)).mp (all (c, d) member)
  · exact (neighbours_iff (left pair.1 (List.of_mem_zip member).1)
      (right pair.2 (List.of_mem_zip member).2)).mpr (all member)

end Vec
end Space

/-- A finite double is equal to itself. -/
theorem Number.equal_self {x : Float} (finite : x.isFinite = true) : (x == x) = true := by
  refine Float.beq_self_iff.mpr fun missing => ?_
  have infinite : Float.nan.isFinite = false := by decide +kernel
  rw [missing, infinite] at finite
  cases finite

/-! ## Branches -/

namespace Branch

open Space

variable {C : Type} [Patterned C] {first second third : Branch C Float} {steps more : Nat}

/-- All numbers of a branch are finite. -/
structure ReadsFinite (branch : Branch C Float) : Prop where
  start : branch.start.ReadsFinite
  tip : branch.tip.ReadsFinite
  length : branch.length.isFinite = true
  radius : branch.radius.isFinite = true
  rotation : branch.rotation.ReadsFinite

/-- Branches of one length and radius whose components are at most so many places apart. -/
structure Near (steps : Nat) (first second : Branch C Float) : Prop where
  start : first.start.Within steps second.start
  tip : first.tip.Within steps second.tip
  length : (first.length == second.length) = true
  radius : (first.radius == second.radius) = true
  rotation : first.rotation.Within steps second.rotation

theorem near_self (finite : first.ReadsFinite) (steps : Nat) : first.Near steps first where
  start := Vec.within_self steps first.start
  tip := Vec.within_self steps first.tip
  length := equal_self finite.length
  radius := equal_self finite.radius
  rotation := Vec.within_self steps first.rotation

theorem Near.symm (near : first.Near steps second) : second.Near steps first where
  start := near.start.symm
  tip := near.tip.symm
  length := BEq.symm near.length
  radius := BEq.symm near.radius
  rotation := near.rotation.symm

theorem Near.trans (near : first.Near steps second) (onward : second.Near more third) :
    first.Near (steps + more) third where
  start := near.start.trans onward.start
  tip := near.tip.trans onward.tip
  length := BEq.trans near.length onward.length
  radius := BEq.trans near.radius onward.radius
  rotation := near.rotation.trans onward.rotation

theorem same_iff (left : first.ReadsFinite) (right : second.ReadsFinite) :
    first.same second = true ↔ first.Near 1 second := by
  simp only [same, Bool.and_eq_true, Vec.agrees_iff left.start right.start,
    Vec.agrees_iff left.tip right.tip, Vec.agrees_iff left.rotation right.rotation]
  constructor
  · rintro ⟨⟨⟨⟨start, tip⟩, length⟩, radius⟩, rotation⟩
    exact ⟨start, tip, length, radius, rotation⟩
  · intro near
    exact ⟨⟨⟨⟨near.start, near.tip⟩, near.length⟩, near.radius⟩, near.rotation⟩

/-- A finite branch is the same as itself, and branches are the same in both directions.  Two branches
that are the same as a third one can be two places apart in every component, and are the same as
each other only if they are not more than one place apart. -/
theorem sameness_is_tolerance (here : first.ReadsFinite) (there : second.ReadsFinite)
    (beyond : third.ReadsFinite) :
    first.same first = true ∧ (first.same second = true → second.same first = true) ∧
      (first.same second = true → second.same third = true →
        first.Near 2 third ∧ (first.same third = true ↔ first.Near 1 third)) := by
  rw [same_iff here here, same_iff here there, same_iff there here, same_iff there beyond,
    same_iff here beyond]
  exact ⟨near_self here 1, Near.symm, fun near onward => ⟨near.trans onward, Iff.rfl⟩⟩

/-- A thin branch that begins at the given place on the first axis. -/
def beginningAt (place : UInt32) : Branch Float32 Float where
  start := .spatial (.ofBits place) (.ofBits 0) (.ofBits 0)
  tip := .spatial (.ofBits 0) (.ofBits 0x3f800000) (.ofBits 0)
  length := 1.0
  radius := 0.1
  rotation := .spatial (.ofBits 0) (.ofBits 0) (.ofBits 0)

theorem beginningAt_finite {place : UInt32}
    (finite : (beginningAt place).start.ReadsFinite) : (beginningAt place).ReadsFinite where
  start := finite
  tip := by
    change (Vec.spatial (.ofBits 0) (.ofBits 0x3f800000) (.ofBits 0) : Vec Float32).ReadsFinite
    decide
  length := by
    change (1.0 : Float).isFinite = true
    decide +kernel
  radius := by
    change (0.1 : Float).isFinite = true
    decide +kernel
  rotation := by
    change (Vec.spatial (.ofBits 0) (.ofBits 0) (.ofBits 0) : Vec Float32).ReadsFinite
    decide

/-- Of three branches that begin one place after the other, the outer ones are two places apart and
not the same. -/
theorem three_in_a_row :
    let first := beginningAt 0x3f800000
    let second := beginningAt 0x3f800001
    let third := beginningAt 0x3f800002
    first.ReadsFinite ∧ second.ReadsFinite ∧ third.ReadsFinite ∧ first.same second = true ∧
      second.same third = true ∧ first.Near 2 third ∧ ¬ first.Near 1 third := by
  intro first second third
  have here : first.ReadsFinite := beginningAt_finite (by decide +kernel)
  have there : second.ReadsFinite := beginningAt_finite (by decide +kernel)
  have beyond : third.ReadsFinite := beginningAt_finite (by decide +kernel)
  have near : first.same second = true := by decide +kernel
  have onward : second.same third = true := by decide +kernel
  rcases (sameness_is_tolerance here there beyond).2.2 near onward with ⟨within, same⟩
  refine ⟨here, there, beyond, near, onward, within, fun close => ?_⟩
  have apart : first.same third = false := by decide +kernel
  rw [same.mpr close] at apart
  cases apart

/-- So being the same does not pass on: two branches that are the same as a third one need not be
the same. -/
theorem sameness_does_not_pass_on :
    (beginningAt 0x3f800000).ReadsFinite ∧ (beginningAt 0x3f800001).ReadsFinite ∧
      (beginningAt 0x3f800002).ReadsFinite ∧
      ¬ ((beginningAt 0x3f800000).same (beginningAt 0x3f800001) = true →
        (beginningAt 0x3f800001).same (beginningAt 0x3f800002) = true →
        (beginningAt 0x3f800000).same (beginningAt 0x3f800002) = true) :=
  ⟨beginningAt_finite (by decide +kernel), beginningAt_finite (by decide +kernel),
    beginningAt_finite (by decide +kernel), by decide +kernel⟩

end Branch
end Arbor
