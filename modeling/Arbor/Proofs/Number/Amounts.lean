import Arbor.Number.Format
import Mathlib.Data.Rat.Floor

/-!
# The numbers that are read

A finite bit pattern stands for a rational number.  That a number read is whole, and what is left of
it when its fraction is dropped, are worked out on mantissas and exponents; here both are said of
the rational number itself.  Nothing is rounded in this, however large the exponent is.
-/

namespace Arbor
namespace Number

/-- A number without its fraction: the whole number next to it on the side of zero. -/
def towardZero (amount : ℚ) : ℤ := if 0 ≤ amount then ⌊amount⌋ else ⌈amount⌉

theorem towardZero_of_nonneg {amount : ℚ} (nonneg : 0 ≤ amount) : towardZero amount = ⌊amount⌋ :=
  if_pos nonneg

theorem towardZero_intCast (whole : ℤ) : towardZero (whole : ℚ) = whole := by
  unfold towardZero
  rw [Int.floor_intCast, Int.ceil_intCast, ite_self]

/-- Dropping a fraction does not look at the sign. -/
theorem towardZero_neg {amount : ℚ} (nonneg : 0 ≤ amount) :
    towardZero (-amount) = -⌊amount⌋ := by
  by_cases zero : amount = 0
  · rw [zero, neg_zero, Int.floor_zero, neg_zero]
    exact towardZero_intCast 0
  · have negative : ¬ 0 ≤ -amount := by
      rw [neg_nonneg]
      exact fun nonpos => zero (le_antisymm nonpos nonneg)
    rw [towardZero, if_neg negative, Int.ceil_neg]

theorem towardZero_mono {less more : ℚ} (order : less ≤ more) :
    towardZero less ≤ towardZero more := by
  unfold towardZero
  by_cases above : 0 ≤ less
  · rw [if_pos above, if_pos (above.trans order)]
    exact Int.floor_mono order
  · rw [if_neg above]
    by_cases crosses : 0 ≤ more
    · rw [if_pos crosses]
      exact (Int.ceil_nonpos.mpr (le_of_not_ge above)).trans (Int.floor_nonneg.mpr crosses)
    · rw [if_neg crosses]
      exact Int.ceil_mono order

/-- A number is whole exactly if it has no fraction to drop. -/
theorem towardZero_eq_iff {amount : ℚ} :
    (towardZero amount : ℚ) = amount ↔ ∃ whole : ℤ, (whole : ℚ) = amount := by
  constructor
  · exact fun same => ⟨_, same⟩
  · rintro ⟨whole, rfl⟩
    rw [towardZero_intCast]

/-! ## Magnitudes -/

/-- The number that a mantissa and an exponent stand for. -/
def magnitude (mantissa : ℕ) (exponent : ℤ) : ℚ := mantissa * 2 ^ exponent

theorem magnitude_nonneg (mantissa : ℕ) (exponent : ℤ) : 0 ≤ magnitude mantissa exponent :=
  mul_nonneg mantissa.cast_nonneg (zpow_nonneg (by decide) exponent)

theorem magnitude_of_nonneg (mantissa : ℕ) {exponent : ℤ} (whole : 0 ≤ exponent) :
    magnitude mantissa exponent = ((mantissa * Nat.pow 2 exponent.toNat : ℕ) : ℚ) := by
  obtain ⟨power, rfl⟩ := Int.eq_ofNat_of_zero_le whole
  rw [magnitude, zpow_natCast, Nat.cast_mul, Int.toNat_natCast, Nat.pow_eq, Nat.cast_pow,
    Nat.cast_ofNat]

theorem magnitude_of_neg (mantissa : ℕ) {exponent : ℤ} (part : exponent ≤ 0) :
    magnitude mantissa exponent = mantissa / ((Nat.pow 2 (-exponent).toNat : ℕ) : ℚ) := by
  obtain ⟨power, same⟩ := Int.eq_ofNat_of_zero_le (Int.neg_nonneg_of_nonpos part)
  have below : exponent = -(power : ℤ) := by omega
  rw [below, magnitude, zpow_neg, zpow_natCast, neg_neg, Int.toNat_natCast, Nat.pow_eq,
    Nat.cast_pow, Nat.cast_ofNat, div_eq_mul_inv]

/-- The whole part of a magnitude is worked out in whole numbers. -/
theorem floor_magnitude (mantissa : ℕ) (exponent : ℤ) :
    ⌊magnitude mantissa exponent⌋ =
      ((if 0 ≤ exponent then mantissa * Nat.pow 2 exponent.toNat
        else mantissa / Nat.pow 2 (-exponent).toNat : ℕ) : ℤ) := by
  by_cases whole : 0 ≤ exponent
  · rw [if_pos whole, magnitude_of_nonneg mantissa whole, Int.floor_natCast]
  · rw [if_neg whole, magnitude_of_neg mantissa (le_of_not_ge whole),
      Rat.floor_natCast_div_natCast, Int.natCast_ediv]

/-- A magnitude is whole exactly if its mantissa is divided without a rest. -/
theorem magnitude_whole_iff (mantissa : ℕ) (exponent : ℤ) :
    (⌊magnitude mantissa exponent⌋ : ℚ) = magnitude mantissa exponent ↔
      0 ≤ exponent ∨ mantissa % Nat.pow 2 (-exponent).toNat = 0 := by
  by_cases whole : 0 ≤ exponent
  · rw [magnitude_of_nonneg mantissa whole, Int.floor_natCast]
    simp [whole]
  · have unit : ((Nat.pow 2 (-exponent).toNat : ℕ) : ℚ) ≠ 0 :=
      Nat.cast_ne_zero.mpr (Nat.pow_pos (by decide)).ne'
    rw [floor_magnitude, if_neg whole, magnitude_of_neg mantissa (le_of_not_ge whole),
      eq_div_iff unit, Int.cast_natCast, ← Nat.cast_mul, Nat.cast_inj,
      ← Nat.dvd_iff_div_mul_eq, Nat.dvd_iff_mod_eq_zero]
    simp [whole]

namespace Reading

/-- The number that is read, if it is finite. -/
def amount? : Reading → Option ℚ
  | .finite negative mantissa exponent =>
    some (if negative then -magnitude mantissa exponent else magnitude mantissa exponent)
  | _ => none

variable {reading : Reading} {amount : ℚ}

theorem truncate?_of_amount (reads : reading.amount? = some amount) :
    reading.truncate? = some (towardZero amount) := by
  cases reading with
  | finite negative mantissa exponent =>
    cases reads
    have nonneg := magnitude_nonneg mantissa exponent
    have whole := floor_magnitude mantissa exponent
    cases negative with
    | false =>
      simp only [truncate?, Bool.false_eq_true, if_false]
      rw [towardZero_of_nonneg nonneg, whole]
    | true =>
      simp only [truncate?, if_true]
      rw [towardZero_neg nonneg, whole]
  | _ => cases reads

theorem isWhole_iff (reads : reading.amount? = some amount) :
    reading.isWhole = true ↔ ∃ whole : ℤ, (whole : ℚ) = amount := by
  rw [← towardZero_eq_iff]
  cases reading with
  | finite negative mantissa exponent =>
    cases reads
    have nonneg := magnitude_nonneg mantissa exponent
    have divides : (finite negative mantissa exponent).isWhole = true ↔
        0 ≤ exponent ∨ mantissa % Nat.pow 2 (-exponent).toNat = 0 := by
      simp only [isWhole, Bool.or_eq_true, decide_eq_true_eq, beq_iff_eq]
    rw [divides, ← magnitude_whole_iff]
    cases negative with
    | false => rw [if_neg Bool.false_ne_true, towardZero_of_nonneg nonneg]
    | true => rw [if_pos rfl, towardZero_neg nonneg, Int.cast_neg, neg_inj]
  | _ => cases reads

end Reading
end Number
end Arbor
