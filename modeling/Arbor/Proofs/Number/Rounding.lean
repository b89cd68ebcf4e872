import Mathlib.Algebra.Order.Ring.Int
import Mathlib.Tactic.Positivity

/-!
# Rounding what need not be rounded

The numbers of a machine are added as a mantissa and an exponent, and the sum is rounded to the
mantissas of its format.  A whole number that does not have more bits than the format is kept as it
is, with however many places behind the point it is written (`round_scaled`).  So sums and
differences of whole numbers are whole numbers again, without any rounding, as long as they do not
grow too large (`add_ofInt`, `sub_ofInt`).  All of this holds of single and double numbers alike.
-/

namespace Arbor
namespace Number

open Float.Model (UnpackedFloat totalExponent)
open Float.Model.UnpackedFloat

variable {spec : Float.Model.Format} {sign : Sign} {mantissa places kept : Nat} {exponent : Int}

theorem finite_congr {other : Nat} {place : Int} (mantissas : mantissa = other)
    (exponents : exponent = place) (pos : 0 < mantissa) (positive : 0 < other) :
    UnpackedFloat.finite sign mantissa exponent pos = .finite sign other place positive := by
  subst mantissas exponents
  rfl

theorem log2_mul_two_pow (pos : 0 < mantissa) (places : Nat) :
    (mantissa * 2 ^ places).log2 = mantissa.log2 + places := by
  have positive : mantissa * 2 ^ places ≠ 0 := by positivity
  rw [Nat.log2_eq_iff positive]
  rcases (Nat.log2_eq_iff (Nat.pos_iff_ne_zero.mp pos)).mp rfl with ⟨above, below⟩
  have split : mantissa.log2 + places + 1 = (mantissa.log2 + 1) + places := by omega
  rw [split, Nat.pow_add, Nat.pow_add]
  exact ⟨Nat.mul_le_mul_right _ above, Nat.mul_lt_mul_of_pos_right below (Nat.two_pow_pos places)⟩

/-- Moving zeros out of a mantissa drops nothing. -/
theorem shiftRight_exact (mantissa places : Nat) :
    ExtendedMantissa.mk (mantissa * 2 ^ places) false false >>> places =
      ⟨mantissa, false, false⟩ := by
  change places.repeat ExtendedMantissa.shiftRightOne _ = _
  induction places generalizing mantissa with
  | zero => rw [Nat.pow_zero, Nat.mul_one]; rfl
  | succ places inductionHypothesis =>
    have split : mantissa * 2 ^ (places + 1) = mantissa * 2 * 2 ^ places := by
      rw [Nat.pow_succ, Nat.mul_assoc, Nat.mul_comm 2]
    rw [Nat.repeat, split, inductionHypothesis]
    simp [ExtendedMantissa.shiftRightOne]

theorem totalExponent_scaled (pos : 0 < mantissa) (places : Nat) (exponent : Int) :
    totalExponent (mantissa * 2 ^ places) (exponent - places) = totalExponent mantissa exponent := by
  unfold totalExponent
  rw [log2_mul_two_pow pos]
  omega

/-- The exponent is the one with which a number of this size is kept. -/
def Settled (spec : Float.Model.Format) (mantissa : Nat) (exponent : Int) : Prop :=
  spec.targetExponent (totalExponent mantissa exponent) = exponent

theorem shiftToTargetExponent_of_settled (settled : Settled spec mantissa exponent)
    (pos : 0 < mantissa) (places : Nat) :
    shiftToTargetExponent spec (mantissa * 2 ^ places) (exponent - places) .exact =
      (⟨mantissa, false, false⟩, exponent) := by
  have amount : (exponent - (exponent - places)).toNat = places := by omega
  have back : exponent - places + (places : Int) = exponent := by omega
  unfold shiftToTargetExponent shiftToExponent
  rw [totalExponent_scaled pos, settled]
  simp only [amount, back]
  exact Prod.ext (shiftRight_exact mantissa places) rfl

theorem roundWithAccuracy_of_settled (settled : Settled spec mantissa exponent)
    (pos : 0 < mantissa) (places : Nat) :
    roundWithAccuracy spec sign (mantissa * 2 ^ places) (exponent - places) .exact =
      .finite sign mantissa exponent pos := by
  have again := shiftToTargetExponent_of_settled settled pos 0
  rw [Nat.pow_zero, Nat.mul_one, Int.natCast_zero, Int.sub_zero] at again
  have rounded : (ExtendedMantissa.mk mantissa false false).roundedMantissa = mantissa := rfl
  unfold roundWithAccuracy
  rw [shiftToTargetExponent_of_settled settled pos places]
  dsimp only
  rw [rounded, again]
  exact dif_neg (Nat.pos_iff_ne_zero.mp pos)

/-- A whole number that a format can keep is kept, with however many places it is written. -/
theorem round_scaled {size : Nat} (pos : 0 < size * 2 ^ kept)
    (settled : Settled spec (size * 2 ^ kept) (-kept)) (places : Nat) :
    UnpackedFloat.round spec sign (size * 2 ^ places) (-places) =
      .finite sign (size * 2 ^ kept) (-kept) pos := by
  have nonzero : 0 < size := Nat.pos_of_mul_pos_right pos
  have same : totalExponent (size * 2 ^ places) (-places) =
      totalExponent (size * 2 ^ kept) (-kept) := by
    rw [← Int.zero_sub, ← Int.zero_sub, totalExponent_scaled nonzero, totalExponent_scaled nonzero]
  have amount : ((-places : Int) - -kept).toNat = kept - places := by omega
  have mantissas : size * 2 ^ places * 2 ^ (kept - places) =
      size * 2 ^ kept * 2 ^ (places - kept) := by
    have exponents : places + (kept - places) = kept + (places - kept) := by omega
    rw [Nat.mul_assoc, Nat.mul_assoc, ← Nat.pow_add, ← Nat.pow_add, exponents]
  have exponents : (-places : Int) - (kept - places : Nat) = -kept - (places - kept : Nat) := by
    omega
  have moved : decreaseExponent (size * 2 ^ places) (-places) (-kept) =
      (size * 2 ^ kept * 2 ^ (places - kept), -(kept : Int) - (places - kept : Nat)) := by
    simp only [decreaseExponent, amount, Nat.shiftLeft_eq, mantissas, exponents]
  unfold UnpackedFloat.round
  rw [same, settled]
  dsimp only
  rw [moved]
  exact roundWithAccuracy_of_settled settled pos _

/-! ## Whole numbers -/

/-- The places that are left for a fraction behind the bits of a number. -/
def spare (spec : Float.Model.Format) (size : Nat) : Nat := spec.mantissaBits - 1 - size.log2

/-- Formats whose exponents go far beyond their mantissas. -/
def Roomy (spec : Float.Model.Format) : Prop :=
  spec.mantissaBits ≤ 2 ^ (spec.exponentBits - 1)

theorem log2_lt_mantissaBits {size : Nat} (pos : 0 < size) (small : size < 2 ^ spec.mantissaBits) :
    size.log2 < spec.mantissaBits := (Nat.log2_lt (Nat.pos_iff_ne_zero.mp pos)).mpr small

theorem log2_scaled {size : Nat} (pos : 0 < size) (small : size < 2 ^ spec.mantissaBits) :
    (size * 2 ^ spare spec size).log2 + 1 = spec.mantissaBits := by
  have bits := log2_lt_mantissaBits pos small
  rw [log2_mul_two_pow pos, spare]
  omega

theorem settled_whole (roomy : Roomy spec) {size : Nat} (pos : 0 < size)
    (small : size < 2 ^ spec.mantissaBits) :
    Settled spec (size * 2 ^ spare spec size) (-spare spec size) := by
  have bits := log2_lt_mantissaBits pos small
  have full := log2_scaled pos small
  have wide : 2 ≤ spec.mantissaBits := by
    have some := spec.hm
    unfold Float.Model.Format.mantissaBits
    omega
  have room : (2 : Int) ≤ 2 ^ (spec.exponentBits - 1) := by
    have natural : 2 ≤ 2 ^ (spec.exponentBits - 1) := wide.trans roomy
    exact_mod_cast natural
  have total : totalExponent (size * 2 ^ spare spec size) (-spare spec size) -
      spec.mantissaBits = -spare spec size := by
    unfold totalExponent
    omega
  have least : spec.minExponent ≤ -spare spec size := by
    unfold Float.Model.Format.minExponent
    unfold spare
    omega
  unfold Settled Float.Model.Format.targetExponent
  rw [total]
  exact Int.max_eq_left least

/-- The sign with which a whole number is kept. -/
def signOf (whole : Int) : Sign := if whole < 0 then .negative else .positive

theorem apply_signOf (whole : Int) : (signOf whole).apply whole.natAbs = whole := by
  unfold signOf
  split
  · change -(whole.natAbs : Int) = whole
    omega
  · change (whole.natAbs : Int) = whole
    omega

/-- Rounding keeps a whole number that does not have too many bits. -/
theorem normalize_whole (roomy : Roomy spec) {whole : Int} (nonzero : whole ≠ 0)
    (small : whole.natAbs < 2 ^ spec.mantissaBits) (places : Nat) (zeroSign : Sign) :
    UnpackedFloat.normalize spec (whole * 2 ^ places) (-places) zeroSign =
      .finite (signOf whole) (whole.natAbs * 2 ^ spare spec whole.natAbs)
        (-spare spec whole.natAbs)
        (Nat.mul_pos (Int.natAbs_pos.mpr nonzero) (Nat.two_pow_pos _)) := by
  have settled := settled_whole roomy (Int.natAbs_pos.mpr nonzero) small
  have pos : 0 < whole.natAbs * 2 ^ spare spec whole.natAbs :=
    Nat.mul_pos (Int.natAbs_pos.mpr nonzero) (Nat.two_pow_pos _)
  have unit : (0 : Int) < 2 ^ places := by positivity
  rcases Int.lt_or_gt_of_ne nonzero with negative | positive
  · have below : compare (whole * 2 ^ places) 0 = .lt :=
      Int.compare_eq_lt.mpr (Int.mul_neg_of_neg_of_pos negative unit)
    have size : (-(whole * 2 ^ places)).toNat = whole.natAbs * 2 ^ places := by
      have flip : -(whole * 2 ^ places) = (whole.natAbs * 2 ^ places : Nat) := by
        rw [← Int.neg_mul, Int.natCast_mul, Int.natCast_pow, Int.ofNat_natAbs_of_nonpos negative.le]
        rfl
      rw [flip, Int.toNat_natCast]
    have sign : signOf whole = .negative := if_pos negative
    unfold UnpackedFloat.normalize
    rw [below, sign]
    change UnpackedFloat.round spec .negative (-(whole * 2 ^ places)).toNat (-places) = _
    rw [size]
    exact round_scaled pos settled places
  · have above : compare (whole * 2 ^ places) 0 = .gt :=
      Int.compare_eq_gt.mpr (Int.mul_pos positive unit)
    have size : (whole * 2 ^ places).toNat = whole.natAbs * 2 ^ places := by
      have same : whole * 2 ^ places = (whole.natAbs * 2 ^ places : Nat) := by
        rw [Int.natCast_mul, Int.natCast_pow, Int.natAbs_of_nonneg positive.le]
        rfl
      rw [same, Int.toNat_natCast]
    have sign : signOf whole = .positive := if_neg positive.le.not_gt
    unfold UnpackedFloat.normalize
    rw [above, sign]
    change UnpackedFloat.round spec .positive (whole * 2 ^ places).toNat (-places) = _
    rw [size]
    exact round_scaled pos settled places

/-- Whole numbers are rounded to themselves. -/
theorem normalize_scaled (roomy : Roomy spec) {whole : Int}
    (small : whole.natAbs < 2 ^ spec.mantissaBits) (places : Nat) :
    UnpackedFloat.normalize spec (whole * 2 ^ places) (-places) .positive = ofInt spec whole := by
  by_cases zero : whole = 0
  · subst zero
    rw [Int.zero_mul]
    rfl
  · have plain := normalize_whole roomy zero small 0 .positive
    rw [Int.pow_zero, Int.mul_one, Int.natCast_zero, Int.neg_zero] at plain
    rw [normalize_whole roomy zero small places, ofInt, plain]

theorem ofInt_whole (roomy : Roomy spec) {whole : Int} (nonzero : whole ≠ 0)
    (small : whole.natAbs < 2 ^ spec.mantissaBits) :
    ofInt spec whole = .finite (signOf whole) (whole.natAbs * 2 ^ spare spec whole.natAbs)
      (-spare spec whole.natAbs)
      (Nat.mul_pos (Int.natAbs_pos.mpr nonzero) (Nat.two_pow_pos _)) := by
  rw [← normalize_scaled roomy small 0]
  exact normalize_whole roomy nonzero small 0 .positive

/-- A whole number with its sign, written with more places. -/
theorem apply_decreaseExponent (whole : Int) {kept places : Nat} (more : kept ≤ places) :
    (signOf whole).apply (decreaseExponent (whole.natAbs * 2 ^ kept) (-kept) (-places)).1 =
      whole * 2 ^ places := by
  have amount : ((-kept : Int) - -places).toNat = places - kept := by omega
  have exponents : kept + (places - kept) = places := by omega
  have scaled : ∀ (sign : Sign) (size unit : Int), sign.apply (size * unit) =
      sign.apply size * unit := by
    intro sign size unit
    cases sign
    · exact (Int.neg_mul size unit).symm
    · rfl
  simp only [decreaseExponent, amount, Nat.shiftLeft_eq]
  rw [Nat.mul_assoc, ← Nat.pow_add, exponents, Int.natCast_mul, scaled, apply_signOf,
    Int.natCast_pow]
  rfl

/-- Finite numbers are added with the smaller of their exponents. -/
theorem add_finites {left right : Sign} {size other : Nat} {place elsewhere : Int} (pos : 0 < size)
    (positive : 0 < other) :
    add spec (.finite left size place pos) (.finite right other elsewhere positive) =
      UnpackedFloat.normalize spec
        (left.apply (decreaseExponent size place (min place elsewhere)).1 +
          right.apply (decreaseExponent other elsewhere (min place elsewhere)).1)
        (min place elsewhere) .positive := rfl

/-- Sums of whole numbers are exact as long as they do not have too many bits. -/
theorem add_ofInt (roomy : Roomy spec) {left right : Int}
    (leftSmall : left.natAbs < 2 ^ spec.mantissaBits)
    (rightSmall : right.natAbs < 2 ^ spec.mantissaBits)
    (small : (left + right).natAbs < 2 ^ spec.mantissaBits) :
    add spec (ofInt spec left) (ofInt spec right) = ofInt spec (left + right) := by
  by_cases leftZero : left = 0
  · subst leftZero
    rw [Int.zero_add]
    by_cases rightZero : right = 0
    · subst rightZero
      rfl
    · rw [ofInt_whole roomy rightZero rightSmall]
      rfl
  · by_cases rightZero : right = 0
    · subst rightZero
      rw [Int.add_zero, ofInt_whole roomy leftZero leftSmall]
      rfl
    · rw [ofInt_whole roomy leftZero leftSmall, ofInt_whole roomy rightZero rightSmall]
      let places := max (spare spec left.natAbs) (spare spec right.natAbs)
      have least : min (-spare spec left.natAbs : Int) (-spare spec right.natAbs) = -places := by
        omega
      rw [add_finites, least, apply_decreaseExponent left (Nat.le_max_left _ _),
        apply_decreaseExponent right (Nat.le_max_right _ _), ← Int.add_mul]
      exact normalize_scaled roomy small places

/-- To take a finite number away is to add it with the other sign. -/
theorem sub_finite (spec : Float.Model.Format) (value : UnpackedFloat) (pos : 0 < mantissa) :
    sub spec value (.finite sign mantissa exponent pos) =
      add spec value (.finite (-sign) mantissa exponent pos) := by
  have flip : ∀ whole : Int, (-sign).apply whole = -sign.apply whole := by
    intro whole
    cases sign
    · exact (Int.neg_neg whole).symm
    · rfl
  cases value with
  | finite =>
    rw [add_finites, flip, ← Int.sub_eq_add_neg]
    rfl
  | _ => rfl

/-- The other sign of a whole number. -/
theorem ofInt_neg (roomy : Roomy spec) {whole : Int} (nonzero : whole ≠ 0)
    (small : whole.natAbs < 2 ^ spec.mantissaBits) :
    ofInt spec (-whole) = (ofInt spec whole).neg := by
  have sign : signOf (-whole) = -signOf whole := by
    unfold signOf
    rcases Int.lt_or_gt_of_ne nonzero with negative | positive
    · have turned : ¬ -whole < 0 := by omega
      rw [if_pos negative, if_neg turned]
      rfl
    · have turned : -whole < 0 := by omega
      rw [if_neg positive.le.not_gt, if_pos turned]
      rfl
  have opposite := ofInt_whole roomy (Int.neg_ne_zero.mpr nonzero) (by rwa [Int.natAbs_neg])
  rw [opposite, ofInt_whole roomy nonzero small, sign]
  exact finite_congr (by rw [Int.natAbs_neg]) (by rw [Int.natAbs_neg]) _ _

/-- Differences are exact too, if something is taken away. -/
theorem sub_ofInt (roomy : Roomy spec) {left right : Int} (nonzero : right ≠ 0)
    (leftSmall : left.natAbs < 2 ^ spec.mantissaBits)
    (rightSmall : right.natAbs < 2 ^ spec.mantissaBits)
    (small : (left - right).natAbs < 2 ^ spec.mantissaBits) :
    sub spec (ofInt spec left) (ofInt spec right) = ofInt spec (left - right) := by
  have opposite := ofInt_neg roomy nonzero rightSmall
  rw [ofInt_whole roomy nonzero rightSmall] at opposite ⊢
  change ofInt spec (-right) = .finite (-signOf right) _ _ _ at opposite
  rw [sub_finite, ← opposite, Int.sub_eq_add_neg]
  exact add_ofInt roomy leftSmall (by rwa [Int.natAbs_neg]) (by rwa [← Int.sub_eq_add_neg])

end Number
end Arbor
