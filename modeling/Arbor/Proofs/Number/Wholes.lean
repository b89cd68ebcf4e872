import Arbor.Number.Arithmetic
import Arbor.Proofs.Number.Amounts
import Arbor.Proofs.Number.Rounding
import Mathlib

/-!
# Whole numbers among singles and doubles

The pattern of a whole number has the bits of the number behind its first one as the mantissa, and
the number of these bits in the exponent.  A pattern like this is unpacked as it was packed, and the
formats of the program read and write it as the number that it stands for.  So reading a whole
single into a double and storing a whole double as a single change nothing (`widen_wholeSingle`,
`narrow_wholeDouble`), provided that the number is within the precision of singles.
-/

namespace Arbor
namespace Number

open Float.Model (UnpackedFloat)
open Float.Model.UnpackedFloat

variable {spec : Float.Model.Format} {sign : Sign} {size places : Nat} {whole : Int}

/-! ## Patterns -/

theorem toNat_packComponents (sign : Sign) (exponent : BitVec spec.exponentBits)
    (mantissa : BitVec spec.mantissaBitsWithoutImplicit) :
    (packComponents spec sign exponent mantissa).toNat =
      (sign.toBitVec.toNat * 2 ^ spec.exponentBits + exponent.toNat) *
        2 ^ spec.mantissaBitsWithoutImplicit + mantissa.toNat := by
  unfold packComponents
  rw [BitVec.toNat_append, BitVec.toNat_append, ← Nat.shiftLeft_add_eq_or_of_lt exponent.isLt,
    ← Nat.shiftLeft_add_eq_or_of_lt mantissa.isLt, Nat.shiftLeft_eq, Nat.shiftLeft_eq]

/-- The bias of the exponent of a roomy format leaves room on both sides. -/
theorem Roomy.bias (roomy : Roomy spec) :
    spec.exponentBias + 1 = 2 ^ (spec.exponentBits - 1) ∧
      2 * (spec.exponentBias + 1) = 2 ^ spec.exponentBits ∧
      spec.mantissaBits ≤ spec.exponentBias + 1 ∧ 1 ≤ spec.exponentBias := by
  have some := spec.hm
  have wide : spec.mantissaBits = 1 + spec.mantissaBitsWithoutImplicit := rfl
  have power : 2 * 2 ^ (spec.exponentBits - 1) = 2 ^ spec.exponentBits := by
    rw [← Nat.pow_succ', Nat.succ_eq_add_one, Nat.sub_add_cancel spec.he]
  have unit := Nat.two_pow_pos (spec.exponentBits - 1)
  unfold Roomy at roomy
  unfold Float.Model.Format.exponentBias
  omega

/-- The mantissa with which a whole number is kept fills its bits. -/
theorem scaled_bounds (pos : 0 < size) (small : size < 2 ^ spec.mantissaBits) :
    2 ^ spec.mantissaBitsWithoutImplicit ≤ size * 2 ^ spare spec size ∧
      size * 2 ^ spare spec size < 2 * 2 ^ spec.mantissaBitsWithoutImplicit := by
  have nonzero : size * 2 ^ spare spec size ≠ 0 :=
    Nat.pos_iff_ne_zero.mp (Nat.mul_pos pos (Nat.two_pow_pos _))
  have wide : spec.mantissaBits = 1 + spec.mantissaBitsWithoutImplicit := rfl
  have full := log2_scaled pos small
  have bits : (size * 2 ^ spare spec size).log2 = spec.mantissaBitsWithoutImplicit := by omega
  rw [Nat.log2_eq_iff nonzero, Nat.pow_succ'] at bits
  exact bits

/-- The first bit of the mantissa of a whole number is not kept. -/
theorem scaled_mod (pos : 0 < size) (small : size < 2 ^ spec.mantissaBits) :
    (BitVec.ofNat spec.mantissaBitsWithoutImplicit (size * 2 ^ spare spec size)).toNat =
      size * 2 ^ spare spec size - 2 ^ spec.mantissaBitsWithoutImplicit := by
  rcases scaled_bounds pos small with ⟨above, below⟩
  have rest : size * 2 ^ spare spec size - 2 ^ spec.mantissaBitsWithoutImplicit <
      2 ^ spec.mantissaBitsWithoutImplicit := by omega
  rw [BitVec.toNat_ofNat, Nat.mod_eq_sub_mod above, Nat.mod_eq_of_lt rest]

theorem toNat_field (roomy : Roomy spec) (pos : 0 < size) (small : size < 2 ^ spec.mantissaBits) :
    (BitVec.ofNat spec.exponentBits (size.log2 + spec.exponentBias)).toNat =
      size.log2 + spec.exponentBias := by
  have bits := log2_lt_mantissaBits pos small
  rcases roomy.bias with ⟨-, power, room, -⟩
  have fits : size.log2 + spec.exponentBias < 2 ^ spec.exponentBits := by omega
  rw [BitVec.toNat_ofNat, Nat.mod_eq_of_lt fits]

/-- The fields with which a whole number is packed. -/
theorem pack_ofInt (roomy : Roomy spec) (nonzero : whole ≠ 0)
    (small : whole.natAbs < 2 ^ spec.mantissaBits) :
    pack spec (ofInt spec whole) = packComponents spec (signOf whole)
      (BitVec.ofNat _ (whole.natAbs.log2 + spec.exponentBias))
      (BitVec.ofNat _ (whole.natAbs * 2 ^ spare spec whole.natAbs)) := by
  have pos := Int.natAbs_pos.mpr nonzero
  have bits := log2_lt_mantissaBits pos small
  have full := log2_scaled pos small
  have wide : spec.mantissaBits = 1 + spec.mantissaBitsWithoutImplicit := rfl
  rcases roomy.bias with ⟨-, power, room, -⟩
  have biased : (-(spare spec whole.natAbs : Int) + spec.exponentBias +
      spec.mantissaBitsWithoutImplicit).toNat = whole.natAbs.log2 + spec.exponentBias := by
    unfold spare
    omega
  have fits : ¬ 2 ^ spec.exponentBits ≤ whole.natAbs.log2 + spec.exponentBias + 1 := by omega
  rw [ofInt_whole roomy nonzero small]
  change (if 2 ^ spec.exponentBits ≤ (-(spare spec whole.natAbs : Int) + spec.exponentBias +
      spec.mantissaBitsWithoutImplicit).toNat + 1 then _
    else if (whole.natAbs * 2 ^ spare spec whole.natAbs).log2 + 1 = spec.mantissaBits then
      packComponents spec (signOf whole) (BitVec.ofNat _ (-(spare spec whole.natAbs : Int) +
        spec.exponentBias + spec.mantissaBitsWithoutImplicit).toNat) _
    else _) = _
  rw [biased, if_neg fits, if_pos full]

theorem ofInt_zero (spec : Float.Model.Format) : ofInt spec 0 = .zero .positive := rfl

/-- The fields of a number that is neither zero nor very small, infinite or no number at all. -/
theorem unpack_packComponents {field : BitVec spec.exponentBits}
    {fraction : BitVec spec.mantissaBitsWithoutImplicit} {mantissa : Nat} {exponent : Int}
    (sign : Sign) (plain : field ≠ -1#_) (normal : field ≠ 0#_) (pos : 0 < mantissa)
    (whole : (1#1 ++ fraction).toNat = mantissa)
    (place : (field.toNat : Int) - (spec.exponentBias + spec.mantissaBitsWithoutImplicit) =
      exponent) :
    unpack spec (packComponents spec sign field fraction) =
      .finite sign mantissa exponent pos := by
  have fields : unpackExponent (packComponents spec sign field fraction) = field :=
    unpackExponent_packComponents
  have fractions : unpackMantissa (packComponents spec sign field fraction) = fraction :=
    unpackMantissa_packComponents
  have kept : Sign.ofBitVec (unpackSign (packComponents spec sign field fraction)) = sign := by
    rw [unpackSign_packComponents, Sign.ofBitVec_toBitVec]
  subst whole place
  unfold unpack
  refine (if_neg (fields.symm ▸ plain)).trans ((if_neg (fields.symm ▸ normal)).trans ?_)
  rw [kept]
  exact finite_congr (by rw [fractions]) (by rw [fields]) _ _

/-- A whole number is unpacked as it was packed. -/
theorem unpack_pack_ofInt (roomy : Roomy spec) (small : whole.natAbs < 2 ^ spec.mantissaBits) :
    unpack spec (pack spec (ofInt spec whole)) = ofInt spec whole := by
  rcases roomy.bias with ⟨-, power, room, some⟩
  by_cases zero : whole = 0
  · subst zero
    exact unpack_packedZero
  · have pos := Int.natAbs_pos.mpr zero
    have bits := log2_lt_mantissaBits pos small
    have above := (scaled_bounds pos small).1
    have wide : spec.mantissaBits = 1 + spec.mantissaBitsWithoutImplicit := rfl
    have field := toNat_field roomy pos small
    have plain : BitVec.ofNat spec.exponentBits (whole.natAbs.log2 + spec.exponentBias) ≠ -1#_ := by
      rw [BitVec.neg_one_eq_allOnes, ne_eq, ← BitVec.toNat_inj, BitVec.toNat_allOnes, field]
      omega
    have normal : BitVec.ofNat spec.exponentBits (whole.natAbs.log2 + spec.exponentBias) ≠ 0#_ := by
      rw [ne_eq, ← BitVec.toNat_inj, field, BitVec.toNat_zero]
      omega
    have mantissa : (1#1 ++ BitVec.ofNat spec.mantissaBitsWithoutImplicit
        (whole.natAbs * 2 ^ spare spec whole.natAbs)).toNat =
          whole.natAbs * 2 ^ spare spec whole.natAbs := by
      rw [BitVec.toNat_append, ← Nat.shiftLeft_add_eq_or_of_lt (BitVec.isLt _),
        scaled_mod pos small, BitVec.toNat_ofNat, Nat.shiftLeft_eq, Nat.mod_eq_of_lt (by decide),
        Nat.one_mul]
      omega
    have exponent : ((whole.natAbs.log2 + spec.exponentBias : Nat) : Int) -
        (spec.exponentBias + spec.mantissaBitsWithoutImplicit) = -spare spec whole.natAbs := by
      unfold spare
      omega
    rw [← field] at exponent
    rw [pack_ofInt roomy zero small, ofInt_whole roomy zero small]
    exact unpack_packComponents (signOf whole) plain normal _ mantissa exponent

/-! ## Readings of patterns -/

/-- The format as it is read and written. -/
def formatOf (spec : Float.Model.Format) : Format := ⟨spec.mantissaBits, spec.exponentBits⟩

theorem mantissas_formatOf (spec : Float.Model.Format) :
    (formatOf spec).mantissas = 2 ^ spec.mantissaBitsWithoutImplicit := by
  have wide : spec.mantissaBits - 1 = spec.mantissaBitsWithoutImplicit := by
    unfold Float.Model.Format.mantissaBits
    omega
  unfold Format.mantissas formatOf
  rw [wide]
  rfl

theorem roundQuotient_mul (number : Nat) {unit : Nat} (pos : 0 < unit) :
    roundQuotient (number * unit) unit = number := by
  unfold roundQuotient
  rw [Nat.mul_div_cancel number pos, Nat.mul_mod_left]
  exact if_pos pos

theorem leastExponent_formatOf (roomy : Roomy spec) :
    (formatOf spec).leastExponent = 2 - spec.exponentBias - spec.mantissaBits := by
  have power : ((2 ^ (spec.exponentBits - 1) : Nat) : Int) = spec.exponentBias + 1 := by
    exact_mod_cast roomy.bias.1.symm
  have weight : Int.pow 2 (spec.exponentBits - 1) = spec.exponentBias + 1 := by
    rw [← power]
    exact (Int.natCast_pow 2 _).symm
  change 3 - Int.pow 2 (spec.exponentBits - 1) - (spec.mantissaBits : Int) = _
  rw [weight]
  omega

theorem infinity_formatOf (spec : Float.Model.Format) :
    (formatOf spec).infinity =
      (2 ^ spec.exponentBits - 1) * 2 ^ spec.mantissaBitsWithoutImplicit := by
  unfold Format.infinity
  rw [mantissas_formatOf]
  rfl

theorem signWeight_formatOf (spec : Float.Model.Format) :
    (formatOf spec).signWeight =
      2 ^ spec.exponentBits * 2 ^ spec.mantissaBitsWithoutImplicit := by
  unfold Format.signWeight
  rw [mantissas_formatOf]
  rfl

/-- The magnitude with which a whole number is kept: the exponent in front of the mantissa. -/
def wholePattern (spec : Float.Model.Format) (size : Nat) : Nat :=
  if size = 0 then 0
  else (size.log2 + spec.exponentBias) * 2 ^ spec.mantissaBitsWithoutImplicit +
    (size * 2 ^ spare spec size - 2 ^ spec.mantissaBitsWithoutImplicit)

theorem wholePattern_lt_infinity (roomy : Roomy spec) (small : size < 2 ^ spec.mantissaBits) :
    wholePattern spec size < (formatOf spec).infinity := by
  rcases roomy.bias with ⟨-, power, room, some⟩
  have unit := Nat.two_pow_pos spec.mantissaBitsWithoutImplicit
  rw [infinity_formatOf]
  unfold wholePattern
  split
  · exact Nat.mul_pos (by omega) unit
  · next nonzero =>
    have pos := Nat.pos_of_ne_zero nonzero
    have bits := log2_lt_mantissaBits pos small
    have below := (scaled_bounds pos small).2
    have fields : size.log2 + spec.exponentBias + 1 ≤ 2 ^ spec.exponentBits - 1 := by omega
    have patterns := Nat.mul_le_mul_right (2 ^ spec.mantissaBitsWithoutImplicit) fields
    rw [Nat.add_mul _ 1, Nat.one_mul] at patterns
    omega

/-- The fields of the pattern of a whole number. -/
theorem wholePattern_fields (pos : 0 < size) (small : size < 2 ^ spec.mantissaBits) :
    wholePattern spec size / 2 ^ spec.mantissaBitsWithoutImplicit =
        size.log2 + spec.exponentBias ∧
      2 ^ spec.mantissaBitsWithoutImplicit +
        wholePattern spec size % 2 ^ spec.mantissaBitsWithoutImplicit =
          size * 2 ^ spare spec size := by
  rcases scaled_bounds pos small with ⟨above, below⟩
  have rest : size * 2 ^ spare spec size - 2 ^ spec.mantissaBitsWithoutImplicit <
      2 ^ spec.mantissaBitsWithoutImplicit := by omega
  unfold wholePattern
  rw [if_neg (Nat.pos_iff_ne_zero.mp pos), Nat.mul_comm _ (2 ^ _)]
  constructor
  · rw [Nat.mul_add_div (Nat.two_pow_pos _), Nat.div_eq_of_lt rest, Nat.add_zero]
  · rw [Nat.mul_add_mod, Nat.mod_eq_of_lt rest, Nat.add_sub_cancel' above]

/-- Moving a whole number to other places neither adds to it nor drops anything of it. -/
theorem rescaled (size kept places : Nat) :
    (if -(kept : Int) ≤ -places then
      size * 2 ^ places * Nat.pow 2 (-(places : Int) - -kept).toNat
      else roundQuotient (size * 2 ^ places) (Nat.pow 2 (-(kept : Int) - -places).toNat)) =
        size * 2 ^ kept := by
  split
  · have apart : (-(places : Int) - -kept).toNat = kept - places := by omega
    have exponents : places + (kept - places) = kept := by omega
    rw [apart, Nat.pow_eq, Nat.mul_assoc, ← Nat.pow_add, exponents]
  · have apart : (-(kept : Int) - -places).toNat = places - kept := by omega
    have exponents : kept + (places - kept) = places := by omega
    rw [apart, Nat.pow_eq]
    nth_rewrite 1 [← exponents]
    rw [Nat.pow_add, ← Nat.mul_assoc]
    exact roundQuotient_mul _ (Nat.two_pow_pos _)

/-- The pattern of a whole number is the same with however many places it is written. -/
theorem roundMagnitude_scaled (roomy : Roomy spec) (small : size < 2 ^ spec.mantissaBits)
    (places : Nat) :
    (formatOf spec).roundMagnitude (size * 2 ^ places) (-places) = wholePattern spec size := by
  by_cases zero : size = 0
  · subst zero
    rw [Nat.zero_mul]
    rfl
  · have pos := Nat.pos_of_ne_zero zero
    have bits := log2_lt_mantissaBits pos small
    have above := (scaled_bounds pos small).1
    rcases roomy.bias with ⟨-, power, room, some⟩
    have nonzero : size * 2 ^ places ≠ 0 :=
      Nat.pos_iff_ne_zero.mp (Nat.mul_pos pos (Nat.two_pow_pos _))
    have last : max (-(places : Int) + ((size * 2 ^ places).log2 + 1) - (formatOf spec).precision)
        (formatOf spec).leastExponent = -spare spec size := by
      have precision : (formatOf spec).precision = spec.mantissaBits := rfl
      rw [log2_mul_two_pow pos, leastExponent_formatOf roomy, precision]
      unfold spare
      omega
    have field : (-(spare spec size : Int) - (formatOf spec).leastExponent).toNat + 1 =
        size.log2 + spec.exponentBias := by
      rw [leastExponent_formatOf roomy]
      unfold spare
      omega
    have finite := Nat.le_of_lt (wholePattern_lt_infinity roomy small)
    have pattern : (-(spare spec size : Int) - (formatOf spec).leastExponent).toNat *
        (formatOf spec).mantissas + size * 2 ^ spare spec size = wholePattern spec size := by
      unfold wholePattern
      rw [if_neg zero, mantissas_formatOf, ← field, Nat.add_mul, Nat.one_mul]
      omega
    unfold Format.roundMagnitude
    rw [if_neg nonzero]
    simp only [last]
    rw [rescaled, pattern]
    exact Nat.min_eq_right finite

/-- The pattern that a whole number is packed into is the one that is written for it. -/
theorem toNat_pack_ofInt (roomy : Roomy spec) (small : whole.natAbs < 2 ^ spec.mantissaBits)
    (places : Nat) :
    (pack spec (ofInt spec whole)).toNat = (formatOf spec).write
      (.finite (decide (whole < 0)) (whole.natAbs * 2 ^ places) (-places)) := by
  change _ = (if decide (whole < 0) = true then (formatOf spec).signWeight else 0) +
    (formatOf spec).roundMagnitude (whole.natAbs * 2 ^ places) (-places)
  rw [roundMagnitude_scaled roomy small, signWeight_formatOf]
  by_cases zero : whole = 0
  · subst zero
    rw [ofInt_zero]
    change (packComponents spec .positive 0 0).toNat = _
    rw [toNat_packComponents]
    simp [wholePattern, Sign.toBitVec]
  · have pos := Int.natAbs_pos.mpr zero
    have sign : (signOf whole).toBitVec.toNat * 2 ^ spec.exponentBits *
        2 ^ spec.mantissaBitsWithoutImplicit = if decide (whole < 0) = true then
          2 ^ spec.exponentBits * 2 ^ spec.mantissaBitsWithoutImplicit else 0 := by
      unfold signOf
      by_cases negative : whole < 0 <;> simp [negative, Sign.toBitVec]
    rw [pack_ofInt roomy zero small, toNat_packComponents, toNat_field roomy pos small,
      scaled_mod pos small, Nat.add_mul, sign, wholePattern, if_neg (Nat.pos_iff_ne_zero.mp pos)]
    omega

/-- A pattern below infinity is read field by field, whatever its sign is. -/
theorem read_signed {pattern : Nat} (negative : Bool)
    (finite : pattern < (formatOf spec).infinity) :
    (formatOf spec).read ((if negative then (formatOf spec).signWeight else 0) + pattern) =
      if pattern / (formatOf spec).mantissas = 0 then
        .finite negative (pattern % (formatOf spec).mantissas) (formatOf spec).leastExponent
      else .finite negative
        ((formatOf spec).mantissas + pattern % (formatOf spec).mantissas)
        ((formatOf spec).leastExponent + (pattern / (formatOf spec).mantissas : Nat) - 1) := by
  have within : (formatOf spec).infinity ≤ (formatOf spec).signWeight := by
    rw [infinity_formatOf, signWeight_formatOf]
    exact Nat.mul_le_mul_right _ (Nat.sub_le _ _)
  have magnitude : ((if negative then (formatOf spec).signWeight else 0) + pattern) %
      (formatOf spec).signWeight = pattern := by
    cases negative
    · simp [Nat.mod_eq_of_lt (finite.trans_le within)]
    · simp [Nat.mod_eq_of_lt (finite.trans_le within)]
  have sign : decide ((formatOf spec).signWeight ≤
      (if negative then (formatOf spec).signWeight else 0) + pattern) = negative := by
    cases negative
    · simp [finite.trans_le within]
    · simp
  unfold Format.read
  simp only [magnitude, sign]
  rw [if_neg (Nat.lt_asymm finite), if_neg (Nat.ne_of_gt finite)]

/-- The pattern of a whole number is read as that number. -/
theorem read_pack_ofInt (roomy : Roomy spec) (small : whole.natAbs < 2 ^ spec.mantissaBits) :
    ∃ places : Nat, (formatOf spec).read (pack spec (ofInt spec whole)).toNat =
      .finite (decide (whole < 0)) (whole.natAbs * 2 ^ places) (-places) := by
  have least := leastExponent_formatOf roomy
  rcases roomy.bias with ⟨-, power, room, some⟩
  rw [toNat_pack_ofInt roomy small 0]
  change ∃ places : Nat, (formatOf spec).read
    ((if decide (whole < 0) = true then (formatOf spec).signWeight else 0) +
      (formatOf spec).roundMagnitude (whole.natAbs * 2 ^ 0) (-(0 : Nat))) = _
  rw [roundMagnitude_scaled roomy small,
    read_signed _ (wholePattern_lt_infinity roomy small), mantissas_formatOf]
  by_cases zero : whole = 0
  · subst zero
    refine ⟨(spec.exponentBias + spec.mantissaBits - 2), ?_⟩
    have exponent : -((spec.exponentBias + spec.mantissaBits - 2 : Nat) : Int) =
        (formatOf spec).leastExponent := by
      rw [least]
      have wide : spec.mantissaBits = 1 + spec.mantissaBitsWithoutImplicit := rfl
      have some := spec.hm
      omega
    rw [exponent]
    simp [wholePattern]
  · have pos := Int.natAbs_pos.mpr zero
    rcases wholePattern_fields pos small with ⟨field, mantissa⟩
    have bits := log2_lt_mantissaBits pos small
    have normal : whole.natAbs.log2 + spec.exponentBias ≠ 0 := by omega
    have exponent : (formatOf spec).leastExponent +
        (whole.natAbs.log2 + spec.exponentBias : Nat) - 1 = -spare spec whole.natAbs := by
      rw [least]
      unfold spare
      omega
    refine ⟨spare spec whole.natAbs, ?_⟩
    rw [field, if_neg normal, exponent, mantissa]

/-! ## Doubles and singles -/

theorem binary32_roomy : Roomy .binary32 := by unfold Roomy; decide

theorem binary64_roomy : Roomy .binary64 := by unfold Roomy; decide

/-- A whole number as a double. -/
def wholeDouble (whole : Int) : Float := .ofModel (.ofInt whole)

/-- A whole number as a single. -/
def wholeSingle (whole : Int) : Float32 := .ofModel (.ofInt whole)

theorem wholeDouble_add {left right : Int} (leftSmall : left.natAbs < 2 ^ 53)
    (rightSmall : right.natAbs < 2 ^ 53) (small : (left + right).natAbs < 2 ^ 53) :
    wholeDouble left + wholeDouble right = wholeDouble (left + right) := by
  change Float.ofModel (.pack (add .binary64
    (unpack .binary64 (pack .binary64 (ofInt .binary64 left)))
    (unpack .binary64 (pack .binary64 (ofInt .binary64 right))))) = _
  rw [unpack_pack_ofInt binary64_roomy leftSmall, unpack_pack_ofInt binary64_roomy rightSmall,
    add_ofInt binary64_roomy leftSmall rightSmall small]
  rfl

theorem wholeDouble_sub {left right : Int} (nonzero : right ≠ 0) (leftSmall : left.natAbs < 2 ^ 53)
    (rightSmall : right.natAbs < 2 ^ 53) (small : (left - right).natAbs < 2 ^ 53) :
    wholeDouble left - wholeDouble right = wholeDouble (left - right) := by
  change Float.ofModel (.pack (sub .binary64
    (unpack .binary64 (pack .binary64 (ofInt .binary64 left)))
    (unpack .binary64 (pack .binary64 (ofInt .binary64 right))))) = _
  rw [unpack_pack_ofInt binary64_roomy leftSmall, unpack_pack_ofInt binary64_roomy rightSmall,
    sub_ofInt binary64_roomy nonzero leftSmall rightSmall small]
  rfl

theorem wholeDouble_neg (nonzero : whole ≠ 0) (small : whole.natAbs < 2 ^ 53) :
    -wholeDouble whole = wholeDouble (-whole) := by
  change Float.ofModel (.pack (unpack .binary64 (pack .binary64 (ofInt .binary64 whole))).neg) = _
  rw [unpack_pack_ofInt binary64_roomy small, ← ofInt_neg binary64_roomy nonzero small]
  rfl

/-- The double whose pattern is the magnitude of a whole number. -/
theorem ofBits_roundMagnitude (small : size < 2 ^ 53) :
    Float.ofBits (.ofNat (double.roundMagnitude size 0)) = wholeDouble size := by
  have fits : (size : Int).natAbs < 2 ^ 53 := small
  have packed := toNat_pack_ofInt binary64_roomy fits 0
  have plain : ¬ (size : Int) < 0 := Int.not_lt.mpr (Int.natCast_nonneg size)
  have pattern : double.roundMagnitude size 0 = (wholeDouble size).toBits.toNat := by
    rw [decide_eq_false plain, Int.natAbs_natCast, Nat.pow_zero, Nat.mul_one] at packed
    exact (packed.trans (Nat.zero_add _)).symm
  rw [pattern, UInt64.ofNat_toNat, Float.ofBits_toBits]

/-- A whole single keeps its value when it is widened. -/
theorem widen_wholeSingle (small : whole.natAbs < 2 ^ 24) :
    widen (wholeSingle whole) = wholeDouble whole := by
  have fits : whole.natAbs < 2 ^ 53 := small.trans (by decide)
  rcases read_pack_ofInt binary32_roomy small with ⟨places, read⟩
  have reading : readSingle (wholeSingle whole) =
      .finite (decide (whole < 0)) (whole.natAbs * 2 ^ places) (-places) := read
  have pattern : double.write (readSingle (wholeSingle whole)) =
      (wholeDouble whole).toBits.toNat := by
    rw [reading]
    exact (toNat_pack_ofInt binary64_roomy fits places).symm
  unfold widen
  rw [pattern, UInt64.ofNat_toNat, Float.ofBits_toBits]

/-- A whole double keeps its value when it is stored, if it is below the singles' precision. -/
theorem narrow_wholeDouble (small : whole.natAbs < 2 ^ 24) :
    narrow (wholeDouble whole) = wholeSingle whole := by
  have fits : whole.natAbs < 2 ^ 53 := small.trans (by decide)
  rcases read_pack_ofInt binary64_roomy fits with ⟨places, read⟩
  have reading : readDouble (wholeDouble whole) =
      .finite (decide (whole < 0)) (whole.natAbs * 2 ^ places) (-places) := read
  have pattern : single.write (readDouble (wholeDouble whole)) =
      (wholeSingle whole).toBits.toNat := by
    rw [reading]
    exact (toNat_pack_ofInt binary32_roomy small places).symm
  unfold narrow
  rw [pattern, UInt32.ofNat_toNat, Float32.ofBits_toBits]

/-- The number that a whole single stands for. -/
theorem amount_wholeSingle (small : whole.natAbs < 2 ^ 24) :
    (readSingle (wholeSingle whole)).amount? = some (whole : ℚ) := by
  rcases read_pack_ofInt binary32_roomy small with ⟨places, read⟩
  have reading : readSingle (wholeSingle whole) =
      .finite (decide (whole < 0)) (whole.natAbs * 2 ^ places) (-places) := read
  have size : magnitude (whole.natAbs * 2 ^ places) (-places) = whole.natAbs := by
    have unit : (2 : ℚ) ^ places ≠ 0 := pow_ne_zero places two_ne_zero
    rw [magnitude, Nat.cast_mul, Nat.cast_pow, Nat.cast_ofNat, zpow_neg, zpow_natCast,
      mul_assoc, mul_inv_cancel₀ unit, mul_one]
  rw [reading]
  change some (if decide (whole < 0) = true then -magnitude (whole.natAbs * 2 ^ places) (-places)
    else magnitude (whole.natAbs * 2 ^ places) (-places)) = _
  rw [size]
  by_cases negative : whole < 0
  · have flip : (whole.natAbs : ℤ) = -whole := Int.ofNat_natAbs_of_nonpos negative.le
    have same : (whole.natAbs : ℚ) = -whole := by rw [← Int.cast_natCast, flip, Int.cast_neg]
    rw [if_pos (decide_eq_true negative), same, neg_neg]
  · have keep : (whole.natAbs : ℤ) = whole := Int.natAbs_of_nonneg (Int.not_lt.mp negative)
    have same : (whole.natAbs : ℚ) = whole := by rw [← Int.cast_natCast, keep]
    have plain : ¬ decide (whole < 0) = true := by simpa using negative
    rw [if_neg plain, same]

end Number
end Arbor
