/-!
# Binary floating formats, read and written exactly

A finite number in a binary format is a whole mantissa times a power of two.  `Format.read` takes
a bit pattern apart into that form and `Format.write` puts a number of that form back, rounded to
the nearest pattern with ties to the even mantissa.  Everything here is arithmetic on `Nat` and
`Int`, so a statement about a bit pattern is a statement about whole numbers.  The pattern of a
number that is not a number carries no payload: all of them read the same.
-/

namespace Arbor
namespace Number

/-- The quotient `n / d` rounded to the nearest whole number; a quotient half way between two
whole numbers goes to the even one. -/
def roundQuotient (n d : Nat) : Nat :=
  let floor := n / d
  let rest := n % d
  if 2 * rest < d then floor
  else if d < 2 * rest then floor + 1
  else floor + floor % 2

/-- A binary interchange format: the bits of the significand, its leading one included, and the
width of the exponent field. -/
structure Format where
  precision : Nat
  exponentBits : Nat

/-- The 32-bit format in which vector components are kept. -/
def single : Format := ⟨24, 8⟩

/-- The 64-bit format in which lengths, angles and sums are worked out. -/
def double : Format := ⟨53, 11⟩

/-- What a bit pattern stands for.  A finite one is `mantissa * 2 ^ exponent` with a sign, which
zero has too. -/
inductive Reading where
  | nan
  | infinite (negative : Bool)
  | finite (negative : Bool) (mantissa : Nat) (exponent : Int)
  deriving DecidableEq, Repr

namespace Format

/-- The exponent of the last bit of the smallest numbers of the format. -/
def leastExponent (f : Format) : Int :=
  3 - Int.pow 2 (f.exponentBits - 1) - f.precision

/-- The number of mantissas that share one exponent. -/
def mantissas (f : Format) : Nat := Nat.pow 2 (f.precision - 1)

/-- The pattern of positive infinity, above the pattern of every finite magnitude. -/
def infinity (f : Format) : Nat := (Nat.pow 2 f.exponentBits - 1) * f.mantissas

/-- The weight of the sign bit. -/
def signWeight (f : Format) : Nat := Nat.pow 2 f.exponentBits * f.mantissas

/-- Take a bit pattern apart. -/
def read (f : Format) (bits : Nat) : Reading :=
  let negative := decide (f.signWeight ≤ bits)
  let magnitude := bits % f.signWeight
  let field := magnitude / f.mantissas
  let fraction := magnitude % f.mantissas
  if f.infinity < magnitude then .nan
  else if f.infinity = magnitude then .infinite negative
  else if field = 0 then .finite negative fraction f.leastExponent
  else .finite negative (f.mantissas + fraction) (f.leastExponent + field - 1)

/-- The pattern nearest to `mantissa * 2 ^ exponent`.  The last bit kept stands `precision` places
below the leading one, though never below `leastExponent`; counting patterns from there upwards, a
mantissa that rounds up to the next power of two lands on the next exponent by itself. -/
def roundMagnitude (f : Format) (mantissa : Nat) (exponent : Int) : Nat :=
  if mantissa = 0 then 0
  else
    let last := max (exponent + (mantissa.log2 + 1) - f.precision) f.leastExponent
    let kept :=
      if last ≤ exponent then mantissa * Nat.pow 2 (exponent - last).toNat
      else roundQuotient mantissa (Nat.pow 2 (last - exponent).toNat)
    min f.infinity ((last - f.leastExponent).toNat * f.mantissas + kept)

/-- The pattern that stands for a reading, rounded to nearest. -/
def write (f : Format) : Reading → Nat
  | .nan => f.infinity + f.mantissas / 2
  | .infinite negative => (if negative then f.signWeight else 0) + f.infinity
  | .finite negative mantissa exponent =>
    (if negative then f.signWeight else 0) + f.roundMagnitude mantissa exponent

end Format

namespace Reading

/-- The greatest whole number that is not above the one read.  A special value stays what it is,
and so does a zero with its sign. -/
def floor : Reading → Reading
  | .finite negative mantissa exponent =>
    if 0 ≤ exponent then .finite negative mantissa exponent
    else
      let unit := Nat.pow 2 (-exponent).toNat
      let whole := mantissa / unit
      .finite negative (if negative && mantissa % unit != 0 then whole + 1 else whole) 0
  | special => special

/-- The whole number reached by dropping the fraction of a finite number. -/
def truncate? : Reading → Option Int
  | .finite negative mantissa exponent =>
    let whole : Nat :=
      if 0 ≤ exponent then mantissa * Nat.pow 2 exponent.toNat
      else mantissa / Nat.pow 2 (-exponent).toNat
    some (if negative then -whole else whole)
  | _ => none

/-- Whether a number read is a whole number. -/
def isWhole : Reading → Bool
  | .finite _ mantissa exponent => 0 ≤ exponent || mantissa % Nat.pow 2 (-exponent).toNat == 0
  | _ => false

/-- The whole number that is read, if it is one. -/
def whole? (reading : Reading) : Option Int := if reading.isWhole then reading.truncate? else none

end Reading

/-- The reading of a double. -/
def readDouble (x : Float) : Reading := double.read x.toBits.toNat

/-- The reading of a single. -/
def readSingle (x : Float32) : Reading := single.read x.toBits.toNat

/-- The double that has the value of a single. -/
def widen (x : Float32) : Float := Float.ofBits (.ofNat (double.write (readSingle x)))

/-- The single nearest to a double. -/
def narrow (x : Float) : Float32 := Float32.ofBits (.ofNat (single.write (readDouble x)))

/-- A single moved into the range of the finite ones: an infinite one becomes the greatest of its
sign, and what is not a number stays. -/
def finiteSingle (x : Float32) : Float32 :=
  match readSingle x with
  | .infinite negative =>
    Float32.ofBits (.ofNat ((if negative then single.signWeight else 0) + (single.infinity - 1)))
  | _ => x

/-- The greatest whole single that is not above the given one. -/
def floorSingle (x : Float32) : Float32 :=
  Float32.ofBits (.ofNat (single.write (readSingle x).floor))

end Number
end Arbor
