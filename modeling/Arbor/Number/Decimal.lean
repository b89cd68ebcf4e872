import Arbor.Number.Format

/-!
# Decimal text of doubles

Two questions about decimals are answered in exact whole-number arithmetic.  Which is the shortest
decimal that reads back as a given double (`shortest`), and which double is nearest to the value
rounded to a number of places (`roundPlaces`)?  Both start from the `Reading` of a double and never
from an approximate decimal.  `realText` then writes the shortest decimal the way the messages of
this library write numbers.
-/

namespace Arbor
namespace Number

/-- The number of decimal digits of a whole number, one for zero. -/
def digitCount (n : Nat) : Nat := (Nat.toDigits 10 n).length

/-- The decimal number `digits * 10 ^ power`. -/
structure Decimal where
  digits : Nat
  power : Int
  deriving DecidableEq, Repr

namespace Decimal

/-- Move trailing zeros from the digits into the power, at most `bound` of them. -/
def strip : Nat → Decimal → Decimal
  | 0, d => d
  | bound + 1, d =>
    if d.digits ≠ 0 ∧ d.digits % 10 = 0 then strip bound ⟨d.digits / 10, d.power + 1⟩ else d

/-- How many places before the point the leading digit stands: the number lies between
`10 ^ (lead - 1)` and `10 ^ lead`. -/
def lead (d : Decimal) : Int := digitCount d.digits + d.power

/-- The number with its point written in place and at least one digit on either side of it. -/
def positional (d : Decimal) : String :=
  let text := (Nat.toDigits 10 d.digits)
  let before := d.lead
  if before ≤ 0 then
    .ofList ('0' :: '.' :: List.replicate (-before).toNat '0' ++ text)
  else if text.length ≤ before.toNat then
    .ofList (text ++ List.replicate (before.toNat - text.length) '0' ++ ['.', '0'])
  else
    .ofList (text.take before.toNat ++ '.' :: text.drop before.toNat)

/-- The number with one digit before the point and a signed exponent of two digits or more. -/
def scientific (d : Decimal) : String :=
  let exponent := d.lead - 1
  let size := Nat.toDigits 10 exponent.natAbs
  let padded := if size.length < 2 then '0' :: size else size
  let mantissa := match Nat.toDigits 10 d.digits with
    | [] => []
    | [digit] => [digit]
    | digit :: more => digit :: '.' :: more
  .ofList (mantissa ++ 'e' :: (if exponent < 0 then '-' else '+') :: padded)

end Decimal

/-- The numbers that read back as one magnitude of a format, in quarters of its last bit: all from
`low` to `high`, the ends included when `closed`. -/
structure Neighbourhood where
  low : Nat
  value : Nat
  high : Nat
  closed : Bool

/-- Half a bit to either side, and a quarter below a power of two, where the patterns below lie
twice as dense.  The ends read back when the mantissa is even. -/
def Format.neighbourhood (f : Format) (mantissa : Nat) (exponent : Int) : Neighbourhood where
  low :=
    if mantissa = f.mantissas ∧ f.leastExponent < exponent then 4 * mantissa - 1
    else 4 * mantissa - 2
  value := 4 * mantissa
  high := 4 * mantissa + 2
  closed := mantissa % 2 == 0

/-- Whether `c / d` lies among the numbers that read back, these being counted in units of
`n / d`. -/
def Neighbourhood.holds (near : Neighbourhood) (n c : Nat) : Bool :=
  if near.closed then near.low * n ≤ c && c ≤ near.high * n
  else near.low * n < c && c < near.high * n

/-- The place of the leading digit of `n / d`, for `n` above zero: one more than the greatest power
of ten that is not above it. -/
def leadOfQuotient (n d : Nat) : Int :=
  if d ≤ n then digitCount (n / d) else 1 - digitCount ((d - 1) / n)

/-- The point nearest to the value on the grid of decimals with `places` significant digits, if it
or the grid point on the value's other side reads back.  The quarter bit is `unit / scale`. -/
def Neighbourhood.onGrid? (near : Neighbourhood) (unit scale places : Nat) : Option Decimal :=
  let power := leadOfQuotient (near.value * unit) scale - places
  let unit := if power ≤ 0 then unit * Nat.pow 10 (-power).toNat else unit
  let scale := if power ≤ 0 then scale else scale * Nat.pow 10 power.toNat
  let exact := near.value * unit
  let below := exact / scale
  let fits (c : Nat) := near.holds unit (c * scale)
  let nearest := roundQuotient exact scale
  let other := if nearest = below then below + 1 else below
  if fits nearest then some ⟨nearest, power⟩
  else if fits other then some ⟨other, power⟩
  else none

/-- The decimal with the fewest digits that reads back as `mantissa * 2 ^ exponent`, of those the
nearest.  Seventeen digits suffice for every double. -/
def shortest (f : Format) (mantissa : Nat) (exponent : Int) : Decimal :=
  let near := f.neighbourhood mantissa exponent
  let quarter := exponent - 2
  let unit := if 0 ≤ quarter then Nat.pow 2 quarter.toNat else 1
  let scale := if 0 ≤ quarter then 1 else Nat.pow 2 (-quarter).toNat
  let found := (List.range 17).findSome? fun fewer => near.onGrid? unit scale (fewer + 1)
  (found.getD ⟨0, 0⟩).strip 17

/-- The text of a double: the shortest decimal that reads back, with its point in place when the
leading digit stands between the fourth place after the point and the sixteenth before it. -/
def realText (x : Float) : String :=
  match readDouble x with
  | .nan => "nan"
  | .infinite negative => if negative then "-inf" else "inf"
  | .finite negative mantissa exponent =>
    let size :=
      if mantissa = 0 then "0.0"
      else
        let d := shortest double mantissa exponent
        if -4 < d.lead ∧ d.lead ≤ 16 then d.positional else d.scientific
    if negative then "-" ++ size else size

/-- The whole number of steps of `10 ^ (-places)` nearest to a magnitude, ties to even. -/
def stepsOfPlaces (places mantissa : Nat) (exponent : Int) : Nat :=
  if 0 ≤ exponent then mantissa * Nat.pow 2 exponent.toNat * Nat.pow 10 places
  else roundQuotient (mantissa * Nat.pow 10 places) (Nat.pow 2 (-exponent).toNat)

/-- The double nearest to the value rounded to a number of decimal places; the value is rounded
exactly, with ties to even, and special values stay as they are. -/
def roundPlaces (places : Nat) (x : Float) : Float :=
  match readDouble x with
  | .finite negative mantissa exponent =>
    let size := Float.ofScientific (stepsOfPlaces places mantissa exponent) true places
    if negative then -size else size
  | _ => x

end Number
end Arbor
