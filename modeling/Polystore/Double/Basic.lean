/-!
# Binary64 numbers

A finite number of the IEEE binary64 format is a sign and a magnitude: the
lower 63 bits of its encoding, read as a natural number.  Magnitudes grow with
the absolute value, so the order of numbers is the order of the signed
magnitudes and no arithmetic on the encoded value is needed to compare them.

Arithmetic is exact: a magnitude denotes a fraction, and a result is the
magnitude nearest to an exact fraction, with ties to the even neighbour.
-/

namespace Polystore

/-- A number of the binary64 format: its sign, and the lower 63 bits of its
encoding. -/
structure Double where
  negative : Bool
  magnitude : Nat
deriving DecidableEq, Repr

namespace Double

/-- The signed magnitude.  Both zeros have key `0`. -/
def key (number : Double) : Int :=
  if number.negative then -number.magnitude else number.magnitude

/-- Numbers compare by their signed magnitudes. -/
def order (left right : Double) : Ordering :=
  compare left.key right.key

/-- The positive zero. -/
def zero : Double := ⟨false, 0⟩

/-- The weight of the leading bit of a full significand: there are 52 bits below
it. -/
def leadingBit : Nat := 0x10000000000000

/-- The magnitude that stands for values beyond the largest finite number. -/
def infiniteMagnitude : Nat := 2047 * leadingBit

/-- A magnitude denotes `significand * 2 ^ exponent`. -/
def decode (magnitude : Nat) : Nat × Int :=
  let field : Nat := magnitude / leadingBit
  let fraction : Nat := magnitude % leadingBit
  if field = 0 then (fraction, -1074) else (fraction + leadingBit, (field : Int) - 1075)

/-- The fraction `numerator / denominator / 2 ^ exponent`, again as a numerator
and a denominator. -/
def scaled (numerator denominator : Nat) (exponent : Int) : Nat × Nat :=
  if exponent ≥ 0 then (numerator, denominator * Nat.pow 2 exponent.toNat)
  else (numerator * Nat.pow 2 (-exponent).toNat, denominator)

/-- The fraction that a magnitude denotes. -/
def ratio (magnitude : Nat) : Nat × Nat :=
  let (significand, exponent) := decode magnitude
  if exponent ≥ 0 then (significand * Nat.pow 2 exponent.toNat, 1)
  else (significand, Nat.pow 2 (-exponent).toNat)

/-- A quotient rounded to the nearest natural number, ties to even. -/
def roundQuotient (numerator denominator : Nat) : Nat :=
  let quotient := numerator / denominator
  let twice := 2 * (numerator % denominator)
  if twice > denominator ∨ (twice = denominator ∧ quotient % 2 = 1) then
    quotient + 1
  else quotient

/-- The exponent of the last binary place of the magnitude nearest to a
positive fraction: with it the significand has 53 bits, unless the fraction is
too small for that. -/
def placeExponent (numerator denominator : Nat) : Int :=
  let guess : Int := (numerator.log2 : Int) - denominator.log2 - 52
  let (top, bottom) := scaled numerator denominator guess
  let exponent := if top / bottom < leadingBit then guess - 1 else guess
  max exponent (-1074)

/-- The magnitude nearest to a fraction, ties to even; a fraction beyond the
largest finite number gives `infiniteMagnitude`. -/
def roundRatio (numerator denominator : Nat) : Nat :=
  if numerator = 0 then 0 else
    let exponent := placeExponent numerator denominator
    let (top, bottom) := scaled numerator denominator exponent
    min infiniteMagnitude
      ((exponent + 1074).toNat * leadingBit + roundQuotient top bottom)

/-- The number nearest to an integer. -/
def ofInt (value : Int) : Double :=
  ⟨decide (value < 0), roundRatio value.natAbs 1⟩

/-- The number nearest to the quotient of two natural numbers; a quotient by
zero counts as zero. -/
def ofQuotient (numerator denominator : Nat) : Double :=
  if denominator = 0 then zero else ⟨false, roundRatio numerator denominator⟩

/-- The product of two magnitudes, rounded. -/
def mulMagnitude (left right : Nat) : Nat :=
  let (leftTop, leftBottom) := ratio left
  let (rightTop, rightBottom) := ratio right
  roundRatio (leftTop * rightTop) (leftBottom * rightBottom)

/-- The quotient of two magnitudes, rounded. -/
def divMagnitude (left right : Nat) : Nat :=
  let (leftTop, leftBottom) := ratio left
  let (rightTop, rightBottom) := ratio right
  roundRatio (leftTop * rightBottom) (leftBottom * rightTop)

/-- The largest power of ten among the binary64 numbers is `10 ^ 308`. -/
def largestTen : Nat := 308

/-- The magnitude nearest to a power of ten. -/
def tenMagnitude (power : Nat) : Nat :=
  roundRatio (Nat.pow 10 power) 1

/-- The magnitude read for `significand * 10 ^ exponent` from decimal text: the
significand and the power of ten are rounded first and combined by one rounded
multiplication or division; exponents below `-308` divide by `10 ^ 308` as
often as needed.  `none` when the result is beyond the largest number.

The fuel counts the divisions: after two of them every significand of at most
64 bits is zero. -/
def scaleByTen (magnitude : Nat) : (fuel : Nat) → (exponent : Int) → Option Nat
  | fuel, exponent =>
    if 0 ≤ exponent then
      if exponent.toNat ≤ largestTen then
        let product := mulMagnitude magnitude (tenMagnitude exponent.toNat)
        if product < infiniteMagnitude then some product else none
      else if magnitude = 0 then some 0
      else none
    else if (-exponent).toNat ≤ largestTen then
      some (divMagnitude magnitude (tenMagnitude (-exponent).toNat))
    else if magnitude = 0 then some 0
    else match fuel with
      | 0 => some 0
      | fuel + 1 =>
          scaleByTen (divMagnitude magnitude (tenMagnitude largestTen)) fuel
            (exponent + largestTen)

/-- The number that decimal text with the given significand and power of ten
denotes. -/
def ofDecimal? (negative : Bool) (significand : Nat) (exponent : Int) : Option Double :=
  (scaleByTen (roundRatio significand 1) 4 exponent).map fun magnitude =>
    ⟨negative, magnitude⟩

theorem order_swap (left right : Double) :
    (order left right).swap = order right left := by
  simp [order, Int.compare_swap]

end Double

end Polystore
