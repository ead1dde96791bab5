import Polystore.Double.Basic
import Polystore.Text.Integer

/-!
# Shortest decimal text

The text of a number has the fewest significant digits that read back as the
number, and of those the nearest to it.  It is positional with at least one
decimal from `1e-5` up to `1e16`, and has an exponent outside that range.

The decimals that read back are those between the midpoints to the two
neighbouring magnitudes, the midpoints included when the magnitude is even.
For each count of digits only the two grid points beside the value can be
nearest, so the search tests two candidates for one to seventeen digits.
-/

namespace Polystore.Double

/-- Twice the value and the two midpoints around it, as numerators over one
common denominator: value, lower midpoint, upper midpoint, denominator. -/
structure Neighbourhood where
  value : Nat
  lower : Nat
  upper : Nat
  denominator : Nat

/-- The neighbourhood of a positive magnitude.  Below a power of two the lower
neighbour is half as far away as the upper one. -/
def neighbourhood (magnitude : Nat) : Neighbourhood :=
  let (significand, exponent) := decode magnitude
  let below := if magnitude % leadingBit = 0 ∧ magnitude / leadingBit > 1 then 1 else 2
  if exponent ≥ 0 then
    let unit := Nat.pow 2 exponent.toNat
    ⟨4 * significand * unit, (4 * significand - below) * unit,
      (4 * significand + 2) * unit, 4⟩
  else
    ⟨4 * significand, 4 * significand - below, 4 * significand + 2,
      4 * Nat.pow 2 (-exponent).toNat⟩

/-- Whether a fraction reads back as the magnitude of the neighbourhood. -/
def Neighbourhood.reads (around : Neighbourhood) (even : Bool)
    (numerator denominator : Nat) : Bool :=
  let point := numerator * around.denominator
  let lower := around.lower * denominator
  let upper := around.upper * denominator
  if even then decide (lower ≤ point ∧ point ≤ upper)
  else decide (lower < point ∧ point < upper)

/-- The number of decimal digits of a natural number, zero having none. -/
def digitCount (value : Nat) : Nat :=
  if value = 0 then 0 else digitCount (value / 10) + 1

/-- The exponent of the leading decimal digit of a positive fraction: the
fraction is at least `10 ^ exponent` and below `10 ^ (exponent + 1)`. -/
def leadingExponent (numerator denominator : Nat) : Int :=
  if denominator ≤ numerator then
    (digitCount (numerator / denominator) : Int) - 1
  else
    let guess := digitCount (denominator / numerator)
    if denominator ≤ numerator * Nat.pow 10 (guess - 1) then -((guess : Int) - 1)
    else -(guess : Int)

/-- The candidate with digits in steps of `10 ^ step`: the neighbouring grid
point that reads back, the nearer one if both do, the even one on a tie. -/
def candidate (around : Neighbourhood) (even : Bool) (step : Int) : Option Nat :=
  let top := if step ≥ 0 then around.value else around.value * Nat.pow 10 (-step).toNat
  let bottom :=
    if step ≥ 0 then around.denominator * Nat.pow 10 step.toNat else around.denominator
  let down := top / bottom
  let twice := 2 * (top % bottom)
  let reads (digits : Nat) : Bool :=
    if step ≥ 0 then around.reads even (digits * Nat.pow 10 step.toNat) 1
    else around.reads even digits (Nat.pow 10 (-step).toNat)
  let upIsNearer := twice > bottom || (twice == bottom && down % 2 == 1)
  match reads down, reads (down + 1) with
  | true, true => some (if upIsNearer then down + 1 else down)
  | true, false => some down
  | false, true => some (down + 1)
  | false, false => none

/-- The first candidate among growing counts of digits, with its step. -/
def search (around : Neighbourhood) (even : Bool) (leading : Int) :
    (tries : Nat) → (digits : Nat) → Nat × Int
  | 0, digits => (0, leading - digits + 1)
  | tries + 1, digits =>
      let step := leading - digits + 1
      match candidate around even step with
      | some found => (found, step)
      | none => search around even leading tries (digits + 1)

/-- The shortest decimal `digits * 10 ^ step` of a positive magnitude. -/
def shortest (magnitude : Nat) : Nat × Int :=
  let around := neighbourhood magnitude
  search around (magnitude % 2 = 0)
    (leadingExponent around.value around.denominator) 17 1

/-- Drop zeros at the end of the digits, raising the step. -/
def dropZeros : (fuel : Nat) → Nat → Int → Nat × Int
  | 0, digits, step => (digits, step)
  | fuel + 1, digits, step =>
      if digits ≠ 0 ∧ digits % 10 = 0 then dropZeros fuel (digits / 10) (step + 1)
      else (digits, step)

/-- The text of a positive decimal `digits * 10 ^ step`.  With the point at
position `digitCount + step`, text is positional while that position lies from
`-4` to `16`. -/
def renderDecimal (digits : Nat) (step : Int) : List Char :=
  let written := Text.ofNat digits
  let point : Int := written.length + step
  if 0 ≤ step ∧ point ≤ 16 then
    written ++ List.replicate step.toNat '0' ++ ['.', '0']
  else if 0 < point ∧ point ≤ 16 then
    written.take point.toNat ++ '.' :: written.drop point.toNat
  else if -5 < point ∧ point ≤ 0 then
    '0' :: '.' :: List.replicate (-point).toNat '0' ++ written
  else
    let exponent := point - 1
    let sign := if exponent < 0 then ['-'] else ['+']
    let mantissa := match written with
      | [] => []
      | [only] => [only]
      | first :: rest => first :: '.' :: rest
    mantissa ++ 'e' :: sign ++ Text.ofNat exponent.natAbs

/-- The text of a number. -/
def text (number : Double) : List Char :=
  let body :=
    if number.magnitude = 0 then ['0', '.', '0']
    else
      let (digits, step) := shortest number.magnitude
      let (kept, place) := dropZeros 20 digits step
      renderDecimal kept place
  if number.negative then '-' :: body else body

end Polystore.Double
